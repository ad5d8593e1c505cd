import AlgorithmPolicy.Proofs.Suite.EntryOrder

/-! Suites whose snapshots are hashed from the same text give the same answers, down to the
messages of their checks. The text tells the snapshot, and what a snapshot leaves out of a
suite, which is how its policy names algorithms, bears on no answer. -/

namespace AlgorithmPolicy.Suite

/-- Every query and every check gives the same result. -/
structure SameAnswers (left right : Suite) : Prop where
  digestExpiration? : ∀ digest, left.digestExpiration? digest = right.digestExpiration? digest
  signatureExpiration? : ∀ signature keySize,
    left.signatureExpiration? signature keySize = right.signatureExpiration? signature keySize
  isDigestAcceptable : ∀ digest instant,
    left.isDigestAcceptable digest instant = right.isDigestAcceptable digest instant
  isSignatureAcceptable : ∀ signature keySize instant,
    left.isSignatureAcceptable signature keySize instant =
      right.isSignatureAcceptable signature keySize instant
  checkDigest : ∀ digest instant,
    left.checkDigest digest instant = right.checkDigest digest instant
  checkSignature : ∀ signature keySize instant,
    left.checkSignature signature keySize instant = right.checkSignature signature keySize instant

/-- Answers come from the views, the metadata and the levels; the records play no part. -/
theorem sameAnswers_of_views {left right : Suite}
    (sameViews : left.acceptability = right.acceptability)
    (sameMetadata : left.catalogue.metadata = right.catalogue.metadata)
    (sameLevels : left.levels = right.levels) : SameAnswers left right := by
  rcases left with ⟨⟨leftRecords, leftMetadata⟩, leftViews, leftLevels⟩
  rcases right with ⟨⟨rightRecords, rightMetadata⟩, rightViews, rightLevels⟩
  dsimp only at sameViews sameMetadata sameLevels
  subst sameViews sameMetadata sameLevels
  constructor <;> intros <;> rfl

/-- Views can be told from the snapshot they are shown in: no two rows become one in it. -/
theorem acceptability_eq_of_snapshot {leftRegistry rightRegistry : Registry}
    {leftPolicy rightPolicy : Policy}
    (same : (ofPolicy leftRegistry leftPolicy).snapshot =
      (ofPolicy rightRegistry rightPolicy).snapshot) :
    (ofPolicy leftRegistry leftPolicy).acceptability =
      (ofPolicy rightRegistry rightPolicy).acceptability := by
  rw [← viewsOf_snapshot, ← viewsOf_snapshot, same]

/-- Where two suites have the same levels and the same bytes are hashed for their snapshots,
they give the same answers, whatever policies and registries they were made from. -/
theorem sameAnswers_of_canonicalText {leftRegistry rightRegistry : Registry}
    {leftPolicy rightPolicy : Policy} {levels : Levels} {leftText rightText : String}
    (leftWritten : ((ofPolicy leftRegistry leftPolicy).withLevels levels).snapshot.canonicalText =
      .ok leftText)
    (rightWritten :
      ((ofPolicy rightRegistry rightPolicy).withLevels levels).snapshot.canonicalText =
        .ok rightText)
    (sameBytes : leftText.toUTF8 = rightText.toUTF8) :
    SameAnswers ((ofPolicy leftRegistry leftPolicy).withLevels levels)
      ((ofPolicy rightRegistry rightPolicy).withLevels levels) := by
  have sameText : leftText = rightText := String.toByteArray_inj.mp sameBytes
  rw [← sameText] at rightWritten
  have sameSnapshot : (ofPolicy leftRegistry leftPolicy).snapshot =
      (ofPolicy rightRegistry rightPolicy).snapshot :=
    Snapshot.canonicalText_injective leftWritten rightWritten
  have sameViews := acceptability_eq_of_snapshot sameSnapshot
  have sameMetadata := congrArg Snapshot.metadata sameSnapshot
  exact sameAnswers_of_views sameViews sameMetadata rfl

/-- Two policies for SHA-256 whose entries differ, though only where the other entry decides
how the end is written. -/
theorem sameAnswers_of_two_entries :
    ∃ text, ((ofPolicy Directory.standard.registry
          (.ofEntries [sha256Until startOfYear, sha256Until startOfYearAhead])).withLevels
            .initial).snapshot.canonicalText = .ok text ∧
      ((ofPolicy Directory.standard.registry
          (.ofEntries [sha256Until startOfYearAhead, sha256Until startOfYearAhead])).withLevels
            .initial).snapshot.canonicalText = .ok text ∧
      SameAnswers
        ((ofPolicy Directory.standard.registry
          (.ofEntries [sha256Until startOfYear, sha256Until startOfYearAhead])).withLevels
            .initial)
        ((ofPolicy Directory.standard.registry
          (.ofEntries [sha256Until startOfYearAhead, sha256Until startOfYearAhead])).withLevels
            .initial) := by
  rcases (Snapshot.exists_canonicalText_eq_ok_iff _).mpr isWritable_of_two_entries with
    ⟨text, written⟩
  have sameSnapshot : (ofPolicy Directory.standard.registry
        (.ofEntries [sha256Until startOfYearAhead, sha256Until startOfYearAhead])).snapshot =
      (ofPolicy Directory.standard.registry
        (.ofEntries [sha256Until startOfYear, sha256Until startOfYearAhead])).snapshot := by
    have laterEnd : (Expiration.at startOfYear).latest (.at startOfYearAhead) =
        .at startOfYearAhead := rfl
    have sameEnd : (Expiration.at startOfYearAhead).latest (.at startOfYearAhead) =
        .at startOfYearAhead := rfl
    rw [snapshot_of_two_entries, snapshot_of_two_entries, laterEnd, sameEnd]
  have writtenToo := written
  rw [← sameSnapshot] at writtenToo
  exact ⟨text, written, writtenToo, sameAnswers_of_canonicalText written writtenToo rfl⟩

end AlgorithmPolicy.Suite

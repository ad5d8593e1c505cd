import AlgorithmPolicy.Fingerprint
import AlgorithmPolicy.Proofs.Except
import AlgorithmPolicy.Proofs.Json.Canonical
import AlgorithmPolicy.Proofs.Time.Rfc3339

/-! The canonical text of a snapshot: there is one if every date in the snapshot can be
written, and it tells the whole snapshot. -/

namespace AlgorithmPolicy

/-! ## Dates -/

/-- The notation has room for an instant. -/
def Instant.IsWritable (instant : Instant) : Prop :=
  Rfc3339.obstacle? instant = none

def Expiration.IsWritable (expiration : Expiration) : Prop :=
  ∀ last, expiration = .at last → last.IsWritable

theorem Instant.isWritable_iff (instant : Instant) :
    instant.IsWritable ↔ ∃ text, Rfc3339.write instant = .ok text := by
  rw [IsWritable]
  constructor
  · intro writable
    exact ⟨_, Rfc3339.write_eq_ok_iff.mpr ⟨writable, rfl⟩⟩
  · rintro ⟨text, written⟩
    exact (Rfc3339.write_eq_ok_iff.mp written).1

theorem Instant.exists_toJson_eq_ok_iff (instant : Instant) :
    (∃ json, instant.toJson = .ok json) ↔ instant.IsWritable := by
  rw [isWritable_iff]
  constructor
  · rintro ⟨json, written⟩
    rcases Except.map_eq_ok_iff.mp written with ⟨text, isText, -⟩
    exact ⟨text, isText⟩
  · rintro ⟨text, isText⟩
    exact ⟨_, Except.map_eq_ok_iff.mpr ⟨text, isText, rfl⟩⟩

theorem Instant.exists_optionToJson_eq_ok_iff (instant : Option Instant) :
    (∃ json, Instant.optionToJson instant = .ok json) ↔
      ∀ date ∈ instant, date.IsWritable := by
  cases instant with
  | none => simp [Instant.optionToJson]
  | some date => simpa [Instant.optionToJson] using Instant.exists_toJson_eq_ok_iff date

theorem Expiration.exists_toJson_eq_ok_iff (expiration : Expiration) :
    (∃ json, expiration.toJson = .ok json) ↔ expiration.IsWritable := by
  rw [Expiration.toJson, Instant.exists_optionToJson_eq_ok_iff, IsWritable]
  cases expiration <;> simp [Expiration.end?]

/-! ## Telling values from their texts -/

/-- Values can be told from what is written for them, however its members are sorted. -/
def Tells {ε α : Type} (write : α → Except ε Json) : Prop :=
  ∀ {left right : α} {leftJson rightJson : Json}, write left = .ok leftJson →
    write right = .ok rightJson → leftJson.sorted = rightJson.sorted → left = right

theorem Instant.tells_optionToJson : Tells Instant.optionToJson := by
  intro left right leftJson rightJson leftWritten rightWritten same
  cases left with
  | none =>
      rcases Except.ok.inj leftWritten with rfl
      cases right with
      | none => rfl
      | some rightDate =>
          rcases Except.map_eq_ok_iff.mp rightWritten with ⟨text, -, rfl⟩
          cases same
  | some leftDate =>
      rcases Except.map_eq_ok_iff.mp leftWritten with ⟨text, leftText, rfl⟩
      cases right with
      | none =>
          rcases Except.ok.inj rightWritten with rfl
          cases same
      | some rightDate =>
          rcases Except.map_eq_ok_iff.mp rightWritten with ⟨other, rightText, rfl⟩
          rcases Json.string.inj same with rfl
          rw [Rfc3339.write_injective leftText rightText]

theorem Expiration.tells_toJson : Tells Expiration.toJson := by
  intro left right leftJson rightJson leftWritten rightWritten same
  have sameEnd := Instant.tells_optionToJson leftWritten rightWritten same
  cases left <;> cases right <;> simp_all [Expiration.end?]

theorem sorted_ofOption_string_inj {left right : Option String}
    (same : (Json.ofOption .string left).sorted = (Json.ofOption .string right).sorted) :
    left = right := by
  cases left <;> cases right <;> simp_all [Json.ofOption, Json.sorted]

/-- What can be told of each item can be told of a list. -/
theorem mapM_inj_of_tells {ε α : Type} {write : α → Except ε Json} (tells : Tells write)
    {lefts rights : List α} {leftJsons rightJsons : List Json}
    (leftWritten : lefts.mapM write = .ok leftJsons)
    (rightWritten : rights.mapM write = .ok rightJsons)
    (same : leftJsons.map Json.sorted = rightJsons.map Json.sorted) : lefts = rights := by
  rw [Except.mapM_eq_ok_iff] at leftWritten rightWritten
  induction leftWritten generalizing rights rightJsons with
  | nil =>
      cases rightWritten with
      | nil => rfl
      | cons _ _ => cases same
  | cons leftFirst _ induction =>
      cases rightWritten with
      | nil => cases same
      | cons rightFirst rightLater =>
          rcases List.cons.inj same with ⟨sameFirst, sameLater⟩
          rw [tells leftFirst rightFirst sameFirst, induction rightLater sameLater]

/-! ## Rows -/

namespace Snapshot

theorem DigestRow.exists_toJson_eq_ok_iff (row : DigestRow) :
    (∃ json, row.toJson = .ok json) ↔ row.expiration.IsWritable := by
  rw [← Expiration.exists_toJson_eq_ok_iff]
  simp only [DigestRow.toJson, Except.bind_eq_ok_iff]
  constructor
  · rintro ⟨_, expiration, written, -⟩
    exact ⟨expiration, written⟩
  · rintro ⟨expiration, written⟩
    exact ⟨_, expiration, written, rfl⟩

theorem KeySizeRow.exists_toJson_eq_ok_iff (row : KeySizeRow) :
    (∃ json, row.toJson = .ok json) ↔ row.expiration.IsWritable := by
  rw [← Expiration.exists_toJson_eq_ok_iff]
  simp only [KeySizeRow.toJson, Except.bind_eq_ok_iff]
  constructor
  · rintro ⟨_, expiration, written, -⟩
    exact ⟨expiration, written⟩
  · rintro ⟨expiration, written⟩
    exact ⟨_, expiration, written, rfl⟩

theorem DigestRow.tells_toJson : Tells DigestRow.toJson := by
  rintro ⟨leftAlgorithm, leftEnd⟩ ⟨rightAlgorithm, rightEnd⟩ leftJson rightJson
    leftWritten rightWritten same
  rcases Except.bind_eq_ok_iff.mp leftWritten with ⟨leftExpiration, leftExpirationWritten, leftIs⟩
  rcases Except.bind_eq_ok_iff.mp rightWritten with
    ⟨rightExpiration, rightExpirationWritten, rightIs⟩
  rcases Except.ok.inj leftIs with rfl
  rcases Except.ok.inj rightIs with rfl
  have sameValues := Json.sorted_object_inj same rfl
  simp only [List.map_cons, List.map_nil, List.cons.injEq, Json.sorted, Json.string.injEq,
    and_true] at sameValues
  rcases Labelled.label_injective sameValues.1 with rfl
  rcases Expiration.tells_toJson leftExpirationWritten rightExpirationWritten sameValues.2 with rfl
  rfl

theorem KeySizeRow.tells_toJson : Tells KeySizeRow.toJson := by
  rintro ⟨leftAlgorithm, leftSize, leftEnd⟩ ⟨rightAlgorithm, rightSize, rightEnd⟩ leftJson
    rightJson leftWritten rightWritten same
  rcases Except.bind_eq_ok_iff.mp leftWritten with ⟨leftExpiration, leftExpirationWritten, leftIs⟩
  rcases Except.bind_eq_ok_iff.mp rightWritten with
    ⟨rightExpiration, rightExpirationWritten, rightIs⟩
  rcases Except.ok.inj leftIs with rfl
  rcases Except.ok.inj rightIs with rfl
  have sameValues := Json.sorted_object_inj same rfl
  simp only [List.map_cons, List.map_nil, List.cons.injEq, Json.sorted, Json.string.injEq,
    Json.integer.injEq, and_true] at sameValues
  rcases sameValues with ⟨sameLabel, sameSize, sameExpiration⟩
  rcases Labelled.label_injective sameLabel with rfl
  rcases UInt32.toNat_inj.mp (Int.ofNat.inj sameSize) with rfl
  rcases Expiration.tells_toJson leftExpirationWritten rightExpirationWritten sameExpiration with
    rfl
  rfl

end Snapshot

/-! ## Metadata -/

namespace Catalogue.Metadata

theorem exists_toJson_eq_ok_iff (metadata : Metadata) :
    (∃ json, metadata.toJson = .ok json) ↔
      (∀ date ∈ metadata.issueDate, date.IsWritable) ∧
        ∀ date ∈ metadata.nextUpdate, date.IsWritable := by
  rw [← Instant.exists_optionToJson_eq_ok_iff, ← Instant.exists_optionToJson_eq_ok_iff]
  simp only [toJson, Except.bind_eq_ok_iff]
  constructor
  · rintro ⟨_, issueDate, issueWritten, nextUpdate, nextWritten, -⟩
    exact ⟨⟨issueDate, issueWritten⟩, nextUpdate, nextWritten⟩
  · rintro ⟨⟨issueDate, issueWritten⟩, nextUpdate, nextWritten⟩
    exact ⟨_, issueDate, issueWritten, nextUpdate, nextWritten, rfl⟩

theorem tells_toJson : Tells toJson := by
  intro left right leftJson rightJson leftWritten rightWritten same
  rcases Except.bind_eq_ok_iff.mp leftWritten with ⟨leftIssue, leftIssueWritten, leftMore⟩
  rcases Except.bind_eq_ok_iff.mp leftMore with ⟨leftUpdate, leftUpdateWritten, leftIs⟩
  rcases Except.bind_eq_ok_iff.mp rightWritten with ⟨rightIssue, rightIssueWritten, rightMore⟩
  rcases Except.bind_eq_ok_iff.mp rightMore with ⟨rightUpdate, rightUpdateWritten, rightIs⟩
  rcases Except.ok.inj leftIs with rfl
  rcases Except.ok.inj rightIs with rfl
  have sameValues := Json.sorted_object_inj same rfl
  simp only [List.map_cons, List.map_nil, List.cons.injEq, Json.sorted, Json.string.injEq,
    and_true] at sameValues
  rcases sameValues with
    ⟨policyName, policyIdentifier, policyUri, publisherName, publisherAddress, publisherUri,
      issueDate, nextUpdate, usage, version, language, id⟩
  have sameIssue := Instant.tells_optionToJson leftIssueWritten rightIssueWritten issueDate
  have sameUpdate := Instant.tells_optionToJson leftUpdateWritten rightUpdateWritten nextUpdate
  rcases left with ⟨⟩
  rcases right with ⟨⟩
  simp only [mk.injEq]
  exact ⟨sorted_ofOption_string_inj policyName, sorted_ofOption_string_inj policyIdentifier,
    sorted_ofOption_string_inj policyUri, sorted_ofOption_string_inj publisherName,
    sorted_ofOption_string_inj publisherAddress, sorted_ofOption_string_inj publisherUri,
    sameIssue, sameUpdate, sorted_ofOption_string_inj usage, version, language,
    sorted_ofOption_string_inj id⟩

end Catalogue.Metadata

/-! ## Snapshots -/

namespace Snapshot

/-- The notation has room for every date in a snapshot. -/
structure IsWritable (snapshot : Snapshot) : Prop where
  issueDate : ∀ date ∈ snapshot.metadata.issueDate, date.IsWritable
  nextUpdate : ∀ date ∈ snapshot.metadata.nextUpdate, date.IsWritable
  digests : ∀ row ∈ snapshot.digests, row.expiration.IsWritable
  keySizes : ∀ row ∈ snapshot.keySizes, row.expiration.IsWritable

theorem exists_canonicalText_eq_ok_iff (snapshot : Snapshot) :
    (∃ text, snapshot.canonicalText = .ok text) ↔ snapshot.IsWritable := by
  have rows := Except.exists_mapM_eq_ok_iff DigestRow.toJson snapshot.digests
  have sizes := Except.exists_mapM_eq_ok_iff KeySizeRow.toJson snapshot.keySizes
  simp only [DigestRow.exists_toJson_eq_ok_iff] at rows
  simp only [KeySizeRow.exists_toJson_eq_ok_iff] at sizes
  have metadata := snapshot.metadata.exists_toJson_eq_ok_iff
  simp only [canonicalText, Except.map_eq_ok_iff, toJson, Except.bind_eq_ok_iff]
  constructor
  · rintro ⟨_, _, ⟨_, metadataWritten, _, digestsWritten, _, keySizesWritten, -⟩, -⟩
    rcases metadata.mp ⟨_, metadataWritten⟩ with ⟨issueDate, nextUpdate⟩
    exact ⟨issueDate, nextUpdate, rows.mp ⟨_, digestsWritten⟩, sizes.mp ⟨_, keySizesWritten⟩⟩
  · rintro ⟨issueDate, nextUpdate, digests, keySizes⟩
    rcases metadata.mpr ⟨issueDate, nextUpdate⟩ with ⟨_, metadataWritten⟩
    rcases rows.mpr digests with ⟨_, digestsWritten⟩
    rcases sizes.mpr keySizes with ⟨_, keySizesWritten⟩
    exact ⟨_, _, ⟨_, metadataWritten, _, digestsWritten, _, keySizesWritten, rfl⟩, rfl⟩

theorem tells_toJson : Tells toJson := by
  intro left right leftJson rightJson leftWritten rightWritten same
  rcases Except.bind_eq_ok_iff.mp leftWritten with ⟨leftMetadata, leftMetadataWritten, leftMore⟩
  rcases Except.bind_eq_ok_iff.mp leftMore with ⟨leftDigests, leftDigestsWritten, leftMore⟩
  rcases Except.bind_eq_ok_iff.mp leftMore with ⟨leftSizes, leftSizesWritten, leftIs⟩
  rcases Except.bind_eq_ok_iff.mp rightWritten with ⟨rightMetadata, rightMetadataWritten, rightMore⟩
  rcases Except.bind_eq_ok_iff.mp rightMore with ⟨rightDigests, rightDigestsWritten, rightMore⟩
  rcases Except.bind_eq_ok_iff.mp rightMore with ⟨rightSizes, rightSizesWritten, rightIs⟩
  rcases Except.ok.inj leftIs with rfl
  rcases Except.ok.inj rightIs with rfl
  have sameValues := Json.sorted_object_inj same rfl
  simp only [List.map_cons, List.map_nil, List.cons.injEq, and_true] at sameValues
  rcases sameValues with ⟨metadata, digests, signatures, keySizes⟩
  have sameMetadata :=
    Catalogue.Metadata.tells_toJson leftMetadataWritten rightMetadataWritten metadata
  have sameDigests := mapM_inj_of_tells DigestRow.tells_toJson leftDigestsWritten
    rightDigestsWritten (Json.sorted_array_inj digests)
  have sameSizes := mapM_inj_of_tells KeySizeRow.tells_toJson leftSizesWritten
    rightSizesWritten (Json.sorted_array_inj keySizes)
  have sameSignatures : left.signatures = right.signatures := by
    have sameTexts := Json.sorted_array_inj signatures
    simp only [List.map_map] at sameTexts
    refine List.map_injective_iff.mpr ?_ sameTexts
    intro first second sameText
    exact Labelled.label_injective (Json.string.inj sameText)
  rcases left with ⟨⟩
  rcases right with ⟨⟩
  simp only [mk.injEq]
  exact ⟨sameMetadata, sameDigests, sameSignatures, sameSizes⟩

/-- Snapshots with the same canonical text are the same. -/
theorem canonicalText_injective {left right : Snapshot} {text : String}
    (leftText : left.canonicalText = .ok text) (rightText : right.canonicalText = .ok text) :
    left = right := by
  rcases Except.map_eq_ok_iff.mp leftText with ⟨leftJson, leftWritten, rfl⟩
  rcases Except.map_eq_ok_iff.mp rightText with ⟨rightJson, rightWritten, sameText⟩
  exact tells_toJson leftWritten rightWritten (Json.canonical_inj sameText.symm)

theorem toOption_canonicalText_eq_none_iff (snapshot : Snapshot) :
    snapshot.canonicalText.toOption = none ↔ ¬ snapshot.IsWritable := by
  rw [← exists_canonicalText_eq_ok_iff]
  cases snapshot.canonicalText with
  | error reason => simp [Except.toOption]
  | ok text => simp [Except.toOption]

/-- Only the same snapshots are hashed alike, apart from those that cannot be hashed. -/
theorem toOption_canonicalText_eq_iff (left right : Snapshot) :
    left.canonicalText.toOption = right.canonicalText.toOption ↔
      left = right ∨ ¬ left.IsWritable ∧ ¬ right.IsWritable := by
  constructor
  · intro same
    cases text : right.canonicalText.toOption with
    | none =>
        rw [text] at same
        exact Or.inr ⟨(toOption_canonicalText_eq_none_iff left).mp same,
          (toOption_canonicalText_eq_none_iff right).mp text⟩
    | some found =>
        rw [text] at same
        exact Or.inl (canonicalText_injective (Except.toOption_eq_some_iff.mp same)
          (Except.toOption_eq_some_iff.mp text))
  · rintro (rfl | ⟨leftUnwritable, rightUnwritable⟩)
    · rfl
    · rw [(toOption_canonicalText_eq_none_iff left).mpr leftUnwritable,
        (toOption_canonicalText_eq_none_iff right).mpr rightUnwritable]

theorem toOption_fingerprint (snapshot : Snapshot) :
    snapshot.fingerprint.toOption = snapshot.canonicalText.toOption.map Fingerprint.ofText := by
  rw [fingerprint]
  cases snapshot.canonicalText <;> rfl

end Snapshot

end AlgorithmPolicy

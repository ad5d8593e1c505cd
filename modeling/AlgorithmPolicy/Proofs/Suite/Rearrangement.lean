import AlgorithmPolicy.Proofs.Policy.Rearrangement
import AlgorithmPolicy.Proofs.Suite.Queries
import AlgorithmPolicy.Registry.Directory

/-! What a suite says does not depend on how its policy is written: the same evaluations
give the same verdicts. Only the way in which an end is written may differ, as one of several
equally late ones is kept. -/

namespace AlgorithmPolicy

/-! ## Ends of the same moment -/

theorem Expiration.map_moment_eq {left right : Option Expiration}
    (same : ∀ bound, (∃ expiration ∈ left, bound ≤ expiration.moment) ↔
      ∃ expiration ∈ right, bound ≤ expiration.moment) :
    left.map moment = right.map moment := by
  cases left with
  | none =>
      cases right with
      | none => rfl
      | some expiration =>
          rcases (same expiration.moment).mpr ⟨expiration, rfl, le_rfl⟩ with ⟨_, impossible, -⟩
          cases impossible
  | some leftEnd =>
      rcases (same leftEnd.moment).mp ⟨leftEnd, rfl, le_rfl⟩ with ⟨rightEnd, rfl, leftBelow⟩
      rcases (same rightEnd.moment).mpr ⟨rightEnd, rfl, le_rfl⟩ with ⟨_, isLeft, rightBelow⟩
      rcases Option.some_inj.mp isLeft with rfl
      exact congrArg some (leftBelow.antisymm rightBelow)

theorem Expiration.isAcceptableAt_eq {first second : Expiration}
    (sameMoment : first.moment = second.moment) {instant other : Instant}
    (sameTime : instant.moment = other.moment) :
    first.isAcceptableAt instant = second.isAcceptableAt other := by
  rw [Bool.eq_iff_iff, isAcceptableAt_iff, isAcceptableAt_iff, sameMoment, sameTime]

/-- Rows with their ends as moments. -/
def rowMoments {κ : Type} (rows : List (κ × Expiration)) : List (κ × WithTop Int) :=
  rows.map fun (key, expiration) => (key, expiration.moment)

section Rows

variable {κ : Type} {left right : List (κ × Expiration)}

theorem mem_rowMoments_iff {row : κ × WithTop Int} :
    row ∈ rowMoments left ↔
      ∃ expiration, (row.1, expiration) ∈ left ∧ expiration.moment = row.2 := by
  rcases row with ⟨key, moment⟩
  simp [rowMoments]

variable [Ord κ] [Std.OrientedOrd κ]

private theorem mem_rowMoments_of_reaches
    (leftAscending : left.Pairwise fun row other => compare row.1 other.1 = .lt)
    (same : ∀ key bound, (∃ expiration, (key, expiration) ∈ left ∧ bound ≤ expiration.moment) ↔
      ∃ expiration, (key, expiration) ∈ right ∧ bound ≤ expiration.moment)
    {row : κ × WithTop Int} (member : row ∈ rowMoments left) : row ∈ rowMoments right := by
  rcases mem_rowMoments_iff.mp member with ⟨leftEnd, leftMember, isMoment⟩
  rcases (same row.1 leftEnd.moment).mp ⟨leftEnd, leftMember, le_rfl⟩ with
    ⟨rightEnd, rightMember, leftBelow⟩
  rcases (same row.1 rightEnd.moment).mpr ⟨rightEnd, rightMember, le_rfl⟩ with
    ⟨againEnd, againMember, rightBelow⟩
  rcases end_unique leftAscending leftMember againMember with rfl
  exact mem_rowMoments_iff.mpr
    ⟨rightEnd, rightMember, (rightBelow.antisymm leftBelow).trans isMoment⟩

/-- Sorted rows with the same keys, whose ends reach the same moments, have the same
moments. -/
theorem rowMoments_eq
    (leftAscending : left.Pairwise fun row other => compare row.1 other.1 = .lt)
    (rightAscending : right.Pairwise fun row other => compare row.1 other.1 = .lt)
    (same : ∀ key bound, (∃ expiration, (key, expiration) ∈ left ∧ bound ≤ expiration.moment) ↔
      ∃ expiration, (key, expiration) ∈ right ∧ bound ≤ expiration.moment) :
    rowMoments left = rowMoments right := by
  have leftSorted : (rowMoments left).Pairwise fun row other =>
      compare row.1 other.1 = .lt := List.pairwise_map.mpr leftAscending
  have rightSorted : (rowMoments right).Pairwise fun row other =>
      compare row.1 other.1 = .lt := List.pairwise_map.mpr rightAscending
  refine ascending_eq_of_mem_iff Prod.fst leftSorted rightSorted fun row => ⟨?_, ?_⟩
  · exact mem_rowMoments_of_reaches leftAscending same
  · exact mem_rowMoments_of_reaches rightAscending fun key bound => (same key bound).symm

end Rows

/-! ## Findings -/

/-- What a report finds, without its messages. -/
def Report.findings (report : Report) : List (Category × Level) :=
  report.violations.map fun violation => (violation.category, violation.level)

theorem Report.findings_ofFinding (levels : Levels) (category : Category) (first second : String) :
    (Report.ofFinding levels category first).findings =
      (Report.ofFinding levels category second).findings := by
  rw [ofFinding, ofFinding]
  cases levels.level category <;> rfl

namespace Suite

/-- Two suites give the same answers: their views differ at most in how ends are written,
and all queries agree, as do all checks up to their messages. -/
structure SameVerdicts (left right : Suite) : Prop where
  digests : rowMoments left.acceptability.digests = rowMoments right.acceptability.digests
  signatures : left.acceptability.signatures = right.acceptability.signatures
  keySizes : rowMoments left.acceptability.keySizes = rowMoments right.acceptability.keySizes
  isDigestAcceptable : ∀ digest instant,
    left.isDigestAcceptable digest instant = right.isDigestAcceptable digest instant
  isSignatureAcceptable : ∀ signature keySize instant,
    left.isSignatureAcceptable signature keySize instant =
      right.isSignatureAcceptable signature keySize instant
  checkDigest : ∀ levels digest instant,
    ((left.withLevels levels).checkDigest digest instant).findings =
      ((right.withLevels levels).checkDigest digest instant).findings
  checkSignature : ∀ levels signature keySize instant,
    ((left.withLevels levels).checkSignature signature keySize instant).findings =
      ((right.withLevels levels).checkSignature signature keySize instant).findings

/-- Two suites give the same answers even where the moment that is asked about is written
differently for each of them. -/
structure AgreeOnMoments (left right : Suite) : Prop where
  digests : rowMoments left.acceptability.digests = rowMoments right.acceptability.digests
  signatures : left.acceptability.signatures = right.acceptability.signatures
  keySizes : rowMoments left.acceptability.keySizes = rowMoments right.acceptability.keySizes
  isDigestAcceptable : ∀ digest (instant other : Instant), instant.moment = other.moment →
    left.isDigestAcceptable digest instant = right.isDigestAcceptable digest other
  isSignatureAcceptable : ∀ signature keySize (instant other : Instant),
    instant.moment = other.moment →
      left.isSignatureAcceptable signature keySize instant =
        right.isSignatureAcceptable signature keySize other
  checkDigest : ∀ levels digest (instant other : Instant), instant.moment = other.moment →
    ((left.withLevels levels).checkDigest digest instant).findings =
      ((right.withLevels levels).checkDigest digest other).findings
  checkSignature : ∀ levels signature keySize (instant other : Instant),
    instant.moment = other.moment →
      ((left.withLevels levels).checkSignature signature keySize instant).findings =
        ((right.withLevels levels).checkSignature signature keySize other).findings

theorem AgreeOnMoments.sameVerdicts {left right : Suite} (agree : AgreeOnMoments left right) :
    SameVerdicts left right where
  digests := agree.digests
  signatures := agree.signatures
  keySizes := agree.keySizes
  isDigestAcceptable digest instant := agree.isDigestAcceptable digest instant instant rfl
  isSignatureAcceptable signature keySize instant :=
    agree.isSignatureAcceptable signature keySize instant instant rfl
  checkDigest levels digest instant := agree.checkDigest levels digest instant instant rfl
  checkSignature levels signature keySize instant :=
    agree.checkSignature levels signature keySize instant instant rfl

section Agree

variable {left right : Suite} {instant other : Instant}

theorem any_isAcceptableAt_eq {first second : Option Expiration}
    (sameMoment : first.map (·.moment) = second.map (·.moment))
    (sameTime : instant.moment = other.moment) :
    first.any (·.isAcceptableAt instant) = second.any (·.isAcceptableAt other) := by
  cases first with
  | none =>
      cases second with
      | none => rfl
      | some => cases sameMoment
  | some leftEnd =>
      cases second with
      | none => cases sameMoment
      | some rightEnd =>
          exact Expiration.isAcceptableAt_eq (Option.some_inj.mp sameMoment) sameTime

theorem expiryCategory_eq
    (sameUpdate : left.catalogue.metadata.nextUpdate.map (·.moment) =
      right.catalogue.metadata.nextUpdate.map (·.moment))
    (sameTime : instant.moment = other.moment) :
    left.expiryCategory instant = right.expiryCategory other := by
  rw [expiryCategory, expiryCategory, sameTime]
  revert sameUpdate
  cases left.catalogue.metadata.nextUpdate <;> cases right.catalogue.metadata.nextUpdate <;>
    intro sameUpdate
  · rfl
  · cases sameUpdate
  · cases sameUpdate
  · simp only [Option.some_inj.mp sameUpdate]

theorem findings_checkExpiration_eq
    (sameUpdate : left.catalogue.metadata.nextUpdate.map (·.moment) =
      right.catalogue.metadata.nextUpdate.map (·.moment)) (levels : Levels)
    (subject : String) {first second : Expiration} (sameMoment : first.moment = second.moment)
    (sameTime : instant.moment = other.moment) :
    ((left.withLevels levels).checkExpiration subject first instant).findings =
      ((right.withLevels levels).checkExpiration subject second other).findings := by
  have sameCategory : (left.withLevels levels).expiryCategory instant =
      (right.withLevels levels).expiryCategory other := expiryCategory_eq sameUpdate sameTime
  rw [checkExpiration, checkExpiration, Expiration.isAcceptableAt_eq sameMoment sameTime,
    sameCategory]
  split
  · rfl
  · exact Report.findings_ofFinding levels _ _ _

theorem findings_checkDigest_eq
    (sameUpdate : left.catalogue.metadata.nextUpdate.map (·.moment) =
      right.catalogue.metadata.nextUpdate.map (·.moment)) {digest : Digest}
    (sameMoment : (left.digestExpiration? digest).map (·.moment) =
      (right.digestExpiration? digest).map (·.moment)) (levels : Levels)
    (sameTime : instant.moment = other.moment) :
    ((left.withLevels levels).checkDigest digest instant).findings =
      ((right.withLevels levels).checkDigest digest other).findings := by
  change ((left.withLevels levels).digestExpiration? digest).map (·.moment) =
    ((right.withLevels levels).digestExpiration? digest).map (·.moment) at sameMoment
  rw [checkDigest, checkDigest]
  revert sameMoment
  cases (left.withLevels levels).digestExpiration? digest <;>
    cases (right.withLevels levels).digestExpiration? digest <;> intro sameMoment
  · rfl
  · cases sameMoment
  · cases sameMoment
  · exact findings_checkExpiration_eq sameUpdate levels _ (Option.some_inj.mp sameMoment)
      sameTime

theorem findings_checkSignature_eq
    (sameUpdate : left.catalogue.metadata.nextUpdate.map (·.moment) =
      right.catalogue.metadata.nextUpdate.map (·.moment))
    (sameSignatures : left.acceptability.signatures = right.acceptability.signatures)
    {signature : Signature} {keySize : UInt32}
    (sameMoment : (left.signatureExpiration? signature keySize).map (·.moment) =
      (right.signatureExpiration? signature keySize).map (·.moment))
    (levels : Levels) (sameTime : instant.moment = other.moment) :
    ((left.withLevels levels).checkSignature signature keySize instant).findings =
      ((right.withLevels levels).checkSignature signature keySize other).findings := by
  change ((left.withLevels levels).signatureExpiration? signature keySize).map (·.moment) =
    ((right.withLevels levels).signatureExpiration? signature keySize).map (·.moment)
      at sameMoment
  change (left.withLevels levels).acceptability.signatures =
    (right.withLevels levels).acceptability.signatures at sameSignatures
  rw [checkSignature, checkSignature, sameSignatures]
  split
  · rfl
  · revert sameMoment
    cases (left.withLevels levels).signatureExpiration? signature keySize <;>
      cases (right.withLevels levels).signatureExpiration? signature keySize <;>
      intro sameMoment
    · exact Report.findings_ofFinding levels _ _ _
    · cases sameMoment
    · cases sameMoment
    · exact findings_checkExpiration_eq sameUpdate levels _ (Option.some_inj.mp sameMoment)
        sameTime

/-- Suites with the same signatures and the same moment of the next update agree if their
queries have the same moments. -/
theorem agreeOnMoments_of_moments
    (sameUpdate : left.catalogue.metadata.nextUpdate.map (·.moment) =
      right.catalogue.metadata.nextUpdate.map (·.moment))
    (digests : rowMoments left.acceptability.digests = rowMoments right.acceptability.digests)
    (signatures : left.acceptability.signatures = right.acceptability.signatures)
    (keySizes : rowMoments left.acceptability.keySizes = rowMoments right.acceptability.keySizes)
    (digestExpiration : ∀ digest, (left.digestExpiration? digest).map (·.moment) =
      (right.digestExpiration? digest).map (·.moment))
    (signatureExpiration : ∀ signature keySize,
      (left.signatureExpiration? signature keySize).map (·.moment) =
        (right.signatureExpiration? signature keySize).map (·.moment)) :
    AgreeOnMoments left right where
  digests := digests
  signatures := signatures
  keySizes := keySizes
  isDigestAcceptable digest _ _ := any_isAcceptableAt_eq (digestExpiration digest)
  isSignatureAcceptable signature keySize _ _ :=
    any_isAcceptableAt_eq (signatureExpiration signature keySize)
  checkDigest levels digest _ _ :=
    findings_checkDigest_eq sameUpdate (digestExpiration digest) levels
  checkSignature levels signature keySize _ _ :=
    findings_checkSignature_eq sameUpdate signatures (signatureExpiration signature keySize)
      levels

end Agree

/-! ## Policies that evaluate the same -/

end Suite

/-- Algorithms have the same evaluations in two lists of entries, up to how their ends are
written. -/
def Registry.EvaluatesAlike (registry : Registry) (left right : List Policy.Entry) : Prop :=
  ∀ (resolved : Resolved) (holds : List Policy.Parameter → WithTop Int → Prop),
    (∃ evaluation, registry.Evaluates left resolved evaluation ∧
        holds evaluation.parameters (Expiration.ofEnd evaluation.validityEnd).moment) ↔
      ∃ evaluation, registry.Evaluates right resolved evaluation ∧
        holds evaluation.parameters (Expiration.ofEnd evaluation.validityEnd).moment

namespace Suite

section Evaluations

variable {registry : Registry} {left right : Policy}
  (alike : registry.EvaluatesAlike left.entries right.entries)

include alike

theorem digests_eq_of_evaluatesAlike :
    rowMoments (ofPolicy registry left).acceptability.digests =
      rowMoments (ofPolicy registry right).acceptability.digests := by
  refine rowMoments_eq (Acceptability.digests_ascending _ _)
    (Acceptability.digests_ascending _ _) fun digest bound => ?_
  rw [digests_reaches_iff, digests_reaches_iff]
  exact alike (.digest digest) fun _ moment => bound ≤ moment

theorem signatures_eq_of_evaluatesAlike :
    (ofPolicy registry left).acceptability.signatures =
      (ofPolicy registry right).acceptability.signatures := by
  have evaluated (resolved : Resolved) :
      (∃ evaluation, registry.Evaluates left.entries resolved evaluation) ↔
        ∃ evaluation, registry.Evaluates right.entries resolved evaluation := by
    simpa using alike resolved fun _ _ => True
  refine ascending_eq_of_mem_iff id (Acceptability.signatures_ascending _ _)
    (Acceptability.signatures_ascending _ _) fun signature => ?_
  rw [mem_signatures_ofPolicy_iff, mem_signatures_ofPolicy_iff]
  simp only [evaluated]

theorem supports_iff_of_evaluatesAlike (signature : Signature) (size : UInt32)
    (bound : WithTop Int) :
    registry.Supports left.entries
        (fun evaluation => bound ≤ (Expiration.ofEnd evaluation.validityEnd).moment)
        signature size ↔
      registry.Supports right.entries
        (fun evaluation => bound ≤ (Expiration.ofEnd evaluation.validityEnd).moment)
        signature size := by
  have lasting (resolved : Resolved) :=
    alike resolved fun _ moment => bound ≤ moment
  have sized (resolved : Resolved) (family : EncryptionFamily) :=
    alike resolved fun parameters _ =>
      Acceptability.StatesKeySize registry family parameters size
  have both (resolved : Resolved) (family : EncryptionFamily) :=
    alike resolved fun parameters moment =>
      Acceptability.StatesKeySize registry family parameters size ∧ bound ≤ moment
  simp only [Registry.Supports, lasting, sized, both]

theorem keySizes_eq_of_evaluatesAlike :
    rowMoments (ofPolicy registry left).acceptability.keySizes =
      rowMoments (ofPolicy registry right).acceptability.keySizes := by
  refine rowMoments_eq (Acceptability.keySizes_ascending _ _)
    (Acceptability.keySizes_ascending _ _) fun identity bound => ?_
  rcases identity with ⟨signature, keySize⟩
  cases keySize with
  | none =>
      have sized : ∀ (policy : Policy) (expiration : Expiration),
          (⟨signature, none⟩, expiration) ∉ (ofPolicy registry policy).acceptability.keySizes := by
        intro policy expiration member
        rcases Acceptability.keySize_of_mem_keySizes _ _ member with ⟨size, impossible⟩
        cases impossible
      simp only [sized, false_and, exists_false]
  | some size =>
      have leftRow := keySizes_reaches_iff registry left signature size bound
      rw [supports_iff_of_evaluatesAlike alike] at leftRow
      exact leftRow.trans (keySizes_reaches_iff registry right signature size bound).symm

/-- Policies that evaluate alike, and are due for an update at the same moment, have suites
that agree. -/
theorem agreeOnMoments_of_evaluatesAlike
    (sameUpdate : left.nextUpdate.map (·.moment) = right.nextUpdate.map (·.moment)) :
    AgreeOnMoments (ofPolicy registry left) (ofPolicy registry right) := by
  refine agreeOnMoments_of_moments sameUpdate (digests_eq_of_evaluatesAlike alike)
    (signatures_eq_of_evaluatesAlike alike) (keySizes_eq_of_evaluatesAlike alike) ?_ ?_
  · intro digest
    refine Expiration.map_moment_eq fun bound => ?_
    rw [digestExpiration?_reaches_iff, digestExpiration?_reaches_iff]
    exact alike (.digest digest) fun _ moment => bound ≤ moment
  · intro signature keySize
    refine Expiration.map_moment_eq fun bound => ?_
    simp only [signatureExpiration?_reaches_iff, supports_iff_of_evaluatesAlike alike]

end Evaluations

/-- Policies with the same metadata that evaluate the same have suites with the same
verdicts. -/
theorem sameVerdicts_of_evaluates {registry : Registry} {left right : Policy}
    (sameEvaluations : registry.Evaluates left.entries = registry.Evaluates right.entries)
    (sameMetadata : Catalogue.Metadata.ofPolicy left = Catalogue.Metadata.ofPolicy right) :
    SameVerdicts (ofPolicy registry left) (ofPolicy registry right) := by
  have alike : registry.EvaluatesAlike left.entries right.entries := by
    intro resolved holds
    rw [sameEvaluations]
  have sameUpdate : left.nextUpdate = right.nextUpdate :=
    congrArg Catalogue.Metadata.nextUpdate sameMetadata
  exact (agreeOnMoments_of_evaluatesAlike alike (by rw [sameUpdate])).sameVerdicts

/-- However often the entries of a policy are permuted, duplicated and divided, its suite
gives the same verdicts. -/
theorem sameVerdicts_of_rearranges (registry : Registry) (policy : Policy)
    {rearranged : List Policy.Entry}
    (steps : Relation.ReflTransGen Policy.Rearranges policy.entries rearranged) :
    SameVerdicts (ofPolicy registry policy)
      (ofPolicy registry { policy with entries := rearranged }) := by
  have sameEvaluations := Policy.evaluates_eq_of_rearranges steps registry
  exact sameVerdicts_of_evaluates sameEvaluations.symm rfl

/-- An entry with two evaluations is divided, one part is listed twice, and the other one
comes first. -/
theorem rearranges_divided (identifier : Policy.Identifier)
    (first second : Policy.Evaluation) :
    Relation.ReflTransGen Policy.Rearranges [⟨identifier, [first, second], []⟩]
      [⟨identifier, [second], []⟩, ⟨identifier, [first], []⟩, ⟨identifier, [first], []⟩] := by
  have divided : Policy.Rearranges [⟨identifier, [first, second], []⟩]
      [⟨identifier, [first], []⟩, ⟨identifier, [second], []⟩] :=
    .split [] ⟨identifier, [first, second], []⟩
      [⟨identifier, [first], []⟩, ⟨identifier, [second], []⟩] [] le_rfl (by simp) (by simp)
  have duplicated : Policy.Rearranges
      [⟨identifier, [first], []⟩, ⟨identifier, [second], []⟩]
      [⟨identifier, [first], []⟩, ⟨identifier, [first], []⟩, ⟨identifier, [second], []⟩] :=
    .duplicate [] ⟨identifier, [first], []⟩ [⟨identifier, [second], []⟩]
  have permuted : Policy.Rearranges
      [⟨identifier, [first], []⟩, ⟨identifier, [first], []⟩, ⟨identifier, [second], []⟩]
      [⟨identifier, [second], []⟩, ⟨identifier, [first], []⟩, ⟨identifier, [first], []⟩] :=
    .permute (List.perm_append_singleton _ [_, _])
  exact ((Relation.ReflTransGen.single divided).tail duplicated).tail permuted

theorem sameVerdicts_of_divided :
    Relation.ReflTransGen Policy.Rearranges
        [⟨.named "SHA-256", [.unconditional, ⟨none, [], ["signing"], none⟩], []⟩]
        [⟨.named "SHA-256", [⟨none, [], ["signing"], none⟩], []⟩,
          ⟨.named "SHA-256", [.unconditional], []⟩, ⟨.named "SHA-256", [.unconditional], []⟩] ∧
      SameVerdicts
        (ofPolicy Directory.standard.registry
          (.ofEntries [⟨.named "SHA-256", [.unconditional, ⟨none, [], ["signing"], none⟩], []⟩]))
        (ofPolicy Directory.standard.registry
          (.ofEntries [⟨.named "SHA-256", [⟨none, [], ["signing"], none⟩], []⟩,
            ⟨.named "SHA-256", [.unconditional], []⟩,
            ⟨.named "SHA-256", [.unconditional], []⟩])) :=
  ⟨rearranges_divided _ _ _,
    sameVerdicts_of_rearranges Directory.standard.registry (.ofEntries _)
      (rearranges_divided _ _ _)⟩

end Suite

end AlgorithmPolicy

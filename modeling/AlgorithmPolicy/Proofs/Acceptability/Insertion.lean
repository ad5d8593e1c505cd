import AlgorithmPolicy.Proofs.Acceptability.Order

/-! What one more record among others can change. It states ends for its own algorithm
only, and what is derived depends on the ends of families and digests only. -/

namespace AlgorithmPolicy.Acceptability

/-! ## Ends that a record does not state -/

section Inserted

variable (earlier later : List Catalogue.Record) (record : Catalogue.Record)

theorem names_insert_iff (resolved : Resolved) :
    Names (earlier ++ record :: later) resolved ↔
      Names (earlier ++ later) resolved ∨ record.resolved = resolved := by
  simp only [Names, List.mem_append, List.mem_cons, or_and_right, exists_or,
    exists_eq_left]
  exact (or_congr_right or_comm).trans or_assoc.symm

variable {record}

/-- A record states no ends of other digests. -/
theorem digestEnds_insert_of_ne {digest : Digest} (other : record.resolved ≠ .digest digest) :
    digestEnds (earlier ++ record :: later) digest = digestEnds (earlier ++ later) digest := by
  simp [digestEnds, other]

/-- Nor does it state ends of other algorithms with keys. -/
theorem statedEnds_insert_of_ne (registry : Registry) {resolved : Resolved}
    (other : record.resolved ≠ resolved) (family : EncryptionFamily) (size : UInt32) :
    statedEnds registry (earlier ++ record :: later) resolved family size =
      statedEnds registry (earlier ++ later) resolved family size := by
  simp [statedEnds, other]

/-- Of its own algorithm it states ends at those key sizes only that its evaluations state. -/
theorem statedEnds_insert_of_unstated {registry : Registry} {family : EncryptionFamily}
    {size : UInt32} (unstated : ∀ evaluation ∈ record.evaluations,
      ¬ StatesKeySize registry family evaluation.parameters size) (resolved : Resolved) :
    statedEnds registry (earlier ++ record :: later) resolved family size =
      statedEnds registry (earlier ++ later) resolved family size := by
  have nothing : sizedEnds registry family size record.evaluations = [] := by
    rw [List.eq_nil_iff_forall_not_mem]
    intro expiration member
    rcases mem_sizedEnds_iff.mp member with ⟨evaluation, evaluationMember, stated, -⟩
    exact unstated evaluation evaluationMember (keySize_eq_ok_iff.mp stated)
  simp [statedEnds, nothing]

end Inserted

/-! ## Views over the same families and digests -/

/-- The same ends are stated for digests and for families. -/
structure SameComponents (registry : Registry) (left right : List Catalogue.Record) : Prop where
  digests : ∀ digest, digestEnds left digest = digestEnds right digest
  families : ∀ family size,
    familyEndsAt registry left family size = familyEndsAt registry right family size

namespace SameComponents

variable {registry : Registry} {left right : List Catalogue.Record}

theorem symm (same : SameComponents registry left right) :
    SameComponents registry right left where
  digests digest := (same.digests digest).symm
  families family size := (same.families family size).symm

theorem digests_eq (same : SameComponents registry left right) :
    (ofRecords registry left).digests = (ofRecords registry right).digests := by
  apply ascending_eq_of_mem_iff Prod.fst (digests_ascending registry left)
    (digests_ascending registry right)
  intro row
  rcases row with ⟨digest, expiration⟩
  rw [mem_digests_iff, mem_digests_iff, same.digests]

theorem holds (same : SameComponents registry left right) {signature : Signature}
    {size : UInt32} {derivation : Derivation}
    (holds : derivation.Holds registry left signature size) :
    derivation.Holds registry right signature size where
  composes := holds.composes
  familyEnd_latest := same.families derivation.family size ▸ holds.familyEnd_latest
  digestEnd_latest := same.digests derivation.digest ▸ holds.digestEnd_latest

theorem decides (same : SameComponents registry left right) {signature : Signature}
    {size : UInt32} {derivation : Derivation}
    (decides : derivation.Decides registry left signature size) :
    derivation.Decides registry right signature size where
  holds := same.holds decides.holds
  latest other otherHolds := decides.latest other (same.symm.holds otherHolds)
  last other otherHolds := decides.last other (same.symm.holds otherHolds)

private theorem mem_keySizes (same : SameComponents registry left right)
    {identity : Identity Signature}
    (sameDirect : ∀ size, identity = .withKeySize identity.algorithm size →
      directEndsAt registry left identity.algorithm size =
        directEndsAt registry right identity.algorithm size)
    {expiration : Expiration}
    (member : (identity, expiration) ∈ (ofRecords registry left).keySizes) :
    (identity, expiration) ∈ (ofRecords registry right).keySizes := by
  rcases keySize_of_mem_keySizes registry left member with ⟨size, isIdentity⟩
  rw [isIdentity, mem_keySizes_iff] at member ⊢
  rw [← sameDirect size isIdentity]
  rcases member with latest | ⟨nothing, derivation, decides, isEnd⟩
  · exact Or.inl latest
  · exact Or.inr ⟨nothing, derivation, same.decides decides, isEnd⟩

/-- The row of an identity depends on its own ends besides. -/
theorem mem_keySizes_iff (same : SameComponents registry left right)
    {identity : Identity Signature}
    (sameDirect : ∀ size, identity = .withKeySize identity.algorithm size →
      directEndsAt registry left identity.algorithm size =
        directEndsAt registry right identity.algorithm size)
    (expiration : Expiration) :
    (identity, expiration) ∈ (ofRecords registry left).keySizes ↔
      (identity, expiration) ∈ (ofRecords registry right).keySizes := by
  constructor
  · exact same.mem_keySizes sameDirect
  · exact same.symm.mem_keySizes fun size isIdentity => (sameDirect size isIdentity).symm

/-- All views depend on the components, on the ends of signatures and on what is named. -/
theorem ofRecords_eq (same : SameComponents registry left right)
    (sameSignatures : ∀ signature,
      Names left (.signature signature) ↔ Names right (.signature signature))
    (sameFamilies : ∀ family,
      Names left (.encryption family) ↔ Names right (.encryption family))
    (sameDirect : ∀ signature size,
      directEndsAt registry left signature size = directEndsAt registry right signature size) :
    ofRecords registry left = ofRecords registry right := by
  apply ofRecords_eq_of_mem_iff
  case digests =>
    intro row
    rw [same.digests_eq]
  case signatures =>
    intro signature
    simp only [Acceptability.mem_signatures_iff, sameSignatures, sameFamilies, same.digests_eq]
  case keySizes =>
    intro row
    apply same.mem_keySizes_iff
    intro size _
    exact sameDirect row.1.algorithm size

end SameComponents

/-! ## Records that stand for no digest and no family -/

section NoComponent

variable (registry : Registry) (earlier later : List Catalogue.Record)
  {record : Catalogue.Record} (noDigest : ∀ digest, record.resolved ≠ .digest digest)
  (noFamily : ∀ family, record.resolved ≠ .encryption family)

include noDigest noFamily

theorem sameComponents_insert :
    SameComponents registry (earlier ++ record :: later) (earlier ++ later) where
  digests digest := digestEnds_insert_of_ne earlier later (noDigest digest)
  families family size :=
    statedEnds_insert_of_ne earlier later registry (noFamily family) family size

theorem mem_signatures_insert_iff (signature : Signature) :
    signature ∈ (ofRecords registry (earlier ++ record :: later)).signatures ↔
      signature ∈ (ofRecords registry (earlier ++ later)).signatures ∨
        record.resolved = .signature signature := by
  have sameDigests :=
    (sameComponents_insert registry earlier later noDigest noFamily).digests_eq
  simp only [mem_signatures_iff, sameDigests, names_insert_iff, noFamily, or_false]
  exact or_right_comm

end NoComponent

/-- A record that stands for nothing changes nothing. -/
theorem ofRecords_insert_of_unknown (registry : Registry) (earlier later : List Catalogue.Record)
    {record : Catalogue.Record} (unknown : record.resolved = .unknown) :
    ofRecords registry (earlier ++ record :: later) = ofRecords registry (earlier ++ later) := by
  have noDigest : ∀ digest, record.resolved ≠ .digest digest := by simp [unknown]
  have noFamily : ∀ family, record.resolved ≠ .encryption family := by simp [unknown]
  have noSignature : ∀ signature, record.resolved ≠ .signature signature := by simp [unknown]
  apply (sameComponents_insert registry earlier later noDigest noFamily).ofRecords_eq
  · intro signature
    rw [names_insert_iff]
    exact or_iff_left (noSignature signature)
  · intro family
    rw [names_insert_iff]
    exact or_iff_left (noFamily family)
  · intro signature size
    exact statedEnds_insert_of_ne earlier later registry (noSignature signature) _ size

end AlgorithmPolicy.Acceptability

import AlgorithmPolicy.Proofs.Acceptability.Derived

/-! What the views of a catalogue hold, said without the pass that builds them. -/

namespace AlgorithmPolicy.Acceptability

/-! ## Statements without ends -/

theorem digestEnds_ne_nil_iff {records : List Catalogue.Record} {digest : Digest} :
    digestEnds records digest ≠ [] ↔
      ∃ record ∈ records, record.resolved = .digest digest ∧ record.evaluations ≠ [] := by
  constructor
  · intro nonempty
    rcases List.exists_mem_of_ne_nil _ nonempty with ⟨_, member⟩
    rcases mem_digestEnds_iff.mp member with
      ⟨record, recordMember, resolved, evaluation, evaluationMember, -⟩
    exact ⟨record, recordMember, resolved, List.ne_nil_of_mem evaluationMember⟩
  · rintro ⟨record, member, resolved, nonempty⟩
    rcases List.exists_mem_of_ne_nil _ nonempty with ⟨evaluation, evaluationMember⟩
    exact List.ne_nil_of_mem (mem_digestEnds_iff.mpr
      ⟨record, member, resolved, evaluation, evaluationMember, rfl⟩)

/-- Some evaluation of an algorithm states a key size. -/
def StatesSize (registry : Registry) (records : List Catalogue.Record) (resolved : Resolved)
    (family : EncryptionFamily) (size : UInt32) : Prop :=
  ∃ record ∈ records, record.resolved = resolved ∧
    ∃ evaluation ∈ record.evaluations,
      StatesKeySize registry family evaluation.parameters size

theorem statedEnds_ne_nil_iff {registry : Registry} {records : List Catalogue.Record}
    {resolved : Resolved} {family : EncryptionFamily} {size : UInt32} :
    statedEnds registry records resolved family size ≠ [] ↔
      StatesSize registry records resolved family size := by
  constructor
  · intro nonempty
    rcases List.exists_mem_of_ne_nil _ nonempty with ⟨_, member⟩
    rcases mem_statedEnds_iff.mp member with
      ⟨record, recordMember, isResolved, evaluation, evaluationMember, states, -⟩
    exact ⟨record, recordMember, isResolved, evaluation, evaluationMember,
      keySize_eq_ok_iff.mp states⟩
  · rintro ⟨record, member, isResolved, evaluation, evaluationMember, states⟩
    exact List.ne_nil_of_mem (mem_statedEnds_iff.mpr
      ⟨record, member, isResolved, evaluation, evaluationMember,
        keySize_eq_ok_iff.mpr states, rfl⟩)

variable (registry : Registry) (records : List Catalogue.Record)

/-! ## Digests -/

theorem digests_ascending :
    (ofRecords registry records).digests.Pairwise fun left right =>
      compare left.1 right.1 = .lt :=
  Std.TreeMap.ordered_keys_toList

theorem mem_digests_iff (digest : Digest) (expiration : Expiration) :
    (digest, expiration) ∈ (ofRecords registry records).digests ↔
      expiration.IsLatest (digestEnds records digest) := by
  rw [ofRecords, Std.TreeMap.mem_toList_iff_getElem?_eq_some,
    (Collection.collects_ofRecords registry records).digests_eq,
    Expiration.latest?_eq_some_iff]

theorem exists_mem_digests_iff (digest : Digest) :
    (∃ expiration, (digest, expiration) ∈ (ofRecords registry records).digests) ↔
      ∃ record ∈ records, record.resolved = .digest digest ∧ record.evaluations ≠ [] := by
  simp only [mem_digests_iff, Expiration.exists_isLatest_iff, digestEnds_ne_nil_iff]

/-! ## Signatures -/

theorem signatures_ascending :
    (ofRecords registry records).signatures.Pairwise fun left right =>
      compare left right = .lt :=
  Std.TreeSet.ordered_toList

theorem mem_signatures_iff (signature : Signature) :
    signature ∈ (ofRecords registry records).signatures ↔
      Names records (.signature signature) ∨
        ∃ family digest, Names records (.encryption family) ∧
          (∃ expiration, (digest, expiration) ∈ (ofRecords registry records).digests) ∧
          registry.compose? family digest = some signature := by
  have collects := Collection.collects_ofRecords registry records
  simp only [ofRecords, Std.TreeSet.mem_toList, Collection.mem_allSignatures_iff,
    collects.mem_signatures, collects.mem_families, Prod.exists]
  refine or_congr_right ?_
  constructor
  · rintro ⟨family, named, digest, expiration, member, composes⟩
    exact ⟨family, digest, named, ⟨expiration, member⟩, composes⟩
  · rintro ⟨family, digest, named, ⟨expiration, member⟩, composes⟩
    exact ⟨family, named, digest, expiration, member, composes⟩

/-! ## Key sizes -/

theorem keySizes_ascending :
    (ofRecords registry records).keySizes.Pairwise fun left right =>
      compare left.1 right.1 = .lt :=
  Std.TreeMap.ordered_keys_toList

theorem mem_keySizes_iff (signature : Signature) (size : UInt32) (expiration : Expiration) :
    (Identity.withKeySize signature size, expiration) ∈
        (ofRecords registry records).keySizes ↔
      expiration.IsLatest (directEndsAt registry records signature size) ∨
        directEndsAt registry records signature size = [] ∧
          ∃ derivation : Derivation, derivation.Decides registry records signature size ∧
            derivation.expiration = expiration := by
  have collects := Collection.collects_ofRecords registry records
  rw [ofRecords, Std.TreeMap.mem_toList_iff_getElem?_eq_some,
    Collection.getElem?_allSignatureEnds, Option.or_eq_some_iff, collects.signatureEnds_eq,
    collects.getElem?_derivedEnds_eq_some_iff, Expiration.latest?_eq_some_iff,
    Expiration.latest?_eq_none_iff]

/-- Every identity in the view has a key size. -/
theorem keySize_of_mem_keySizes {identity : Identity Signature} {expiration : Expiration}
    (member : (identity, expiration) ∈ (ofRecords registry records).keySizes) :
    ∃ size, identity = .withKeySize identity.algorithm size := by
  have collects := Collection.collects_ofRecords registry records
  rcases identity with ⟨signature, keySize⟩
  cases keySize with
  | some size => exact ⟨size, rfl⟩
  | none =>
      rw [ofRecords, Std.TreeMap.mem_toList_iff_getElem?_eq_some,
        Collection.getElem?_allSignatureEnds] at member
      have direct := collects.signatureEnds_keyless signature
      have derived := collects.getElem?_derivedEnds_keyless signature
      rw [Identity.keyless] at direct derived
      rw [direct, derived] at member
      cases member

theorem exists_holds_iff (signature : Signature) (size : UInt32) :
    (∃ derivation : Derivation, derivation.Holds registry records signature size) ↔
      ∃ family digest, StatesSize registry records (.encryption family) family size ∧
        (∃ record ∈ records, record.resolved = .digest digest ∧ record.evaluations ≠ []) ∧
        registry.compose? family digest = some signature := by
  simp only [← statedEnds_ne_nil_iff, ← digestEnds_ne_nil_iff, ← Expiration.exists_isLatest_iff]
  constructor
  · rintro ⟨⟨family, digest, familyEnd, digestEnd⟩, composes, familyLatest, digestLatest⟩
    exact ⟨family, digest, ⟨familyEnd, familyLatest⟩, ⟨digestEnd, digestLatest⟩, composes⟩
  · rintro ⟨family, digest, ⟨familyEnd, familyLatest⟩, ⟨digestEnd, digestLatest⟩, composes⟩
    exact ⟨⟨family, digest, familyEnd, digestEnd⟩, composes, familyLatest, digestLatest⟩

theorem exists_mem_keySizes_iff (signature : Signature) (size : UInt32) :
    (∃ expiration, (Identity.withKeySize signature size, expiration) ∈
        (ofRecords registry records).keySizes) ↔
      StatesSize registry records (.signature signature) signature.family size ∨
        ∃ family digest, StatesSize registry records (.encryption family) family size ∧
          (∃ expiration, (digest, expiration) ∈ (ofRecords registry records).digests) ∧
          registry.compose? family digest = some signature := by
  have collects := Collection.collects_ofRecords registry records
  have stated_iff : directEndsAt registry records signature size ≠ [] ↔
      StatesSize registry records (.signature signature) signature.family size :=
    statedEnds_ne_nil_iff
  simp only [mem_keySizes_iff, exists_or, Expiration.exists_isLatest_iff, stated_iff,
    exists_mem_digests_iff, ← exists_holds_iff, ← collects.exists_decides_iff]
  constructor
  · rintro (states | ⟨_, -, derivation, decides, -⟩)
    · exact Or.inl states
    · exact Or.inr ⟨derivation, decides⟩
  · rintro (states | ⟨derivation, decides⟩)
    · exact Or.inl states
    · by_cases states : StatesSize registry records (.signature signature) signature.family size
      · exact Or.inl states
      · have nothing := not_not.mp (mt stated_iff.mp states)
        exact Or.inr ⟨derivation.expiration, nothing, derivation, decides, rfl⟩

/-! ## Equal views -/

/-- Views of records are equal if they have the same members, as all tables ascend. -/
theorem ofRecords_eq_of_mem_iff {registry : Registry} {left right : List Catalogue.Record}
    (digests : ∀ row,
      row ∈ (ofRecords registry left).digests ↔ row ∈ (ofRecords registry right).digests)
    (signatures : ∀ signature, signature ∈ (ofRecords registry left).signatures ↔
      signature ∈ (ofRecords registry right).signatures)
    (keySizes : ∀ row,
      row ∈ (ofRecords registry left).keySizes ↔ row ∈ (ofRecords registry right).keySizes) :
    ofRecords registry left = ofRecords registry right := by
  have sameDigests := ascending_eq_of_mem_iff Prod.fst (digests_ascending registry left)
    (digests_ascending registry right) digests
  have sameSignatures := ascending_eq_of_mem_iff id (signatures_ascending registry left)
    (signatures_ascending registry right) signatures
  have sameKeySizes := ascending_eq_of_mem_iff Prod.fst (keySizes_ascending registry left)
    (keySizes_ascending registry right) keySizes
  calc ofRecords registry left
    _ = ⟨(ofRecords registry left).digests, (ofRecords registry left).signatures,
          (ofRecords registry left).keySizes⟩ := rfl
    _ = ofRecords registry right := by rw [sameDigests, sameSignatures, sameKeySizes]

/-! ## The views together -/

/-- The views hold exactly what these records state and what follows from it, in the order
of the vocabularies. Of several ends the latest counts, and of equally late ones that of
the last evaluation or of the last pair of a family and a digest. -/
structure Describes (registry : Registry) (records : List Catalogue.Record)
    (views : Acceptability) : Prop where
  digests_ascending : views.digests.Pairwise fun left right => compare left.1 right.1 = .lt
  digests_named : ∀ digest, (∃ expiration, (digest, expiration) ∈ views.digests) ↔
    ∃ record ∈ records, record.resolved = .digest digest ∧ record.evaluations ≠ []
  digests_latest : ∀ digest expiration, (digest, expiration) ∈ views.digests ↔
    expiration.IsLatest (digestEnds records digest)
  signatures_ascending : views.signatures.Pairwise fun left right => compare left right = .lt
  signatures_named : ∀ signature, signature ∈ views.signatures ↔
    Names records (.signature signature) ∨
      ∃ family digest, Names records (.encryption family) ∧
        (∃ expiration, (digest, expiration) ∈ views.digests) ∧
        registry.compose? family digest = some signature
  keySizes_ascending : views.keySizes.Pairwise fun left right => compare left.1 right.1 = .lt
  keySizes_sized : ∀ identity expiration, (identity, expiration) ∈ views.keySizes →
    ∃ size, identity = .withKeySize identity.algorithm size
  keySizes_named : ∀ signature size,
    (∃ expiration, (Identity.withKeySize signature size, expiration) ∈ views.keySizes) ↔
      StatesSize registry records (.signature signature) signature.family size ∨
        ∃ family digest, StatesSize registry records (.encryption family) family size ∧
          (∃ expiration, (digest, expiration) ∈ views.digests) ∧
          registry.compose? family digest = some signature
  keySizes_direct : ∀ signature size,
    StatesSize registry records (.signature signature) signature.family size →
      ∀ expiration, (Identity.withKeySize signature size, expiration) ∈ views.keySizes ↔
        expiration.IsLatest (directEndsAt registry records signature size)
  keySizes_derived : ∀ signature size,
    ¬ StatesSize registry records (.signature signature) signature.family size →
      ∀ expiration, (Identity.withKeySize signature size, expiration) ∈ views.keySizes ↔
        ∃ derivation : Derivation, derivation.Decides registry records signature size ∧
          derivation.expiration = expiration

theorem ofRecords_describes :
    Describes registry records (ofRecords registry records) where
  digests_ascending := digests_ascending registry records
  digests_named := exists_mem_digests_iff registry records
  digests_latest := mem_digests_iff registry records
  signatures_ascending := signatures_ascending registry records
  signatures_named := mem_signatures_iff registry records
  keySizes_ascending := keySizes_ascending registry records
  keySizes_sized _ _ member := keySize_of_mem_keySizes registry records member
  keySizes_named := exists_mem_keySizes_iff registry records
  keySizes_direct signature size states expiration := by
    have stated : directEndsAt registry records signature size ≠ [] :=
      statedEnds_ne_nil_iff.mpr states
    rw [mem_keySizes_iff]
    exact or_iff_left fun derived => stated derived.1
  keySizes_derived signature size unstated expiration := by
    have nothing : directEndsAt registry records signature size = [] :=
      not_not.mp (mt statedEnds_ne_nil_iff.mp unstated)
    rw [mem_keySizes_iff]
    constructor
    · rintro (latest | ⟨-, derived⟩)
      · exact absurd nothing (List.ne_nil_of_mem latest.mem)
      · exact derived
    · intro derived
      exact Or.inr ⟨nothing, derived⟩

end AlgorithmPolicy.Acceptability

import AlgorithmPolicy.Proofs.Acceptability.Stated

/-! One pass over a catalogue collects exactly what its records state: this holds of what
was collected after each record, so it holds after the last one. -/

namespace AlgorithmPolicy.Acceptability

/-- What was collected is what these records state, each end merged to the latest. Only
identities with a key size are collected. -/
structure Collects (registry : Registry) (records : List Catalogue.Record)
    (collection : Collection) : Prop where
  digests_eq : ∀ digest,
    collection.digests[digest]? = Expiration.latest? (digestEnds records digest)
  mem_signatures : ∀ signature,
    signature ∈ collection.signatures ↔ Names records (.signature signature)
  signatureEnds_eq : ∀ (signature : Signature) (size : UInt32),
    collection.signatureEnds[Identity.withKeySize signature size]? =
      Expiration.latest? (directEndsAt registry records signature size)
  signatureEnds_keyless : ∀ signature : Signature,
    collection.signatureEnds[Identity.keyless signature]? = none
  mem_families : ∀ family,
    family ∈ collection.families ↔ Names records (.encryption family)
  familyEnds_eq : ∀ (family : EncryptionFamily) (size : UInt32),
    collection.familyEnds[Identity.withKeySize family size]? =
      Expiration.latest? (familyEndsAt registry records family size)
  familyEnds_keyless : ∀ family : EncryptionFamily,
    collection.familyEnds[Identity.keyless family]? = none

namespace Collection

section Sized

variable {α : Type} [Labelled α] [DecidableEq α] (registry : Registry)
  (family : EncryptionFamily) (algorithm : α) (index : Nat) (record : Catalogue.Record)
  (state : Ends (Identity α) × Array Diagnostic)

theorem getElem?_addAllSized_withKeySize (other : α) (size : UInt32) :
    (addAllSized registry family algorithm index record state).1[
        Identity.withKeySize other size]? =
      Expiration.latest? (state.1[Identity.withKeySize other size]?.toList ++
        if algorithm = other then sizedEnds registry family size record.evaluations
        else []) := by
  rw [addAllSized_fst, Ends.getElem?_addAll, endsOf_sized_withKeySize]

theorem getElem?_addAllSized_keyless (other : α) :
    (addAllSized registry family algorithm index record state).1[Identity.keyless other]? =
      state.1[Identity.keyless other]? := by
  rw [addAllSized_fst, Ends.getElem?_addAll, endsOf_sized_keyless, List.append_nil]
  cases state.1[Identity.keyless other]? <;> rfl

end Sized

theorem collects_empty (registry : Registry) : Collects registry [] empty where
  digests_eq _ := by simp [empty, digestEnds, Expiration.latest?]
  mem_signatures _ := by simp [empty, Names]
  signatureEnds_eq _ _ := by simp [empty, directEndsAt, statedEnds, Expiration.latest?]
  signatureEnds_keyless _ := by simp [empty]
  mem_families _ := by simp [empty, Names]
  familyEnds_eq _ _ := by simp [empty, familyEndsAt, statedEnds, Expiration.latest?]
  familyEnds_keyless _ := by simp [empty]

/-- What a record states is collected with what was collected before, and nothing else
changes. -/
theorem collects_addRecord {registry : Registry} {records : List Catalogue.Record}
    {collection : Collection} (holds : Collects registry records collection)
    (record : Catalogue.Record) (index : Nat) :
    Collects registry (records ++ [record])
      (collection.addRecord registry (record, index)) := by
  cases resolved : record.resolved with
  | digest digest =>
      simp only [addRecord, resolved]
      exact {
        digests_eq := fun other => by
          rw [getElem?_addDigest, holds.digests_eq, Expiration.latest?_toList_append]
          simp [resolved]
        mem_signatures := fun signature => by simp [holds.mem_signatures, resolved]
        signatureEnds_eq := fun signature size => by
          simp [holds.signatureEnds_eq, directEndsAt, resolved]
        signatureEnds_keyless := holds.signatureEnds_keyless
        mem_families := fun family => by simp [holds.mem_families, resolved]
        familyEnds_eq := fun family size => by
          simp [holds.familyEnds_eq, familyEndsAt, resolved]
        familyEnds_keyless := holds.familyEnds_keyless }
  | signature signature =>
      simp only [addRecord, resolved]
      exact {
        digests_eq := fun digest => by simp [holds.digests_eq, resolved]
        mem_signatures := fun other => by
          simp [Std.TreeSet.mem_insert, holds.mem_signatures, resolved, or_comm]
        signatureEnds_eq := fun other size => by
          rw [getElem?_addAllSized_withKeySize, holds.signatureEnds_eq,
            Expiration.latest?_toList_append]
          by_cases same : signature = other <;> simp [directEndsAt, resolved, same]
        signatureEnds_keyless := fun other => by
          rw [getElem?_addAllSized_keyless, holds.signatureEnds_keyless]
        mem_families := fun family => by simp [holds.mem_families, resolved]
        familyEnds_eq := fun family size => by
          simp [holds.familyEnds_eq, familyEndsAt, resolved]
        familyEnds_keyless := holds.familyEnds_keyless }
  | encryption family =>
      simp only [addRecord, resolved]
      exact {
        digests_eq := fun digest => by simp [holds.digests_eq, resolved]
        mem_signatures := fun signature => by simp [holds.mem_signatures, resolved]
        signatureEnds_eq := fun signature size => by
          simp [holds.signatureEnds_eq, directEndsAt, resolved]
        signatureEnds_keyless := holds.signatureEnds_keyless
        mem_families := fun other => by
          simp [Std.TreeSet.mem_insert, holds.mem_families, resolved, or_comm]
        familyEnds_eq := fun other size => by
          rw [getElem?_addAllSized_withKeySize, holds.familyEnds_eq,
            Expiration.latest?_toList_append]
          by_cases same : family = other <;> simp [familyEndsAt, resolved, same]
        familyEnds_keyless := fun other => by
          rw [getElem?_addAllSized_keyless, holds.familyEnds_keyless] }
  | unknown =>
      simp only [addRecord, resolved]
      exact {
        digests_eq := fun digest => by simp [holds.digests_eq, resolved]
        mem_signatures := fun signature => by simp [holds.mem_signatures, resolved]
        signatureEnds_eq := fun signature size => by
          simp [holds.signatureEnds_eq, directEndsAt, resolved]
        signatureEnds_keyless := holds.signatureEnds_keyless
        mem_families := fun family => by simp [holds.mem_families, resolved]
        familyEnds_eq := fun family size => by
          simp [holds.familyEnds_eq, familyEndsAt, resolved]
        familyEnds_keyless := holds.familyEnds_keyless }

theorem collects_ofRecords (registry : Registry) (records : List Catalogue.Record) :
    Collects registry records (ofRecords registry records) := by
  induction records using List.reverseRecOn with
  | nil => exact collects_empty registry
  | append_singleton records record induction =>
      have step : ofRecords registry (records ++ [record]) =
          (ofRecords registry records).addRecord registry (record, records.length) := by
        simp [ofRecords, List.zipIdx_append]
      rw [step]
      exact collects_addRecord induction record records.length

end Collection

end AlgorithmPolicy.Acceptability

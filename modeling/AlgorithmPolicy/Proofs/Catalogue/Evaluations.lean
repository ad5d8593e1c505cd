import AlgorithmPolicy.Proofs.Acceptability.Stated

/-! What the entries of a policy evaluate, and that its catalogue states just that. -/

namespace AlgorithmPolicy

/-! ## Evaluations of entries -/

namespace Policy

/-- An evaluation that states nothing but that the algorithm is acceptable. -/
def Evaluation.unconditional : Evaluation :=
  ⟨none, [], [], none⟩

/-- The algorithm is still acceptable at an instant: the end, if there is one, is not
before it. -/
def Evaluation.LastsTo (evaluation : Evaluation) (instant : Instant) : Prop :=
  ∀ last, evaluation.validityEnd = some last → instant.moment ≤ last.moment

theorem Evaluation.lastsTo_iff (evaluation : Evaluation) (instant : Instant) :
    evaluation.LastsTo instant ↔
      (instant.moment : WithTop Int) ≤ (Expiration.ofEnd evaluation.validityEnd).moment := by
  rw [LastsTo]
  cases evaluation.validityEnd <;> simp [Expiration.ofEnd]

/-- The evaluations of an entry, or an unconditional one where it lists none. -/
def Entry.effective (entry : Entry) : List Evaluation :=
  if entry.evaluations = [] then [.unconditional] else entry.evaluations

theorem Entry.effective_ne_nil (entry : Entry) : entry.effective ≠ [] := by
  rw [effective]
  split
  · exact List.cons_ne_nil _ _
  · next listed => exact listed

end Policy

/-- Some entry that stands for an algorithm has this evaluation. -/
def Registry.Evaluates (registry : Registry) (entries : List Policy.Entry)
    (resolved : Resolved) (evaluation : Policy.Evaluation) : Prop :=
  ∃ entry ∈ entries, registry.resolve entry.identifier = resolved ∧
    evaluation ∈ entry.effective

/-! ## Records of entries -/

namespace Catalogue

theorem Record.evaluations_ofEntry (registry : Registry) (entry : Policy.Entry) :
    (Record.ofEntry registry entry).evaluations = entry.effective.map .ofPolicy := by
  rw [ofEntry, Policy.Entry.effective]
  cases entry.evaluations <;> rfl

variable {registry : Registry} {policy : Policy}

/-- The evaluations of records that stand for an algorithm are those of its entries. -/
theorem exists_evaluation_iff (resolved : Resolved) (holds : Evaluation → Prop) :
    (∃ record ∈ (Catalogue.ofPolicy registry policy).records, record.resolved = resolved ∧
        ∃ evaluation ∈ record.evaluations, holds evaluation) ↔
      ∃ evaluation, registry.Evaluates policy.entries resolved evaluation ∧
        holds (.ofPolicy evaluation) := by
  simp only [Catalogue.ofPolicy, List.mem_map]
  constructor
  · rintro ⟨_, ⟨entry, member, rfl⟩, isResolved, evaluation, evaluationMember, found⟩
    rw [Record.evaluations_ofEntry, List.mem_map] at evaluationMember
    rcases evaluationMember with ⟨source, sourceMember, rfl⟩
    exact ⟨source, ⟨entry, member, isResolved, sourceMember⟩, found⟩
  · rintro ⟨source, ⟨entry, member, isResolved, sourceMember⟩, found⟩
    refine ⟨_, ⟨entry, member, rfl⟩, isResolved, .ofPolicy source, ?_, found⟩
    rw [Record.evaluations_ofEntry]
    exact List.mem_map_of_mem sourceMember

end Catalogue

namespace Acceptability

variable {registry : Registry} {policy : Policy}

/-- An entry always has an evaluation, so an algorithm is named if it has one. -/
theorem names_ofPolicy_iff (resolved : Resolved) :
    Names (Catalogue.ofPolicy registry policy).records resolved ↔
      ∃ evaluation, registry.Evaluates policy.entries resolved evaluation := by
  constructor
  · rintro ⟨record, member, isResolved⟩
    rcases List.mem_map.mp member with ⟨entry, entryMember, rfl⟩
    rcases List.exists_mem_of_ne_nil _ entry.effective_ne_nil with ⟨evaluation, evaluationMember⟩
    exact ⟨evaluation, entry, entryMember, isResolved, evaluationMember⟩
  · rintro ⟨_, entry, entryMember, isResolved, -⟩
    exact ⟨_, List.mem_map_of_mem entryMember, isResolved⟩

theorem mem_digestEnds_ofPolicy_iff (digest : Digest) (expiration : Expiration) :
    expiration ∈ digestEnds (Catalogue.ofPolicy registry policy).records digest ↔
      ∃ evaluation, registry.Evaluates policy.entries (.digest digest) evaluation ∧
        .ofEnd evaluation.validityEnd = expiration :=
  mem_digestEnds_iff.trans (Catalogue.exists_evaluation_iff _ _)

theorem mem_statedEnds_ofPolicy_iff (resolved : Resolved) (family : EncryptionFamily)
    (size : UInt32) (expiration : Expiration) :
    expiration ∈ statedEnds registry (Catalogue.ofPolicy registry policy).records resolved
        family size ↔
      ∃ evaluation, registry.Evaluates policy.entries resolved evaluation ∧
        StatesKeySize registry family evaluation.parameters size ∧
        .ofEnd evaluation.validityEnd = expiration := by
  rw [mem_statedEnds_iff, Catalogue.exists_evaluation_iff]
  simp only [keySize_eq_ok_iff]
  rfl

/-- An end that reaches a moment is that of an evaluation. -/
theorem exists_mem_digestEnds_and_le_iff (digest : Digest) (bound : WithTop Int) :
    (∃ expiration ∈ digestEnds (Catalogue.ofPolicy registry policy).records digest,
        bound ≤ expiration.moment) ↔
      ∃ evaluation, registry.Evaluates policy.entries (.digest digest) evaluation ∧
        bound ≤ (Expiration.ofEnd evaluation.validityEnd).moment := by
  simp only [mem_digestEnds_ofPolicy_iff]
  constructor
  · rintro ⟨_, ⟨evaluation, evaluated, rfl⟩, reaches⟩
    exact ⟨evaluation, evaluated, reaches⟩
  · rintro ⟨evaluation, evaluated, reaches⟩
    exact ⟨_, ⟨evaluation, evaluated, rfl⟩, reaches⟩

theorem exists_mem_statedEnds_and_le_iff (resolved : Resolved) (family : EncryptionFamily)
    (size : UInt32) (bound : WithTop Int) :
    (∃ expiration ∈ statedEnds registry (Catalogue.ofPolicy registry policy).records resolved
        family size, bound ≤ expiration.moment) ↔
      ∃ evaluation, registry.Evaluates policy.entries resolved evaluation ∧
        StatesKeySize registry family evaluation.parameters size ∧
        bound ≤ (Expiration.ofEnd evaluation.validityEnd).moment := by
  simp only [mem_statedEnds_ofPolicy_iff]
  constructor
  · rintro ⟨_, ⟨evaluation, evaluated, states, rfl⟩, reaches⟩
    exact ⟨evaluation, evaluated, states, reaches⟩
  · rintro ⟨evaluation, evaluated, states, reaches⟩
    exact ⟨_, ⟨evaluation, evaluated, states, rfl⟩, reaches⟩

theorem statedEnds_ofPolicy_eq_nil_iff (resolved : Resolved) (family : EncryptionFamily)
    (size : UInt32) :
    statedEnds registry (Catalogue.ofPolicy registry policy).records resolved family size =
        [] ↔
      ¬ ∃ evaluation, registry.Evaluates policy.entries resolved evaluation ∧
        StatesKeySize registry family evaluation.parameters size := by
  rw [List.eq_nil_iff_forall_not_mem]
  simp only [mem_statedEnds_ofPolicy_iff]
  constructor
  · rintro nothing ⟨evaluation, evaluated, states⟩
    exact nothing _ ⟨evaluation, evaluated, states, rfl⟩
  · rintro nothing _ ⟨evaluation, evaluated, states, -⟩
    exact nothing ⟨evaluation, evaluated, states⟩

end Acceptability

end AlgorithmPolicy

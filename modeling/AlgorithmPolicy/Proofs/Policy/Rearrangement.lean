import AlgorithmPolicy.Proofs.Catalogue.Evaluations

/-! Ways to write a policy differently without evaluating anything differently: the entries
can be put in another order, and the evaluations of one identifier can be gathered in other
entries. -/

namespace AlgorithmPolicy.Policy

/-- One way to write entries differently. Where evaluations are divided among entries, each
of these must list some, since an entry that lists none is unconditional. -/
inductive Rearranges : List Entry → List Entry → Prop
  | permute {entries permuted : List Entry} :
      entries.Perm permuted → Rearranges entries permuted
  | permuteEvaluations (earlier : List Entry) (entry : Entry) (later : List Entry)
      {evaluations : List Evaluation} : entry.evaluations.Perm evaluations →
        Rearranges (earlier ++ entry :: later) (earlier ++ { entry with evaluations } :: later)
  | duplicate (earlier : List Entry) (entry : Entry) (later : List Entry) :
      Rearranges (earlier ++ entry :: later) (earlier ++ entry :: entry :: later)
  | split (earlier : List Entry) (entry : Entry) (parts later : List Entry) :
      2 ≤ entry.evaluations.length →
      (∀ part ∈ parts, part.identifier = entry.identifier ∧ part.evaluations ≠ []) →
      (∀ evaluation, evaluation ∈ entry.evaluations ↔
        ∃ part ∈ parts, evaluation ∈ part.evaluations) →
      Rearranges (earlier ++ entry :: later) (earlier ++ parts ++ later)

/-- Some entry with an identifier has this evaluation. -/
def Lists (entries : List Entry) (identifier : Identifier) (evaluation : Evaluation) : Prop :=
  ∃ entry ∈ entries, entry.identifier = identifier ∧ evaluation ∈ entry.effective

section Append

variable {earlier later : List Entry} {identifier : Identifier} {evaluation : Evaluation}

theorem lists_append :
    Lists (earlier ++ later) identifier evaluation ↔
      Lists earlier identifier evaluation ∨ Lists later identifier evaluation := by
  simp [Lists, or_and_right, exists_or]

theorem lists_cons {entry : Entry} :
    Lists (entry :: later) identifier evaluation ↔
      (entry.identifier = identifier ∧ evaluation ∈ entry.effective) ∨
        Lists later identifier evaluation := by
  simp [Lists]

end Append

/-- What an entry lists counts, if it lists anything. -/
theorem Entry.effective_of_ne_nil {entry : Entry} (listed : entry.evaluations ≠ []) :
    entry.effective = entry.evaluations := by
  rw [effective, if_neg listed]

theorem Entry.mem_effective_of_perm {entry : Entry} {evaluations : List Evaluation}
    (permuted : entry.evaluations.Perm evaluations) (evaluation : Evaluation) :
    evaluation ∈ { entry with evaluations : Entry }.effective ↔
      evaluation ∈ entry.effective := by
  by_cases listed : entry.evaluations = []
  · rw [listed] at permuted
    simp [effective, listed, permuted.nil_eq]
  · have stillListed : evaluations ≠ [] := by
      rintro rfl
      exact listed permuted.eq_nil
    rw [effective_of_ne_nil listed, effective_of_ne_nil stillListed, permuted.mem_iff]

/-- One step of rewriting keeps what is evaluated. -/
theorem Rearranges.lists_iff {entries rearranged : List Entry}
    (step : Rearranges entries rearranged) (identifier : Identifier)
    (evaluation : Evaluation) :
    Lists rearranged identifier evaluation ↔ Lists entries identifier evaluation := by
  cases step with
  | permute permuted =>
      simp only [Lists, permuted.mem_iff]
  | permuteEvaluations earlier entry later permuted =>
      rw [lists_append, lists_append, lists_cons, lists_cons,
        Entry.mem_effective_of_perm permuted]
  | duplicate earlier entry later =>
      rw [lists_append, lists_append, lists_cons, lists_cons]
      tauto
  | split earlier entry parts later several partOf together =>
      have listed : entry.evaluations ≠ [] := by
        intro nothing
        simp [nothing] at several
      have parts_iff : Lists parts identifier evaluation ↔
          entry.identifier = identifier ∧ evaluation ∈ entry.effective := by
        rw [Entry.effective_of_ne_nil listed, together]
        constructor
        · rintro ⟨part, member, rfl, inPart⟩
          rcases partOf part member with ⟨sameIdentifier, partListed⟩
          rw [Entry.effective_of_ne_nil partListed] at inPart
          exact ⟨sameIdentifier.symm, part, member, inPart⟩
        · rintro ⟨rfl, part, member, inPart⟩
          rcases partOf part member with ⟨sameIdentifier, partListed⟩
          rw [← Entry.effective_of_ne_nil partListed] at inPart
          exact ⟨part, member, sameIdentifier, inPart⟩
      rw [lists_append, lists_append, lists_append, lists_cons, parts_iff, or_assoc]

theorem lists_iff_of_rearranges {entries rearranged : List Entry}
    (steps : Relation.ReflTransGen Rearranges entries rearranged) (identifier : Identifier)
    (evaluation : Evaluation) :
    Lists rearranged identifier evaluation ↔ Lists entries identifier evaluation := by
  induction steps with
  | refl => exact Iff.rfl
  | tail _ step induction => exact (step.lists_iff identifier evaluation).trans induction

theorem evaluates_iff_lists (registry : Registry) (entries : List Entry)
    (resolved : Resolved) (evaluation : Evaluation) :
    registry.Evaluates entries resolved evaluation ↔
      ∃ identifier, registry.resolve identifier = resolved ∧
        Lists entries identifier evaluation := by
  constructor
  · rintro ⟨entry, member, isResolved, evaluated⟩
    exact ⟨entry.identifier, isResolved, entry, member, rfl, evaluated⟩
  · rintro ⟨_, isResolved, entry, member, rfl, evaluated⟩
    exact ⟨entry, member, isResolved, evaluated⟩

theorem evaluates_eq_of_rearranges {entries rearranged : List Entry}
    (steps : Relation.ReflTransGen Rearranges entries rearranged) (registry : Registry) :
    registry.Evaluates rearranged = registry.Evaluates entries := by
  funext resolved evaluation
  simp only [evaluates_iff_lists, lists_iff_of_rearranges steps]

end AlgorithmPolicy.Policy

import Mathlib.Data.List.Forall2

/-! Computations that may fail, and what it means that they do not. For a list of them it
relates each item to its result. -/

/-- An item is related to one of the results that the list is related to. -/
theorem List.Forall₂.exists_mem {α β : Type} {related : α → β → Prop} {items : List α}
    {results : List β} (each : List.Forall₂ related items results) {item : α}
    (member : item ∈ items) : ∃ result ∈ results, related item result := by
  induction each with
  | nil => cases member
  | cons first _ induction =>
      rcases List.mem_cons.mp member with rfl | inTail
      · exact ⟨_, List.mem_cons_self, first⟩
      · rcases induction inTail with ⟨result, resultMember, isRelated⟩
        exact ⟨result, List.mem_cons_of_mem _ resultMember, isRelated⟩

namespace Except

variable {ε α β : Type}

theorem bind_eq_ok_iff {first : Except ε α} {next : α → Except ε β} {result : β} :
    (first >>= next) = .ok result ↔ ∃ value, first = .ok value ∧ next value = .ok result := by
  cases first with
  | error reason => simp [bind, Except.bind]
  | ok value => simp [bind, Except.bind]

theorem map_eq_ok_iff {first : Except ε α} {transform : α → β} {result : β} :
    first.map transform = .ok result ↔ ∃ value, first = .ok value ∧ transform value = result := by
  cases first with
  | error reason => simp [Except.map]
  | ok value => simp [Except.map]

theorem mapError_eq_ok_iff {δ : Type} {first : Except ε α} {transform : ε → δ} {result : α} :
    first.mapError transform = .ok result ↔ first = .ok result := by
  cases first with
  | error reason => simp [Except.mapError]
  | ok value => simp [Except.mapError]

theorem toOption_eq_some_iff {computation : Except ε α} {value : α} :
    computation.toOption = some value ↔ computation = .ok value := by
  cases computation with
  | error reason => simp [Except.toOption]
  | ok other => simp [Except.toOption]

/-- A computation for each item gives results if every one does. -/
theorem mapM_eq_ok_iff {write : α → Except ε β} {items : List α} {results : List β} :
    items.mapM write = .ok results ↔
      List.Forall₂ (fun item result => write item = .ok result) items results := by
  induction items generalizing results with
  | nil => simp [pure, Except.pure, eq_comm]
  | cons item items induction =>
      rw [List.mapM_cons, bind_eq_ok_iff]
      simp only [bind_eq_ok_iff, induction, pure, Except.pure, Except.ok.injEq,
        List.forall₂_cons_left_iff]
      constructor
      · rintro ⟨result, written, later, writtenLater, rfl⟩
        exact ⟨result, later, written, writtenLater, rfl⟩
      · rintro ⟨result, later, written, writtenLater, rfl⟩
        exact ⟨result, written, later, writtenLater, rfl⟩

theorem exists_mapM_eq_ok_iff (write : α → Except ε β) (items : List α) :
    (∃ results, items.mapM write = .ok results) ↔
      ∀ item ∈ items, ∃ result, write item = .ok result := by
  simp only [mapM_eq_ok_iff]
  induction items with
  | nil => simp
  | cons item items induction =>
      simp only [List.forall₂_cons_left_iff, List.forall_mem_cons, ← induction]
      constructor
      · rintro ⟨_, result, later, written, writtenLater, -⟩
        exact ⟨⟨result, written⟩, later, writtenLater⟩
      · rintro ⟨⟨result, written⟩, later, writtenLater⟩
        exact ⟨_, result, later, written, writtenLater, rfl⟩

end Except

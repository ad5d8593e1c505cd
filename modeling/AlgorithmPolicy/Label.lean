namespace AlgorithmPolicy

/-! Finite vocabularies. A vocabulary lists its values in a fixed order, which
is the order used wherever values are sorted, and gives each a label of its own,
which is how files and messages write it. -/

class Labelled (α : Type) where
  all : List α
  label : α → String
  mem_all : ∀ value, value ∈ all
  labels_nodup : (all.map label).Nodup

namespace Labelled

private theorem eq_of_mem_of_map_nodup {β : Type} {transform : α → β} :
    ∀ {values : List α}, (values.map transform).Nodup →
      ∀ {left right}, left ∈ values → right ∈ values →
        transform left = transform right → left = right
  | [], _, _, _, member, _, _ => by simp at member
  | head :: tail, nodup, left, right, leftMember, rightMember, equal => by
      simp only [List.map_cons, List.nodup_cons, List.mem_map, not_exists, not_and] at nodup
      rcases List.mem_cons.mp leftMember with rfl | leftTail <;>
        rcases List.mem_cons.mp rightMember with rfl | rightTail
      · rfl
      · exact absurd equal.symm (nodup.1 right rightTail)
      · exact absurd equal (nodup.1 left leftTail)
      · exact eq_of_mem_of_map_nodup nodup.2 leftTail rightTail equal

variable {α : Type} [Labelled α]

def ofLabel? (text : String) : Option α :=
  all.find? fun value => label value == text

theorem label_injective {left right : α} (equal : label left = label right) :
    left = right :=
  eq_of_mem_of_map_nodup labels_nodup (mem_all left) (mem_all right) equal

theorem ofLabel?_label (value : α) : ofLabel? (label value) = some value := by
  cases found : (ofLabel? (label value) : Option α) with
  | none =>
      have absent := List.find?_eq_none.mp found value (mem_all value)
      simp at absent
  | some other =>
      have equal := List.find?_some found
      rw [label_injective (beq_iff_eq.mp equal)]

/-! ## Order

The values of a vocabulary are compared by their places in it. -/

variable [DecidableEq α]

/-- The place of a value in its vocabulary. -/
def position (value : α) : Nat :=
  all.idxOf value

theorem position_injective {left right : α} (equal : position left = position right) :
    left = right := by
  have leftAt := List.getElem_idxOf (List.idxOf_lt_length_of_mem (mem_all left))
  have rightAt := List.getElem_idxOf (List.idxOf_lt_length_of_mem (mem_all right))
  rw [← leftAt, ← rightAt]
  exact getElem_congr_idx equal

@[reducible] def ord : Ord α :=
  ⟨compareOn position⟩

theorem transOrd : @Std.TransOrd α ord :=
  inferInstanceAs (Std.TransCmp (compareOn position))

theorem lawfulEqOrd : @Std.LawfulEqOrd α ord :=
  letI : Ord α := ord
  { compare_self := Std.ReflOrd.compare_self (α := Nat)
    eq_of_compare := fun same =>
      position_injective (Std.LawfulEqOrd.eq_of_compare (α := Nat) same) }

end Labelled

end AlgorithmPolicy

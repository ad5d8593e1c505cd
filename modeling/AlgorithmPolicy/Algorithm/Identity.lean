import AlgorithmPolicy.Label

namespace AlgorithmPolicy

/-! An identity is what acceptability is decided for: an algorithm together with
the least key size that is meant, where the algorithm has keys. Evaluations of
one identity are merged, evaluations of different identities never are. -/

structure Identity (α : Type) where
  algorithm : α
  keySize : Option UInt32
  deriving DecidableEq

namespace Identity

def keyless {α : Type} (algorithm : α) : Identity α :=
  ⟨algorithm, none⟩

def withKeySize {α : Type} (algorithm : α) (keySize : UInt32) : Identity α :=
  ⟨algorithm, some keySize⟩

/-- The least key size, which is zero where none is stated. -/
def minKeySize {α : Type} (identity : Identity α) : UInt32 :=
  identity.keySize.getD 0

/-- The order of stated key sizes: no key size comes before every key size. -/
def compareKeySize : Option UInt32 → Option UInt32 → Ordering
  | none, none => .eq
  | none, some _ => .lt
  | some _, none => .gt
  | some left, some right => compare left right

/-- The order of identities: by the place of the algorithm in its vocabulary,
then by key size. -/
def order {α : Type} [Labelled α] [DecidableEq α] (left right : Identity α) : Ordering :=
  (compare (Labelled.position left.algorithm) (Labelled.position right.algorithm)).then
    (compareKeySize left.keySize right.keySize)

theorem compareKeySize_eq_compare : ∀ left right, compareKeySize left right = compare left right
  | none, none | none, some _ | some _, none | some _, some _ => rfl

section Order

variable {α : Type} [Labelled α] [DecidableEq α]

instance : Ord (Identity α) :=
  ⟨order⟩

private theorem order_eq_compareLex :
    (order : Identity α → Identity α → Ordering) =
      compareLex (compareOn fun identity => Labelled.position identity.algorithm)
        (compareOn (·.keySize)) := by
  funext left right
  exact congrArg (Ordering.then _) (compareKeySize_eq_compare _ _)

theorem compare_eq (left right : Identity α) :
    compare left right =
      (compare (Labelled.position left.algorithm) (Labelled.position right.algorithm)).then
        (compareKeySize left.keySize right.keySize) := rfl

instance : Std.TransOrd (Identity α) := by
  change Std.TransCmp order
  rw [order_eq_compareLex]
  infer_instance

instance : Std.LawfulEqOrd (Identity α) where
  eq_of_compare := by
    rintro ⟨left, leftSize⟩ ⟨right, rightSize⟩ same
    change order _ _ = .eq at same
    rw [order_eq_compareLex, compareLex_eq_eq] at same
    have sameAlgorithm := Labelled.position_injective
      (Std.LawfulEqOrd.eq_of_compare (α := Nat) same.1)
    have sameSize := Std.LawfulEqOrd.eq_of_compare (α := Option UInt32) same.2
    dsimp only at sameAlgorithm sameSize
    rw [sameAlgorithm, sameSize]

end Order

end Identity

end AlgorithmPolicy

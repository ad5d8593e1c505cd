import AlgorithmPolicy.Ends
import AlgorithmPolicy.Proofs.Expiration.Latest

/-! What a table of ends holds after ends were added to it one by one: under each key
the latest of what was there and what was added. -/

namespace AlgorithmPolicy

/-! ## Sorted rows -/

/-- Rows that are sorted by a key are determined by their members. -/
theorem ascending_eq_of_mem_iff {α κ : Type} [Ord κ] [Std.OrientedOrd κ] (key : α → κ)
    {left right : List α}
    (leftAscending : left.Pairwise fun row other => compare (key row) (key other) = .lt)
    (rightAscending : right.Pairwise fun row other => compare (key row) (key other) = .lt)
    (same : ∀ row, row ∈ left ↔ row ∈ right) : left = right := by
  have asymmetric : Std.Asymm fun row other => compare (key row) (key other) = .lt := by
    refine ⟨fun row other before after => ?_⟩
    rw [Std.OrientedOrd.eq_swap, before] at after
    cases after
  exact leftAscending.eq_of_mem_iff rightAscending same

/-- In sorted rows every key has one end. -/
theorem end_unique {κ : Type} [Ord κ] [Std.OrientedOrd κ] {rows : List (κ × Expiration)}
    (ascending : rows.Pairwise fun row other => compare row.1 other.1 = .lt) {key : κ}
    {first second : Expiration} (firstMember : (key, first) ∈ rows)
    (secondMember : (key, second) ∈ rows) : first = second := by
  induction rows with
  | nil => cases firstMember
  | cons head tail induction =>
      rw [List.pairwise_cons] at ascending
      rcases List.mem_cons.mp firstMember with firstHead | firstTail
      · rcases List.mem_cons.mp secondMember with secondHead | secondTail
        · exact congrArg Prod.snd (firstHead.trans secondHead.symm)
        · have before := ascending.1 _ secondTail
          rw [← firstHead, Std.ReflOrd.compare_self] at before
          cases before
      · rcases List.mem_cons.mp secondMember with secondHead | secondTail
        · have before := ascending.1 _ firstTail
          rw [← secondHead, Std.ReflOrd.compare_self] at before
          cases before
        · exact induction ascending.2 firstTail secondTail

theorem lookup_toList {κ β : Type} [Ord κ] [Std.TransOrd κ] [Std.LawfulEqOrd κ] [BEq κ]
    [LawfulBEq κ] (table : Std.TreeMap κ β) (key : κ) :
    table.toList.lookup key = table[key]? := by
  cases present : table[key]? with
  | none =>
      rw [List.lookup_eq_none_iff]
      intro row member
      rcases row with ⟨other, value⟩
      rw [Std.TreeMap.mem_toList_iff_getElem?_eq_some] at member
      rw [bne_iff_ne]
      rintro rfl
      rw [member] at present
      cases present
  | some value =>
      have member := Std.TreeMap.mem_toList_iff_getElem?_eq_some.mpr present
      rcases List.append_of_mem member with ⟨front, rest, split⟩
      have ordered := table.ordered_keys_toList
      rw [split] at ordered
      refine List.lookup_eq_some_iff.mpr ⟨front, rest, split, ?_⟩
      intro other inFront
      have before := (List.pairwise_append.mp ordered).2.2 other inFront
        (key, value) (by simp)
      rw [bne_iff_ne]
      rintro rfl
      rw [Std.ReflOrd.compare_self] at before
      cases before

/-- Rows that are sorted by a key are the rows of the table that is made of them. -/
theorem toList_ofList_of_ascending {κ : Type} [Ord κ] [Std.TransOrd κ] [Std.LawfulEqOrd κ]
    [BEq κ] [LawfulBEq κ] {rows : List (κ × Expiration)}
    (ascending : rows.Pairwise fun row other => compare row.1 other.1 = .lt) :
    (Std.TreeMap.ofList rows : Ends κ).toList = rows := by
  have distinct : rows.Pairwise fun row other => ¬ compare row.1 other.1 = .eq := by
    refine ascending.imp fun before same => ?_
    rw [before] at same
    cases same
  refine ascending_eq_of_mem_iff Prod.fst Std.TreeMap.ordered_keys_toList ascending ?_
  intro row
  rcases row with ⟨key, expiration⟩
  rw [Std.TreeMap.mem_toList_iff_getElem?_eq_some]
  have found (other : Expiration) (member : (key, other) ∈ rows) :
      (Std.TreeMap.ofList rows : Ends κ)[key]? = some other :=
    Std.TreeMap.getElem?_ofList_of_mem Std.ReflOrd.compare_self distinct member
  constructor
  · intro present
    have inTable := (Std.TreeMap.mem_iff_isSome_getElem? (t := Std.TreeMap.ofList rows)).mpr
      (Option.isSome_of_eq_some present)
    rw [Std.TreeMap.mem_ofList, List.contains_iff_mem, List.mem_map] at inTable
    rcases inTable with ⟨⟨_, other⟩, member, rfl⟩
    cases (found other member).symm.trans present
    exact member
  · exact found expiration

/-! ## Stated ends -/

variable {κ : Type} [DecidableEq κ]

/-- The ends that are stated for a key, in their order. -/
def endsOf (stated : List (κ × Expiration)) (key : κ) : List Expiration :=
  stated.filterMap fun (other, expiration) => if other = key then some expiration else none

@[simp] theorem endsOf_nil (key : κ) : endsOf [] key = [] := rfl

theorem endsOf_cons (other : κ) (expiration : Expiration) (rest : List (κ × Expiration))
    (key : κ) :
    endsOf ((other, expiration) :: rest) key =
      if other = key then expiration :: endsOf rest key else endsOf rest key := by
  by_cases same : other = key <;> simp [endsOf, same]

theorem endsOf_map_of_key (key : κ) (expirations : List Expiration) (other : κ) :
    endsOf (expirations.map fun expiration => (key, expiration)) other =
      if key = other then expirations else [] := by
  induction expirations with
  | nil => simp
  | cons first rest induction =>
      rw [List.map_cons, endsOf_cons, induction]
      by_cases same : key = other <;> simp [same]

namespace Ends

variable [Ord κ] [Std.TransOrd κ] [Std.LawfulEqOrd κ]

theorem getElem?_add (ends : Ends κ) (key : κ) (expiration : Expiration) (other : κ) :
    (ends.add key expiration)[other]? =
      if key = other then Expiration.latest? (ends[other]?.toList ++ [expiration])
      else ends[other]? := by
  simp only [add, Std.TreeMap.getElem?_alter, Std.LawfulEqCmp.compare_eq_iff_eq]
  split
  · next same =>
      subst same
      cases ends[key]? <;> rfl
  · rfl

/-- Adds ends one by one. -/
def addAll (ends : Ends κ) (stated : List (κ × Expiration)) : Ends κ :=
  stated.foldl (fun ends (key, expiration) => ends.add key expiration) ends

theorem getElem?_addAll (ends : Ends κ) (stated : List (κ × Expiration)) (key : κ) :
    (ends.addAll stated)[key]? =
      Expiration.latest? (ends[key]?.toList ++ endsOf stated key) := by
  induction stated generalizing ends with
  | nil => cases present : ends[key]? <;> simp [addAll, present, Expiration.latest?]
  | cons head rest induction =>
      rcases head with ⟨headKey, expiration⟩
      have step : ends.addAll ((headKey, expiration) :: rest) =
          (ends.add headKey expiration).addAll rest := rfl
      rw [step, induction, getElem?_add, endsOf_cons]
      by_cases same : headKey = key
      · rw [if_pos same, if_pos same, Expiration.latest?_toList_append, List.append_assoc,
          List.singleton_append]
      · rw [if_neg same, if_neg same]

end Ends

end AlgorithmPolicy

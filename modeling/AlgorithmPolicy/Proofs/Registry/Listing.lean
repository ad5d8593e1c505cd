import AlgorithmPolicy.Registry.Directory

/-! What a listing holds after entries were made in order: each key belongs to the first
entry under it, and has one entry only. -/

namespace AlgorithmPolicy.Listing

/-! ## Looking up -/

theorem find?_enter (listing : Listing) (key : String) (resolved : Resolved) (other : String) :
    (listing.enter key resolved).find? other =
      (listing.find? other).or (if key = other then some resolved else none) := by
  rw [enter]
  split
  · next taken found =>
      by_cases same : key = other
      · subst same
        rw [found, Option.some_or]
      · rw [if_neg same, Option.or_none]
  · next free =>
      simp only [find?, List.lookup_append, List.lookup_cons, List.lookup_nil]
      by_cases same : key = other
      · simp [same]
      · have unequal : (other == key) = false := beq_eq_false_iff_ne.mpr (Ne.symm same)
        simp [same, unequal]

/-- The resolution of the first entry under a key. -/
def firstUnder (entries : List (Option String × Resolved)) (key : String) : Option Resolved :=
  entries.findSome? fun (name, resolved) => if name = some key then some resolved else none

theorem find?_enterAll (listing : Listing) (entries : List (Option String × Resolved))
    (key : String) :
    (listing.enterAll entries).find? key = (listing.find? key).or (firstUnder entries key) := by
  induction entries generalizing listing with
  | nil => simp [enterAll, firstUnder]
  | cons entry entries induction =>
      rcases entry with ⟨name, resolved⟩
      cases name with
      | none =>
          have step : listing.enterAll ((none, resolved) :: entries) =
              listing.enterAll entries := rfl
          rw [step, induction]
          simp [firstUnder]
      | some name =>
          have step : listing.enterAll ((some name, resolved) :: entries) =
              (listing.enter name resolved).enterAll entries := rfl
          rw [step, induction, find?_enter, Option.or_assoc]
          by_cases same : name = key <;> simp [firstUnder, same]

/-! ## Keys -/

def keys (listing : Listing) : List String :=
  listing.map (·.1)

theorem isSome_find?_iff {listing : Listing} {key : String} :
    (listing.find? key).isSome ↔ key ∈ listing.keys := by
  rw [find?, keys]
  induction listing with
  | nil => simp
  | cons entry listing induction =>
      rw [List.lookup_cons, List.map_cons, List.mem_cons]
      by_cases same : key = entry.1
      · simp [same]
      · have unequal : (key == entry.1) = false := beq_eq_false_iff_ne.mpr same
        simp [same, unequal, induction]

theorem mem_of_firstUnder_eq_some {entries : List (Option String × Resolved)} {key : String}
    {resolved : Resolved} (isFirst : firstUnder entries key = some resolved) :
    (some key, resolved) ∈ entries := by
  rcases List.exists_of_findSome?_eq_some isFirst with ⟨⟨name, other⟩, member, isKey⟩
  dsimp only at isKey
  split at isKey
  · next same =>
      rcases Option.some_inj.mp isKey with rfl
      exact same ▸ member
  · cases isKey

theorem isSome_firstUnder_iff {entries : List (Option String × Resolved)} {key : String} :
    (firstUnder entries key).isSome ↔ ∃ resolved, (some key, resolved) ∈ entries := by
  constructor
  · intro found
    rcases Option.isSome_iff_exists.mp found with ⟨resolved, isFirst⟩
    exact ⟨resolved, mem_of_firstUnder_eq_some isFirst⟩
  · intro entered
    rcases entered with ⟨resolved, member⟩
    rw [firstUnder, List.findSome?_isSome_iff]
    exact ⟨(some key, resolved), member, by simp⟩

theorem mem_keys_enterAll_iff {listing : Listing} {entries : List (Option String × Resolved)}
    {key : String} :
    key ∈ (listing.enterAll entries).keys ↔
      key ∈ listing.keys ∨ ∃ resolved, (some key, resolved) ∈ entries := by
  rw [← isSome_find?_iff, ← isSome_find?_iff, ← isSome_firstUnder_iff, find?_enterAll,
    Option.isSome_or, Bool.or_eq_true]

theorem mem_of_find?_enterAll_nil {entries : List (Option String × Resolved)} {key : String}
    {resolved : Resolved} (found : (enterAll [] entries).find? key = some resolved) :
    (some key, resolved) ∈ entries := by
  rw [find?_enterAll] at found
  exact mem_of_firstUnder_eq_some found

/-! ## Normal keys -/

/-- No key is entered twice, and each is a normal form. -/
structure IsNormal (listing : Listing) : Prop where
  nodup : listing.keys.Nodup
  normal : ∀ key ∈ listing.keys, Name.normalize key = key

theorem isNormal_nil : IsNormal [] where
  nodup := .nil
  normal := by simp [keys]

theorem IsNormal.enter {listing : Listing} (isNormal : listing.IsNormal) {key : String}
    (isKey : Name.normalize key = key) (resolved : Resolved) :
    (listing.enter key resolved).IsNormal := by
  rw [Listing.enter]
  split
  · exact isNormal
  · next free =>
      have isFree : key ∉ listing.keys := by
        rw [← isSome_find?_iff, free]
        simp
      have isAdded : Listing.keys (listing ++ [(key, resolved)]) = listing.keys ++ [key] :=
        List.map_append
      constructor
      case nodup =>
        rw [isAdded, List.nodup_append]
        refine ⟨isNormal.nodup, List.pairwise_singleton _ key, ?_⟩
        intro other member last isLast same
        rw [List.mem_singleton.mp isLast] at same
        exact isFree (same ▸ member)
      case normal =>
        intro other member
        rw [isAdded] at member
        rcases List.mem_append.mp member with earlier | last
        · exact isNormal.normal other earlier
        · rw [List.mem_singleton.mp last]
          exact isKey

theorem IsNormal.enterAll {listing : Listing} (isNormal : listing.IsNormal)
    {entries : List (Option String × Resolved)}
    (areKeys : ∀ entry ∈ entries, ∀ key ∈ entry.1, Name.normalize key = key) :
    (listing.enterAll entries).IsNormal := by
  induction entries generalizing listing with
  | nil => exact isNormal
  | cons entry entries induction =>
      have rest : ∀ other ∈ entries, ∀ key ∈ other.1, Name.normalize key = key :=
        fun other member => areKeys other (List.mem_cons_of_mem entry member)
      rcases entry with ⟨name, resolved⟩
      cases name with
      | none => exact induction isNormal rest
      | some key =>
          have isKey := areKeys (some key, resolved) List.mem_cons_self key rfl
          exact induction (isNormal.enter isKey resolved) rest

end AlgorithmPolicy.Listing

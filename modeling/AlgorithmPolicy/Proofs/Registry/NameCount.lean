import AlgorithmPolicy.Proofs.Registry.Aliases
import AlgorithmPolicy.Proofs.Registry.Standard
import Mathlib.Data.Set.Card

/-! How many names a directory answers. Every name is entered once, in its normal form. It is
answered too, unless nothing of it is left in its normal form. -/

namespace AlgorithmPolicy

namespace Directory

/-! ## Directories -/

theorem isNormal_standard : standard.names.IsNormal := by
  apply Listing.isNormal_nil.enterAll
  intro entry member key isKey
  rcases List.mem_map.mp member with ⟨⟨name, resolved⟩, -, rfl⟩
  rcases Option.map_eq_some_iff.mp isKey with ⟨source, -, rfl⟩
  exact Name.normalize_normalize source

theorem isNormal_withAliases {directory : Directory} (isNormal : directory.names.IsNormal)
    (aliases : List (String × Resolved)) : (directory.withAliases aliases).names.IsNormal := by
  rw [withAliases_eq]
  apply isNormal.enterAll
  intro entry member key isKey
  rcases List.mem_map.mp member with ⟨⟨name, resolved⟩, -, rfl⟩
  rw [aliasEntry] at isKey
  split at isKey
  · cases isKey
  · cases isKey
    exact Name.normalize_normalize name

/-! ## Answered names -/

/-- The names in normal form that are answered. -/
def answeredNames (directory : Directory) : Set String :=
  { name | Name.normalize name = name ∧ (directory.resolveName? name).isSome }

theorem answeredNames_eq {directory : Directory} (isNormal : directory.names.IsNormal) :
    directory.answeredNames = directory.names.keys.toFinset.erase "" := by
  ext name
  rw [answeredNames, Set.mem_ofPred_eq, Finset.mem_coe, Finset.mem_erase, List.mem_toFinset]
  constructor
  · intro answered
    have isAnswered := answered.2
    rw [resolveName?, answered.1] at isAnswered
    by_cases isEmpty : name = ""
    · simp [isEmpty] at isAnswered
    · rw [if_neg isEmpty] at isAnswered
      exact ⟨isEmpty, Listing.isSome_find?_iff.mp isAnswered⟩
  · intro entered
    have isName := isNormal.normal name entered.2
    rw [resolveName?, isName, if_neg entered.1]
    exact ⟨rfl, Listing.isSome_find?_iff.mpr entered.2⟩

/-- Every name that is entered is answered, except what is entered under no character at all. -/
theorem nameCount_eq {directory : Directory} (isNormal : directory.names.IsNormal) :
    (directory.nameCount : ℕ∞) =
      directory.answeredNames.encard + if "" ∈ directory.names.keys then 1 else 0 := by
  have isCount : directory.nameCount = directory.names.keys.toFinset.card := by
    rw [List.toFinset_card_of_nodup isNormal.nodup, Listing.keys, List.length_map, nameCount]
  rw [isCount, answeredNames_eq isNormal, Set.encard_coe_eq_coe_finsetCard]
  split
  · next entered =>
      rw [← Finset.card_erase_add_one (List.mem_toFinset.mpr entered)]
      norm_cast
  · next absent =>
      rw [Finset.erase_eq_of_notMem (mt List.mem_toFinset.mp absent), add_zero]

/-! ## Aliases -/

theorem ne_empty_of_mem_keys_standard {key : String} (member : key ∈ standard.names.keys) :
    key ≠ "" := by
  rcases Option.isSome_iff_exists.mp (Listing.isSome_find?_iff.mpr member) with ⟨resolved, found⟩
  rcases exists_isEntry_of_find?_names found with ⟨name, isEntry, rfl⟩
  exact normalize_ne_empty_of_isName (isEntry.isKind name rfl)

/-- An alias for a known algorithm, of which nothing is left in its normal form. -/
def IsVoid (entry : String × Resolved) : Prop :=
  entry.2 ≠ .unknown ∧ Name.normalize entry.1 = ""

theorem empty_mem_keys_iff {aliases : List (String × Resolved)} :
    "" ∈ (standard.withAliases aliases).names.keys ↔ ∃ entry ∈ aliases, IsVoid entry := by
  rw [withAliases_eq, Listing.mem_keys_enterAll_iff]
  constructor
  · intro entered
    rcases entered with isStandard | ⟨resolved, isAlias⟩
    · exact absurd rfl (ne_empty_of_mem_keys_standard isStandard)
    · rcases List.mem_map.mp isAlias with ⟨⟨name, other⟩, member, isEntry⟩
      refine ⟨(name, other), member, ?_⟩
      rw [aliasEntry] at isEntry
      split at isEntry
      · cases isEntry
      · next isKnown =>
          exact ⟨isKnown, Option.some_inj.mp (Prod.mk.inj isEntry).1⟩
  · intro void
    rcases void with ⟨⟨name, resolved⟩, member, isKnown, isEmpty⟩
    refine .inr ⟨resolved, List.mem_map.mpr ⟨(name, resolved), member, ?_⟩⟩
    rw [aliasEntry, if_neg isKnown, isEmpty]

section Counting

variable {aliases : List (String × Resolved)}

/-- All void aliases together count as one name, which is never answered. -/
theorem nameCount_of_isVoid (isVoid : ∃ entry ∈ aliases, IsVoid entry) :
    ((standard.withAliases aliases).nameCount : ℕ∞) =
      (standard.withAliases aliases).answeredNames.encard + 1 := by
  rw [nameCount_eq (isNormal_withAliases isNormal_standard aliases),
    if_pos (empty_mem_keys_iff.mpr isVoid)]

theorem nameCount_of_not_isVoid (noneIsVoid : ¬ ∃ entry ∈ aliases, IsVoid entry) :
    ((standard.withAliases aliases).nameCount : ℕ∞) =
      (standard.withAliases aliases).answeredNames.encard := by
  rw [nameCount_eq (isNormal_withAliases isNormal_standard aliases),
    if_neg (mt empty_mem_keys_iff.mp noneIsVoid), add_zero]

end Counting

/-! ## Counting answers -/

/-- The number of names is that of the names that are answered. -/
def CountsAnswers (directory : Directory) : Prop :=
  (directory.nameCount : ℕ∞) = directory.answeredNames.encard

theorem not_countsAnswers_of_isVoid {aliases : List (String × Resolved)}
    (isVoid : ∃ entry ∈ aliases, IsVoid entry) :
    ¬ (standard.withAliases aliases).CountsAnswers := by
  rw [CountsAnswers, nameCount_of_isVoid isVoid,
    answeredNames_eq (isNormal_withAliases isNormal_standard aliases),
    Set.encard_coe_eq_coe_finsetCard]
  norm_cast
  omega

theorem countsAnswers_iff (aliases : List (String × Resolved)) :
    (standard.withAliases aliases).CountsAnswers ↔ ∀ entry ∈ aliases, ¬ IsVoid entry := by
  constructor
  · intro counts entry member isVoid
    exact not_countsAnswers_of_isVoid ⟨entry, member, isVoid⟩ counts
  · intro noneIsVoid
    apply nameCount_of_not_isVoid
    intro isVoid
    rcases isVoid with ⟨entry, member, isVoid⟩
    exact noneIsVoid entry member isVoid

/-- A hyphen alone is counted as a name, but no text is answered by it. -/
theorem not_countsAnswers_of_hyphen :
    ¬ (standard.withAliases [("-", .digest .sha256)]).CountsAnswers := by
  apply not_countsAnswers_of_isVoid
  refine ⟨("-", .digest .sha256), List.mem_singleton_self _, nofun, ?_⟩
  decide

end Directory

end AlgorithmPolicy

import Mathlib
import AlgorithmPolicy.Expiration

/-! The order of expirations by moment, and which of several expirations is the
latest when some of them denote the same moment. -/

namespace AlgorithmPolicy.Expiration

/-! ## Moments -/

/-- The moment of an expiration, which is after all others where there is no end. -/
def moment : Expiration → WithTop Int
  | .at last => (last.moment : WithTop Int)
  | .unbounded => ⊤

@[simp] theorem moment_at (last : Instant) :
    (Expiration.at last).moment = (last.moment : WithTop Int) := rfl

@[simp] theorem moment_unbounded : Expiration.unbounded.moment = ⊤ := rfl

theorem order_eq_gt_iff (first second : Expiration) :
    first.order second = .gt ↔ second.moment < first.moment := by
  cases first <;> cases second <;>
    simp [order, Instant.order, moment, Int.compare_eq_gt]

theorem latest_eq (first second : Expiration) :
    first.latest second = if second.moment < first.moment then first else second := by
  simp only [latest, order_eq_gt_iff]

theorem earliest_eq (first second : Expiration) :
    first.earliest second = if second.moment < first.moment then second else first := by
  simp only [earliest, order_eq_gt_iff]

theorem latest_eq_right {first second : Expiration}
    (notBefore : first.moment ≤ second.moment) : first.latest second = second := by
  rw [latest_eq, if_neg (not_lt.mpr notBefore)]

theorem latest_eq_left {first second : Expiration} (before : second.moment < first.moment) :
    first.latest second = first := by
  rw [latest_eq, if_pos before]

@[simp] theorem moment_earliest (first second : Expiration) :
    (first.earliest second).moment = min first.moment second.moment := by
  rw [earliest_eq]
  split
  · next before => exact (min_eq_right before.le).symm
  · next notBefore => exact (min_eq_left (not_lt.mp notBefore)).symm

theorem isAcceptableAt_iff (expiration : Expiration) (instant : Instant) :
    expiration.isAcceptableAt instant = true ↔
      (instant.moment : WithTop Int) ≤ expiration.moment := by
  cases expiration <;> simp [isAcceptableAt]

theorem any_isAcceptableAt_iff (found : Option Expiration) (instant : Instant) :
    found.any (·.isAcceptableAt instant) = true ↔
      ∃ expiration ∈ found, (instant.moment : WithTop Int) ≤ expiration.moment := by
  rw [Option.any_eq_true]
  simp only [isAcceptableAt_iff, Option.mem_def]

/-! ## The latest of several -/

/-- The expiration is the latest of a list, and of equally late ones the last. -/
def IsLatest (chosen : Expiration) (ends : List Expiration) : Prop :=
  ∃ earlier later, ends = earlier ++ chosen :: later ∧
    (∀ other ∈ earlier, other.moment ≤ chosen.moment) ∧
    ∀ other ∈ later, other.moment < chosen.moment

namespace IsLatest

variable {chosen : Expiration} {ends : List Expiration}

theorem mem (latest : chosen.IsLatest ends) : chosen ∈ ends := by
  rcases latest with ⟨earlier, later, rfl, -, -⟩
  simp

theorem moment_le (latest : chosen.IsLatest ends) {other : Expiration}
    (member : other ∈ ends) : other.moment ≤ chosen.moment := by
  rcases latest with ⟨earlier, later, rfl, before, after⟩
  rcases List.mem_append.mp member with inEarlier | inRest
  · exact before other inEarlier
  · rcases List.mem_cons.mp inRest with rfl | inLater
    · exact le_rfl
    · exact (after other inLater).le

end IsLatest

theorem latest?_append_singleton (ends : List Expiration) (added : Expiration) :
    latest? (ends ++ [added]) = some ((latest? ends).elim added (·.latest added)) := by
  cases ends with
  | nil => rfl
  | cons first rest => simp [latest?, List.foldl_append]

/-- What was merged before may stand for the expirations it was merged from. -/
theorem latest?_toList_append (merged added : List Expiration) :
    latest? ((latest? merged).toList ++ added) = latest? (merged ++ added) := by
  cases merged with
  | nil => rfl
  | cons first rest => simp [latest?, List.foldl_append]

theorem latest?_eq_none_iff {ends : List Expiration} : latest? ends = none ↔ ends = [] := by
  cases ends <;> simp [latest?]

private theorem isLatest_of_latest? {ends : List Expiration} {chosen : Expiration}
    (found : latest? ends = some chosen) : chosen.IsLatest ends := by
  induction ends using List.reverseRecOn generalizing chosen with
  | nil => simp [latest?] at found
  | append_singleton ends added induction =>
      rw [latest?_append_singleton, Option.some_inj] at found
      cases previous : latest? ends with
      | none =>
          rw [latest?_eq_none_iff] at previous
          subst previous
          exact ⟨[], [], by simpa [latest?] using found, by simp, by simp⟩
      | some current =>
          have currentLatest := induction previous
          simp only [previous, Option.elim_some] at found
          by_cases before : added.moment < current.moment
          · rw [latest_eq_left before] at found
            subst found
            rcases currentLatest with ⟨earlier, later, rfl, notAfter, after⟩
            refine ⟨earlier, later ++ [added], by simp, notAfter, ?_⟩
            intro other member
            rcases List.mem_append.mp member with inLater | isAdded
            · exact after other inLater
            · rw [List.mem_singleton.mp isAdded]
              exact before
          · rw [latest_eq_right (not_lt.mp before)] at found
            subst found
            refine ⟨ends, [], rfl, ?_, by simp⟩
            intro other member
            exact (currentLatest.moment_le member).trans (not_lt.mp before)

private theorem latest?_of_isLatest {ends : List Expiration} {chosen : Expiration}
    (latest : chosen.IsLatest ends) : latest? ends = some chosen := by
  rcases latest with ⟨earlier, later, rfl, notAfter, after⟩
  induction later using List.reverseRecOn with
  | nil =>
      rw [latest?_append_singleton]
      cases previous : latest? earlier with
      | none => rfl
      | some current =>
          have member := (isLatest_of_latest? previous).mem
          rw [Option.elim_some, latest_eq_right (notAfter current member)]
  | append_singleton later added induction =>
      have previous := induction fun other member =>
        after other (List.mem_append_left _ member)
      have before := after added (by simp)
      rw [← List.cons_append, ← List.append_assoc, latest?_append_singleton, previous,
        Option.elim_some, latest_eq_left before]

theorem latest?_eq_some_iff {ends : List Expiration} {chosen : Expiration} :
    latest? ends = some chosen ↔ chosen.IsLatest ends :=
  ⟨isLatest_of_latest?, latest?_of_isLatest⟩

theorem exists_isLatest_iff {ends : List Expiration} :
    (∃ chosen, IsLatest chosen ends) ↔ ends ≠ [] := by
  simp only [← latest?_eq_some_iff, ne_eq, ← latest?_eq_none_iff, ← Option.isSome_iff_exists,
    Option.isSome_iff_ne_none]

theorem IsLatest.unique {ends : List Expiration} {left right : Expiration}
    (leftLatest : left.IsLatest ends) (rightLatest : right.IsLatest ends) : left = right :=
  Option.some_inj.mp
    ((latest?_eq_some_iff.mpr leftLatest).symm.trans (latest?_eq_some_iff.mpr rightLatest))

/-- The latest expiration is still to come exactly when one of them is. -/
theorem exists_isLatest_and_le_iff {ends : List Expiration} {bound : WithTop Int} :
    (∃ chosen, IsLatest chosen ends ∧ bound ≤ chosen.moment) ↔
      ∃ other ∈ ends, bound ≤ other.moment := by
  constructor
  · rintro ⟨chosen, latest, notAfter⟩
    exact ⟨chosen, latest.mem, notAfter⟩
  · rintro ⟨other, member, notAfter⟩
    rcases exists_isLatest_iff.mpr (List.ne_nil_of_mem member) with ⟨chosen, latest⟩
    exact ⟨chosen, latest, notAfter.trans (latest.moment_le member)⟩

section Indices

variable {ι : Type} {before : ι → ι → Prop} {indices : List ι}
  {expirationOf : ι → Option Expiration} {chosen : Expiration}

private theorem exists_index_of_isLatest (sorted : indices.Pairwise before)
    (asymmetric : ∀ {left right}, before left right → ¬ before right left)
    (latest : chosen.IsLatest (indices.filterMap expirationOf)) :
    ∃ index ∈ indices, expirationOf index = some chosen ∧
      ∀ other ∈ indices, ∀ expiration, expirationOf other = some expiration →
        expiration.moment ≤ chosen.moment ∧
          (before index other → expiration.moment < chosen.moment) := by
  rcases latest with ⟨earlier, later, split, notAfter, after⟩
  rcases List.filterMap_eq_append_iff.mp split with ⟨front, back, rfl, rfl, backSplit⟩
  rcases List.filterMap_eq_cons_iff.mp backSplit with
    ⟨skipped, index, rest, rfl, withoutEnd, found, rfl⟩
  refine ⟨index, by simp, found, ?_⟩
  intro other member expiration otherFound
  rw [← List.append_assoc] at member sorted
  have parts := List.pairwise_append.mp sorted
  rcases List.mem_append.mp member with inFront | inRest
  · have notBefore : ¬ before index other :=
      asymmetric (parts.2.2 other inFront index (by simp))
    refine ⟨?_, fun isBefore => absurd isBefore notBefore⟩
    rcases List.mem_append.mp inFront with inEarlier | inSkipped
    · exact notAfter expiration (List.mem_filterMap.mpr ⟨other, inEarlier, otherFound⟩)
    · rw [withoutEnd other inSkipped] at otherFound
      cases otherFound
  · rcases List.mem_cons.mp inRest with rfl | inRest
    · rcases Option.some_inj.mp (found.symm.trans otherFound) with rfl
      exact ⟨le_rfl, fun isBefore => absurd isBefore (asymmetric isBefore)⟩
    · have isAfter := after expiration (List.mem_filterMap.mpr ⟨other, inRest, otherFound⟩)
      exact ⟨isAfter.le, fun _ => isAfter⟩

private theorem isLatest_of_index (sorted : indices.Pairwise before) {index : ι}
    (member : index ∈ indices) (found : expirationOf index = some chosen)
    (greatest : ∀ other ∈ indices, ∀ expiration, expirationOf other = some expiration →
      expiration.moment ≤ chosen.moment ∧
        (before index other → expiration.moment < chosen.moment)) :
    chosen.IsLatest (indices.filterMap expirationOf) := by
  rcases List.append_of_mem member with ⟨front, rest, rfl⟩
  have parts := List.pairwise_append.mp sorted
  refine ⟨front.filterMap expirationOf, rest.filterMap expirationOf, ?_, ?_, ?_⟩
  · simp [List.filterMap_append, found]
  · intro expiration inFront
    rcases List.mem_filterMap.mp inFront with ⟨other, otherMember, otherFound⟩
    exact (greatest other (by simp [otherMember]) expiration otherFound).1
  · intro expiration inRest
    rcases List.mem_filterMap.mp inRest with ⟨other, otherMember, otherFound⟩
    have isBefore := (List.pairwise_cons.mp parts.2.1).1 other otherMember
    exact (greatest other (by simp [otherMember]) expiration otherFound).2 isBefore

/-- Where the expirations come from indices in order, the latest comes from an index whose
expiration no other one exceeds, and which all later ones miss. -/
theorem isLatest_filterMap_iff (sorted : indices.Pairwise before)
    (asymmetric : ∀ {left right}, before left right → ¬ before right left)
    (expirationOf : ι → Option Expiration) (chosen : Expiration) :
    chosen.IsLatest (indices.filterMap expirationOf) ↔
      ∃ index ∈ indices, expirationOf index = some chosen ∧
        ∀ other ∈ indices, ∀ expiration, expirationOf other = some expiration →
          expiration.moment ≤ chosen.moment ∧
            (before index other → expiration.moment < chosen.moment) := by
  constructor
  · exact exists_index_of_isLatest sorted asymmetric
  · intro indexed
    rcases indexed with ⟨index, member, found, greatest⟩
    exact isLatest_of_index sorted member found greatest

end Indices

end AlgorithmPolicy.Expiration

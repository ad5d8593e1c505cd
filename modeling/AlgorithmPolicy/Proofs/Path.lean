import AlgorithmPolicy.Path

/-! Limits of paths. They apply to the components of a path, but no segment that is no component
is long, so that all segments are within them if and only if all components are. -/

namespace AlgorithmPolicy.Path

/-! ## Segments -/

theorem splitCharacters_ne_nil (text : List Char) : splitCharacters text ≠ [] := by
  cases text with
  | nil => simp [splitCharacters]
  | cons character rest =>
      rw [splitCharacters]
      split
      · simp
      · split <;> simp

theorem splitCharacters_append_slash (left right : List Char) :
    splitCharacters (left ++ '/' :: right) = splitCharacters left ++ splitCharacters right := by
  induction left with
  | nil => rfl
  | cons character left induction =>
      rw [List.cons_append, splitCharacters, splitCharacters, induction]
      split
      · rfl
      · cases isSplit : splitCharacters left with
        | nil => exact absurd isSplit (splitCharacters_ne_nil left)
        | cons segment segments => rfl

theorem splitCharacters_of_slashless {text : List Char} (isSlashless : '/' ∉ text) :
    splitCharacters text = [text] := by
  induction text with
  | nil => rfl
  | cons character rest induction =>
      rw [List.mem_cons, not_or] at isSlashless
      rw [splitCharacters, if_neg (Ne.symm isSlashless.1), induction isSlashless.2]

/-- What stands before a segment ends with a slash. -/
def EndsWithSlash (before : List Char) : Prop :=
  before = [] ∨ ∃ earlier, before = earlier ++ ['/']

/-- What stands after a segment begins with a slash. -/
def BeginsWithSlash (after : List Char) : Prop :=
  after = [] ∨ ∃ later, after = '/' :: later

/-- A stretch of a text without slashes that reaches as far as it can on both sides. -/
def IsStretch (text segment : List Char) : Prop :=
  '/' ∉ segment ∧ ∃ before after, text = before ++ segment ++ after ∧
    EndsWithSlash before ∧ BeginsWithSlash after

theorem mem_splitCharacters_of_isStretch {text segment : List Char}
    (isStretch : IsStretch text segment) : segment ∈ splitCharacters text := by
  rcases isStretch with ⟨isSlashless, before, after, rfl, endsWithSlash, beginsWithSlash⟩
  have isFirst : segment ∈ splitCharacters (segment ++ after) := by
    rcases beginsWithSlash with rfl | ⟨later, rfl⟩
    · rw [List.append_nil, splitCharacters_of_slashless isSlashless]
      exact List.mem_singleton_self segment
    · rw [splitCharacters_append_slash, splitCharacters_of_slashless isSlashless]
      exact List.mem_cons_self
  rcases endsWithSlash with rfl | ⟨earlier, rfl⟩
  · exact isFirst
  · have isSplit : earlier ++ ['/'] ++ segment ++ after = earlier ++ '/' :: (segment ++ after) := by
      simp
    rw [isSplit, splitCharacters_append_slash]
    exact List.mem_append_right _ isFirst

/-- The first segment is at the start of the text, and each other one after a slash. -/
theorem stretches_of_splitCharacters {text first : List Char} {others : List (List Char)}
    (isSplit : splitCharacters text = first :: others) :
    ('/' ∉ first ∧ ∃ after, text = first ++ after ∧ BeginsWithSlash after) ∧
      ∀ segment ∈ others, '/' ∉ segment ∧ ∃ earlier after,
        text = earlier ++ '/' :: (segment ++ after) ∧ BeginsWithSlash after := by
  induction text generalizing first others with
  | nil =>
      cases isSplit
      exact ⟨⟨List.not_mem_nil, [], rfl, .inl rfl⟩, nofun⟩
  | cons character rest induction =>
      cases isRest : splitCharacters rest with
      | nil => exact absurd isRest (splitCharacters_ne_nil rest)
      | cons next later =>
          rcases induction isRest with ⟨⟨isSlashless, after, isNext, beginsWithSlash⟩, areLater⟩
          rw [splitCharacters, isRest] at isSplit
          by_cases isSlash : character = '/'
          · subst isSlash
            cases isSplit
            refine ⟨⟨List.not_mem_nil, '/' :: rest, rfl, .inr ⟨rest, rfl⟩⟩, ?_⟩
            intro segment member
            rcases List.mem_cons.mp member with rfl | isLater
            · exact ⟨isSlashless, [], after, congrArg ('/' :: ·) isNext, beginsWithSlash⟩
            · rcases areLater segment isLater with
                ⟨isSegment, earlier, after, isText, beginsWithSlash⟩
              exact ⟨isSegment, '/' :: earlier, after, congrArg ('/' :: ·) isText, beginsWithSlash⟩
          · rw [if_neg isSlash] at isSplit
            cases isSplit
            constructor
            · refine ⟨?_, after, congrArg (character :: ·) isNext, beginsWithSlash⟩
              rw [List.mem_cons, not_or]
              exact ⟨Ne.symm isSlash, isSlashless⟩
            · intro segment isLater
              rcases areLater segment isLater with
                ⟨isSegment, earlier, after, isText, beginsWithSlash⟩
              exact ⟨isSegment, character :: earlier, after, congrArg (character :: ·) isText,
                beginsWithSlash⟩

theorem mem_splitCharacters_iff {text segment : List Char} :
    segment ∈ splitCharacters text ↔ IsStretch text segment := by
  refine ⟨?_, mem_splitCharacters_of_isStretch⟩
  intro member
  cases isSplit : splitCharacters text with
  | nil => exact absurd isSplit (splitCharacters_ne_nil text)
  | cons first others =>
      rcases stretches_of_splitCharacters isSplit with ⟨⟨isSlashless, after, isText, begins⟩, rest⟩
      rw [isSplit] at member
      rcases List.mem_cons.mp member with rfl | isOther
      · exact ⟨isSlashless, [], after, isText, .inl rfl, begins⟩
      · rcases rest segment isOther with ⟨isSegment, earlier, after, isText, begins⟩
        refine ⟨isSegment, earlier ++ ['/'], after, ?_, .inr ⟨earlier, rfl⟩, begins⟩
        rw [isText]
        simp

/-- A stretch of a path from one slash to the next. -/
def IsSegment (path segment : String) : Prop :=
  IsStretch path.toList segment.toList

theorem mem_segments_iff {path segment : String} :
    segment ∈ segments path ↔ IsSegment path segment := by
  rw [IsSegment, ← mem_splitCharacters_iff, segments, List.mem_map]
  constructor
  · intro isWritten
    rcases isWritten with ⟨characters, member, same⟩
    rw [← same, String.toList_ofList]
    exact member
  · intro member
    exact ⟨segment.toList, member, String.ofList_toList⟩

/-! ## Components -/

/-- The start of a path is no matter of the segments that say something. -/
theorem filter_splitCharacters_splitStart (text : List Char) :
    (splitCharacters (splitStart text).2).filter (!isIdle ·) =
      (splitCharacters text).filter (!isIdle ·) := by
  fun_cases splitStart text with
  | case1 rest => simp [splitCharacters, isIdle]
  | case2 => simp [splitCharacters, isIdle]
  | case3 rest => simp [splitCharacters, isIdle]
  | case4 => rfl

/-- At the start of a path there is one character at most. -/
theorem utf8ByteSize_splitStart (text : List Char) :
    (String.ofList (splitStart text).1).utf8ByteSize ≤ 1 := by
  fun_cases splitStart text <;> simp +decide only

theorem utf8ByteSize_of_isIdle {segment : List Char} (idle : isIdle segment = true) :
    (String.ofList segment).utf8ByteSize ≤ 1 := by
  rw [isIdle, Bool.or_eq_true, List.isEmpty_iff, beq_iff_eq] at idle
  rcases idle with rfl | rfl <;> decide

/-- A path has a long component exactly if it has a long segment: the start of a path, and what
is left out of its components, is short. -/
theorem any_components {isLong : String → Bool}
    (areShort : ∀ text : String, text.utf8ByteSize ≤ 1 → isLong text = false) (path : String) :
    (components path).any isLong = (segments path).any isLong := by
  have named : ((splitCharacters (splitStart path.toList).2).filter (!isIdle ·)).any
      (isLong ∘ String.ofList) = (segments path).any isLong := by
    rw [filter_splitCharacters_splitStart, List.any_filter, segments, List.any_map]
    apply congrArg
    funext segment
    cases idle : isIdle segment with
    | false => rfl
    | true => exact (areShort _ (utf8ByteSize_of_isIdle idle)).symm
  rw [components]
  dsimp only
  rw [List.any_map]
  split
  · exact named
  · rw [List.any_cons, named, Function.comp_apply, areShort _ (utf8ByteSize_splitStart _),
      Bool.false_or]

/-! ## Limits -/

theorem excess?_eq (path : String) :
    excess? path =
      if lengthLimit < path.utf8ByteSize then some .path
      else if (segments path).any fun segment => segmentLimit < segment.utf8ByteSize then
        some .segment
      else none := by
  rw [excess?, any_components]
  intro text isShort
  apply decide_eq_false
  apply Nat.not_lt.mpr
  exact Nat.le_trans isShort (by decide)

/-- Neither the path nor a segment of it has too many bytes. -/
structure IsWithinLimits (path : String) : Prop where
  whole : path.utf8ByteSize ≤ lengthLimit
  each : ∀ segment ∈ segments path, segment.utf8ByteSize ≤ segmentLimit

theorem excess?_eq_none_iff {path : String} : excess? path = none ↔ IsWithinLimits path := by
  rw [excess?_eq]
  constructor
  · intro isWithin
    split at isWithin
    · cases isWithin
    · next isShort =>
        split at isWithin
        · cases isWithin
        · next areShort =>
            simp only [List.any_eq_true, not_exists, not_and, decide_eq_true_iff, Nat.not_lt]
              at areShort
            exact ⟨Nat.le_of_not_lt isShort, areShort⟩
  · intro isWithin
    rw [if_neg (Nat.not_lt.mpr isWithin.whole), if_neg]
    simp only [List.any_eq_true, not_exists, not_and, decide_eq_true_iff, Nat.not_lt]
    exact isWithin.each

/-- A path of at most 4096 bytes, of whose segments each has at most 255. -/
structure IsBounded (path : String) : Prop where
  whole : path.utf8ByteSize ≤ 4096
  each : ∀ segment, IsSegment path segment → segment.utf8ByteSize ≤ 255

theorem isWithinLimits_iff {path : String} : IsWithinLimits path ↔ IsBounded path := by
  constructor
  · intro isWithin
    refine ⟨isWithin.whole, fun segment isSegment => ?_⟩
    exact isWithin.each segment (mem_segments_iff.mpr isSegment)
  · intro isBounded
    refine ⟨isBounded.whole, fun segment member => ?_⟩
    exact isBounded.each segment (mem_segments_iff.mp member)

theorem excess?_eq_path_iff {path : String} :
    excess? path = some .path ↔ 4096 < path.utf8ByteSize := by
  rw [excess?_eq]
  constructor
  · intro exceeds
    split at exceeds
    · assumption
    · split at exceeds <;> cases exceeds
  · intro isLong
    exact if_pos isLong

theorem excess?_eq_segment_iff {path : String} :
    excess? path = some .segment ↔
      path.utf8ByteSize ≤ 4096 ∧
        ∃ segment, IsSegment path segment ∧ 255 < segment.utf8ByteSize := by
  have isLong : (segments path).any (fun segment => segmentLimit < segment.utf8ByteSize) = true ↔
      ∃ segment, IsSegment path segment ∧ 255 < segment.utf8ByteSize := by
    simp only [List.any_eq_true, mem_segments_iff, decide_eq_true_eq]
    exact Iff.rfl
  rw [excess?_eq, ← isLong]
  constructor
  · intro exceeds
    split at exceeds
    · cases exceeds
    · next isShort =>
        split at exceeds
        · next isFound => exact ⟨Nat.le_of_not_lt isShort, isFound⟩
        · cases exceeds
  · intro exceeds
    exact (if_neg (Nat.not_lt.mpr exceeds.1)).trans (if_pos exceeds.2)

end AlgorithmPolicy.Path

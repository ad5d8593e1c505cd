import AlgorithmPolicy.Configuration.Loading
import AlgorithmPolicy.Proofs.Except
import AlgorithmPolicy.Proofs.Path

/-! What is loaded from a file. There is an order in which a file is looked at: the length of its
path, the segments of the path, the content, its size and its encoding come before what the text
says. The first of them that is wrong is what is reported. -/

namespace AlgorithmPolicy

/-! ## Texts -/

theorem fromUTF8?_eq_some_iff {bytes : ByteArray} {text : String} :
    String.fromUTF8? bytes = some text ↔ bytes = text.toUTF8 := by
  rw [String.fromUTF8?]
  constructor
  · intro decoded
    split at decoded
    · cases decoded
      rfl
    · cases decoded
  · intro encoded
    subst encoded
    exact dif_pos text.isValidUTF8

theorem fromUTF8?_eq_none_iff {bytes : ByteArray} :
    String.fromUTF8? bytes = none ↔ ∀ text : String, bytes ≠ text.toUTF8 := by
  simp only [Option.eq_none_iff_forall_ne_some, ne_eq, fromUTF8?_eq_some_iff]

/-! ## Paths -/

theorem Path.check_eq_ok_iff {subject path : String} :
    check subject path = .ok () ↔ IsBounded path := by
  rw [check, ← isWithinLimits_iff, ← excess?_eq_none_iff]
  cases excess? path with
  | none => simp
  | some excess => cases excess <;> simp

/-! ## Contents -/

/-- A file whose path is within the limits has a content that can be read. -/
structure HasContent (files : FileSystem Id) (path : String) (bytes : ByteArray) : Prop where
  isBounded : Path.IsBounded path
  isContent : Lookup.content (files path) = .ok bytes

/-- The content of a file is a text of no more than so many bytes. -/
structure HoldsText (files : FileSystem Id) (path : String) (limit : Nat) (text : String) :
    Prop extends HasContent files path text.toUTF8 where
  isSmall : text.toUTF8.size ≤ limit

section

variable {α : Type}

/-- What is wrong with a file first. What its text is refused for comes last. -/
inductive FirstFlaw (files : FileSystem Id) (subject path : String) (limit : Nat)
    (parse : String → Except LoadError α) : LoadError → Prop
  | pathTooLong (isLong : 4096 < path.utf8ByteSize) :
      FirstFlaw files subject path limit parse (.invalid (.pathTooLong subject))
  | segmentTooLong {segment : String} (isShort : path.utf8ByteSize ≤ 4096)
      (isSegment : Path.IsSegment path segment) (isLong : 255 < segment.utf8ByteSize) :
      FirstFlaw files subject path limit parse (.invalid (.segmentTooLong subject))
  | unreadable {failure : ReadFailure} (isBounded : Path.IsBounded path)
      (isUnreadable : Lookup.content (files path) = .error failure) :
      FirstFlaw files subject path limit parse (.unreadable failure)
  | fileTooLarge {bytes : ByteArray} (hasContent : HasContent files path bytes)
      (isLarge : limit < bytes.size) :
      FirstFlaw files subject path limit parse (.invalid (.fileTooLarge subject))
  | notUtf8 {bytes : ByteArray} (hasContent : HasContent files path bytes)
      (isSmall : bytes.size ≤ limit) (isNoText : ∀ text : String, bytes ≠ text.toUTF8) :
      FirstFlaw files subject path limit parse (.invalid (.notUtf8 subject))
  | refused {text : String} {error : LoadError} (holdsText : HoldsText files path limit text)
      (isRefused : parse text = .error error) :
      FirstFlaw files subject path limit parse error

/-- A value is loaded if there is a text for it and the text is accepted, and else the first flaw
is reported. -/
structure LoadsText (files : FileSystem Id) (subject path : String) (limit : Nat)
    (parse : String → Except LoadError α) (loaded : Except LoadError α) : Prop where
  accepts : ∀ value, loaded = .ok value ↔
    ∃ text, HoldsText files path limit text ∧ parse text = .ok value
  refuses : ∀ error, loaded = .error error ↔
    FirstFlaw files subject path limit parse error

variable {files : FileSystem Id} {subject path : String} {limit : Nat}
  {parse : String → Except LoadError α}

theorem loadFile_of_isBounded (isBounded : Path.IsBounded path) :
    loadFile files subject path limit parse = textOfFile subject limit (files path) >>= parse := by
  rw [loadFile, Path.check_eq_ok_iff.mpr isBounded]
  rfl

theorem loadFile_of_hasContent {bytes : ByteArray} (hasContent : HasContent files path bytes) :
    loadFile files subject path limit parse =
      if limit < bytes.size then .error (.invalid (.fileTooLarge subject))
      else
        match String.fromUTF8? bytes with
        | some text => parse text
        | none => .error (.invalid (.notUtf8 subject)) := by
  rw [loadFile_of_isBounded hasContent.isBounded, textOfFile, hasContent.isContent]
  dsimp only
  split
  · rfl
  · cases String.fromUTF8? bytes <;> rfl

theorem loadFile_of_holdsText {text : String} (holdsText : HoldsText files path limit text) :
    loadFile files subject path limit parse = parse text := by
  rw [loadFile_of_hasContent holdsText.toHasContent, if_neg (Nat.not_lt.mpr holdsText.isSmall),
    fromUTF8?_eq_some_iff.mpr rfl]

theorem loadFile_of_firstFlaw {error : LoadError}
    (flaw : FirstFlaw files subject path limit parse error) :
    loadFile files subject path limit parse = .error error := by
  cases flaw with
  | pathTooLong isLong =>
      rw [loadFile, Path.check, Path.excess?_eq_path_iff.mpr isLong]
      rfl
  | segmentTooLong isShort isSegment isLong =>
      rw [loadFile, Path.check, Path.excess?_eq_segment_iff.mpr ⟨isShort, _, isSegment, isLong⟩]
      rfl
  | unreadable isBounded isUnreadable =>
      rw [loadFile_of_isBounded isBounded, textOfFile, isUnreadable]
      rfl
  | fileTooLarge hasContent isLarge =>
      rw [loadFile_of_hasContent hasContent, if_pos isLarge]
  | notUtf8 hasContent isSmall isNoText =>
      rw [loadFile_of_hasContent hasContent, if_neg (Nat.not_lt.mpr isSmall),
        fromUTF8?_eq_none_iff.mpr isNoText]
  | refused holdsText isRefused =>
      rw [loadFile_of_holdsText holdsText, isRefused]

/-- Each condition is met, or there is a first one that is not. -/
theorem holdsText_or_firstFlaw (files : FileSystem Id) (subject path : String) (limit : Nat)
    (parse : String → Except LoadError α) :
    (∃ text, HoldsText files path limit text) ∨
      ∃ error, FirstFlaw files subject path limit parse error := by
  by_cases isLong : 4096 < path.utf8ByteSize
  · exact .inr ⟨_, .pathTooLong isLong⟩
  by_cases hasLong : ∃ segment, Path.IsSegment path segment ∧ 255 < segment.utf8ByteSize
  · rcases hasLong with ⟨segment, isSegment, isLongSegment⟩
    exact .inr ⟨_, .segmentTooLong (Nat.le_of_not_lt isLong) isSegment isLongSegment⟩
  have isBounded : Path.IsBounded path := by
    simp only [not_exists, not_and, Nat.not_lt] at hasLong
    exact ⟨Nat.le_of_not_lt isLong, hasLong⟩
  cases isContent : Lookup.content (files path) with
  | error failure => exact .inr ⟨_, .unreadable isBounded isContent⟩
  | ok bytes =>
      have hasContent : HasContent files path bytes := ⟨isBounded, isContent⟩
      by_cases isLarge : limit < bytes.size
      · exact .inr ⟨_, .fileTooLarge hasContent isLarge⟩
      cases decoded : String.fromUTF8? bytes with
      | none =>
          have isNoText := fromUTF8?_eq_none_iff.mp decoded
          exact .inr ⟨_, .notUtf8 hasContent (Nat.le_of_not_lt isLarge) isNoText⟩
      | some text =>
          have isText := fromUTF8?_eq_some_iff.mp decoded
          subst isText
          exact .inl ⟨text, hasContent, Nat.le_of_not_lt isLarge⟩

theorem loadFile_eq_ok_iff {value : α} :
    loadFile files subject path limit parse = .ok value ↔
      ∃ text, HoldsText files path limit text ∧ parse text = .ok value := by
  constructor
  · intro loaded
    rcases holdsText_or_firstFlaw files subject path limit parse with
      ⟨text, holdsText⟩ | ⟨error, flaw⟩
    · rw [loadFile_of_holdsText holdsText] at loaded
      exact ⟨text, holdsText, loaded⟩
    · rw [loadFile_of_firstFlaw flaw] at loaded
      cases loaded
  · intro isLoaded
    rcases isLoaded with ⟨text, holdsText, isParsed⟩
    rw [loadFile_of_holdsText holdsText, isParsed]

theorem loadFile_eq_error_iff {error : LoadError} :
    loadFile files subject path limit parse = .error error ↔
      FirstFlaw files subject path limit parse error := by
  refine ⟨?_, loadFile_of_firstFlaw⟩
  intro isRefused
  rcases holdsText_or_firstFlaw files subject path limit parse with
    ⟨text, holdsText⟩ | ⟨other, flaw⟩
  · rw [loadFile_of_holdsText holdsText] at isRefused
    exact .refused holdsText isRefused
  · rw [loadFile_of_firstFlaw flaw] at isRefused
    cases isRefused
    exact flaw

theorem loadsText_loadFile :
    LoadsText files subject path limit parse (loadFile files subject path limit parse) :=
  ⟨fun _ => loadFile_eq_ok_iff, fun _ => loadFile_eq_error_iff⟩

theorem map_loadFile {β : Type} (transform : α → β) :
    (loadFile files subject path limit parse).map transform =
      loadFile files subject path limit fun text => (parse text).map transform := by
  rw [loadFile, loadFile]
  cases Path.check subject path with
  | error error => rfl
  | ok _ =>
      change (textOfFile subject limit (files path) >>= parse).map transform =
        textOfFile subject limit (files path) >>= fun text => (parse text).map transform
      cases textOfFile subject limit (files path) <;> rfl

end

end AlgorithmPolicy

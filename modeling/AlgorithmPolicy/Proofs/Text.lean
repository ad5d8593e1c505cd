import AlgorithmPolicy.Text
import Mathlib.Data.List.TakeWhile

/-! Blanks at the ends of a text, without which a trimmed text is. -/

namespace AlgorithmPolicy.Text

def IsBlankText (text : String) : Prop :=
  ∀ character ∈ text.toList, isBlank character = true

/-- One text is another one with blanks at its ends. -/
def IsPaddedFrom (text padded : String) : Prop :=
  ∃ before after, IsBlankText before ∧ IsBlankText after ∧ padded = before ++ text ++ after

/-! ## Trimming -/

def trimCharacters (characters : List Char) : List Char :=
  ((characters.dropWhile isBlank).reverse.dropWhile isBlank).reverse

theorem trim_eq (text : String) : trim text = String.ofList (trimCharacters text.toList) :=
  rfl

section Characters

variable {blanks : List Char} (areBlank : ∀ character ∈ blanks, isBlank character = true)
  (characters : List Char)

include areBlank

theorem trimCharacters_blanks_append :
    trimCharacters (blanks ++ characters) = trimCharacters characters := by
  rw [trimCharacters, trimCharacters, List.dropWhile_append_of_pos areBlank]

theorem trimCharacters_append_blanks :
    trimCharacters (characters ++ blanks) = trimCharacters characters := by
  rw [trimCharacters, trimCharacters, List.dropWhile_append]
  split
  · next allBlank =>
      rw [List.isEmpty_iff.mp allBlank, List.dropWhile_eq_nil_iff.mpr areBlank]
  · have areBlankReversed : ∀ character ∈ blanks.reverse, isBlank character = true :=
      fun character member => areBlank character (List.mem_reverse.mp member)
    rw [List.reverse_append, List.dropWhile_append_of_pos areBlankReversed]

end Characters

theorem isPaddedFrom_trim (text : String) : IsPaddedFrom (trim text) text := by
  let rest := text.toList.dropWhile isBlank
  refine ⟨String.ofList (text.toList.takeWhile isBlank),
    String.ofList (rest.reverse.takeWhile isBlank).reverse, ?_, ?_, ?_⟩
  · intro character member
    rw [String.toList_ofList] at member
    exact List.mem_takeWhile_imp member
  · intro character member
    rw [String.toList_ofList, List.mem_reverse] at member
    exact List.mem_takeWhile_imp member
  · have isRest :
        trimCharacters text.toList ++ (rest.reverse.takeWhile isBlank).reverse = rest := by
      rw [trimCharacters, ← List.reverse_append, List.takeWhile_append_dropWhile,
        List.reverse_reverse]
    rw [trim_eq, String.append_assoc, ← String.ofList_append, ← String.ofList_append, isRest,
      List.takeWhile_append_dropWhile, String.ofList_toList]

theorem trim_eq_of_isPaddedFrom {text padded : String} (isPadded : IsPaddedFrom text padded) :
    trim padded = trim text := by
  rcases isPadded with ⟨before, after, isBlankBefore, isBlankAfter, rfl⟩
  rw [trim_eq, trim_eq, String.toList_append, String.toList_append,
    trimCharacters_append_blanks isBlankAfter, trimCharacters_blanks_append isBlankBefore]

end AlgorithmPolicy.Text

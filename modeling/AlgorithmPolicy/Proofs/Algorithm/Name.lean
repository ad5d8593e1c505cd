import AlgorithmPolicy.Algorithm.Name
import AlgorithmPolicy.Proofs.Text

/-! Normal forms of names are their own normal forms: a letter taken to upper case stays as it
is, and is no separator. -/

namespace AlgorithmPolicy.Name

/-! ## Characters -/

section Characters

variable {character : Char}

theorem holds_of_isAscii (Holds : Char → Prop)
    (checked : ∀ code < 128, Holds (Char.ofNat code)) (isAscii : character.toNat < 128) :
    Holds character := by
  have holds := checked character.toNat isAscii
  rwa [Char.ofNat_toNat] at holds

theorem upperAscii_of_not_isAscii (beyond : ¬ character.toNat < 128) :
    upperAscii character = character := by
  apply if_neg
  intro isLower
  have below : character.toNat ≤ 122 := isLower.2
  omega

theorem isSeparator_upperAscii (character : Char) :
    isSeparator (upperAscii character) = isSeparator character := by
  by_cases isAscii : character.toNat < 128
  · apply holds_of_isAscii (fun other => isSeparator (upperAscii other) = isSeparator other) _
      isAscii
    decide
  · rw [upperAscii_of_not_isAscii isAscii]

theorem upperAscii_upperAscii (character : Char) :
    upperAscii (upperAscii character) = upperAscii character := by
  by_cases isAscii : character.toNat < 128
  · apply holds_of_isAscii (fun other => upperAscii (upperAscii other) = upperAscii other) _
      isAscii
    decide
  · have unchanged := upperAscii_of_not_isAscii isAscii
    rw [unchanged, unchanged]

end Characters

/-! ## Names -/

theorem isSeparator_of_mem_normalizeCharacters {characters : List Char} {character : Char}
    (member : character ∈ normalizeCharacters characters) : isSeparator character = false := by
  rcases List.mem_map.mp member with ⟨source, isKept, rfl⟩
  rw [isSeparator_upperAscii]
  simpa using (List.mem_filter.mp isKept).2

theorem upperAscii_of_mem_normalizeCharacters {characters : List Char} {character : Char}
    (member : character ∈ normalizeCharacters characters) : upperAscii character = character := by
  rcases List.mem_map.mp member with ⟨source, -, rfl⟩
  exact upperAscii_upperAscii source

theorem mem_normalizeCharacters {characters : List Char} {character : Char}
    (member : character ∈ characters) (isSignificant : isSeparator character = false)
    (isUpper : upperAscii character = character) : character ∈ normalizeCharacters characters := by
  apply List.mem_map.mpr
  refine ⟨character, List.mem_filter.mpr ⟨member, ?_⟩, isUpper⟩
  rw [isSignificant, Bool.not_false]

theorem normalizeCharacters_eq_self {characters : List Char}
    (isSignificant : ∀ character ∈ characters, isSeparator character = false)
    (isUpper : ∀ character ∈ characters, upperAscii character = character) :
    normalizeCharacters characters = characters := by
  have kept : characters.filter (fun character => !isSeparator character) = characters := by
    apply List.filter_eq_self.mpr
    intro character member
    rw [isSignificant character member, Bool.not_false]
  rw [normalizeCharacters, kept]
  exact (List.map_congr_left isUpper).trans (List.map_id' _)

theorem normalize_normalize (name : String) : normalize (normalize name) = normalize name := by
  rw [normalize, normalize, String.toList_ofList]
  apply congrArg String.ofList
  apply normalizeCharacters_eq_self
  · exact fun _ => isSeparator_of_mem_normalizeCharacters
  · exact fun _ => upperAscii_of_mem_normalizeCharacters

theorem normalizeCharacters_eq_nil_iff {characters : List Char} :
    normalizeCharacters characters = [] ↔
      ∀ character ∈ characters, isSeparator character = true := by
  rw [normalizeCharacters, List.map_eq_nil_iff, List.filter_eq_nil_iff]
  simp

theorem normalize_eq_empty_iff {name : String} :
    normalize name = "" ↔ ∀ character ∈ name.toList, isSeparator character = true := by
  rw [← normalizeCharacters_eq_nil_iff, normalize, String.ofList_eq_empty_iff]

/-! ## Blanks -/

theorem normalizeCharacters_eq_nil_of_isBlankText {blanks : String}
    (areBlank : Text.IsBlankText blanks) : normalizeCharacters blanks.toList = [] := by
  rw [normalizeCharacters_eq_nil_iff]
  intro character member
  rw [isSeparator, areBlank character member, Bool.or_true]

theorem normalize_eq_of_isPaddedFrom {text padded : String}
    (isPadded : Text.IsPaddedFrom text padded) : normalize padded = normalize text := by
  rcases isPadded with ⟨before, after, isBlankBefore, isBlankAfter, rfl⟩
  rw [normalize, normalize, String.toList_append, String.toList_append,
    normalizeCharacters_append, normalizeCharacters_append,
    normalizeCharacters_eq_nil_of_isBlankText isBlankBefore,
    normalizeCharacters_eq_nil_of_isBlankText isBlankAfter, List.nil_append, List.append_nil]

theorem normalize_trim (text : String) : normalize (Text.trim text) = normalize text :=
  (normalize_eq_of_isPaddedFrom (Text.isPaddedFrom_trim text)).symm

end AlgorithmPolicy.Name

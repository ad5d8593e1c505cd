import AlgorithmPolicy.Proofs.Algorithm.Name
import AlgorithmPolicy.Registry.Directory
import Mathlib

/-! Spellings of one name. Separators may be put into a name and taken out of it anywhere, and
letters of ASCII may switch their case. What is reached by such edits is exactly what has the
same normal form, so that all spellings of a name get one answer from a directory. -/

namespace AlgorithmPolicy

namespace Name

/-! ## Characters -/

/-- What may be put into a name: a hyphen, an underscore, a slash or a blank. -/
inductive IsFiller : Char → Prop
  | hyphen : IsFiller '-'
  | underscore : IsFiller '_'
  | slash : IsFiller '/'
  | blank {character : Char} (isBlank : Text.isBlank character = true) : IsFiller character

/-- One letter is the other one in the other case. Only the letters of ASCII have two. -/
inductive SwitchesCase : Char → Char → Prop
  | raise {letter : Char} (isLower : letter.isLower = true) : SwitchesCase letter letter.toUpper
  | lower {letter : Char} (isUpper : letter.isUpper = true) : SwitchesCase letter letter.toLower

theorem isSeparator_iff_isFiller {character : Char} :
    isSeparator character = true ↔ IsFiller character := by
  simp only [isSeparator, Bool.or_eq_true, beq_iff_eq]
  constructor
  · intro separates
    rcases separates with ((rfl | rfl) | rfl) | isBlank
    · exact .hyphen
    · exact .underscore
    · exact .slash
    · exact .blank isBlank
  · intro fills
    cases fills with
    | hyphen => exact .inl (.inl (.inl rfl))
    | underscore => exact .inl (.inl (.inr rfl))
    | slash => exact .inl (.inr rfl)
    | blank isBlank => exact .inr isBlank

theorem upperAscii_eq_toUpper (character : Char) : upperAscii character = character.toUpper := by
  have isLower_iff : ('a' ≤ character ∧ character ≤ 'z') ↔ character.isLower = true := by
    simp [Char.isLower, Char.le_def]
  rw [upperAscii]
  split
  · next isLower => rw [Char.toUpper_eq_of_isLower (isLower_iff.mp isLower)]
  · next notLower => rw [Char.toUpper_eq_of_not_isLower (mt isLower_iff.mpr notLower)]

theorem SwitchesCase.symm {letter switched : Char} (switches : SwitchesCase letter switched) :
    SwitchesCase switched letter := by
  cases switches with
  | raise isLower =>
      have isRaised : letter.toUpper.isUpper = true := by
        rw [Char.isUpper_toUpper_eq_isAlpha, Char.isAlpha, isLower, Bool.or_true]
      have isBack : letter.toUpper.toLower = letter := by
        rw [Char.toLower_toUpper_eq_toLower]
        exact Char.toLower_eq_of_not_isUpper (Char.not_isUpper_of_isLower isLower)
      have lowers := SwitchesCase.lower isRaised
      rwa [isBack] at lowers
  | lower isUpper =>
      have isLowered : letter.toLower.isLower = true := by
        rw [Char.isLower_toLower_eq_isAlpha, Char.isAlpha, isUpper, Bool.true_or]
      have isBack : letter.toLower.toUpper = letter := by
        rw [Char.toUpper_toLower_eq_toUpper]
        exact Char.toUpper_eq_of_not_isLower (Char.not_isLower_of_isUpper isUpper)
      have raises := SwitchesCase.raise isLowered
      rwa [isBack] at raises

theorem SwitchesCase.upperAscii_eq {letter switched : Char}
    (switches : SwitchesCase letter switched) : upperAscii switched = upperAscii letter := by
  rw [upperAscii_eq_toUpper, upperAscii_eq_toUpper]
  cases switches with
  | raise => exact Char.toUpper_toUpper_eq_toUpper letter
  | lower => exact Char.toUpper_toLower_eq_toUpper letter

theorem eq_or_switchesCase_upperAscii (character : Char) :
    upperAscii character = character ∨ SwitchesCase character (upperAscii character) := by
  rw [upperAscii_eq_toUpper]
  by_cases isLower : character.isLower = true
  · exact .inr (.raise isLower)
  · exact .inl (Char.toUpper_eq_of_not_isLower isLower)

/-! ## Edits -/

/-- A single edit of a name, between what stands before and what stands after. -/
inductive Edit : List Char → List Char → Prop
  | insert (before : List Char) {filler : Char} (fills : IsFiller filler) (after : List Char) :
      Edit (before ++ after) (before ++ filler :: after)
  | delete (before : List Char) {filler : Char} (fills : IsFiller filler) (after : List Char) :
      Edit (before ++ filler :: after) (before ++ after)
  | switchCase (before : List Char) {letter switched : Char}
      (switches : SwitchesCase letter switched) (after : List Char) :
      Edit (before ++ letter :: after) (before ++ switched :: after)

/-- Any number of edits, one after the other. -/
abbrev Edits : List Char → List Char → Prop :=
  Relation.ReflTransGen Edit

/-- Every edit can be taken back. -/
instance Edit.stdSymm : Std.Symm Edit where
  symm _ _ edit := by
    cases edit with
    | insert before fills after => exact .delete before fills after
    | delete before fills after => exact .insert before fills after
    | switchCase before switches after => exact .switchCase before switches.symm after

theorem Edit.cons {characters edited : List Char} (first : Char)
    (edit : Edit characters edited) : Edit (first :: characters) (first :: edited) := by
  cases edit with
  | insert before fills after => exact .insert (first :: before) fills after
  | delete before fills after => exact .delete (first :: before) fills after
  | switchCase before switches after => exact .switchCase (first :: before) switches after

theorem Edits.cons {characters edited : List Char} (first : Char)
    (edits : Edits characters edited) : Edits (first :: characters) (first :: edited) :=
  Relation.ReflTransGen.lift (first :: ·) (fun _ _ => Edit.cons first) _ _ edits

/-! ## Edits keep normal forms -/

theorem normalizeCharacters_cons (first : Char) (rest : List Char) :
    normalizeCharacters (first :: rest) =
      if isSeparator first = true then normalizeCharacters rest
      else upperAscii first :: normalizeCharacters rest := by
  by_cases separates : isSeparator first = true <;> simp [normalizeCharacters, separates]

theorem normalizeCharacters_filler {filler : Char} (fills : IsFiller filler)
    (before after : List Char) :
    normalizeCharacters (before ++ filler :: after) = normalizeCharacters (before ++ after) := by
  rw [normalizeCharacters_append, normalizeCharacters_append, normalizeCharacters_cons,
    if_pos (isSeparator_iff_isFiller.mpr fills)]

theorem normalizeCharacters_switchCase {letter switched : Char}
    (switches : SwitchesCase letter switched) (before after : List Char) :
    normalizeCharacters (before ++ switched :: after) =
      normalizeCharacters (before ++ letter :: after) := by
  -- Being a separator can be told from the upper case, which is the same for both.
  have sameSeparator : isSeparator switched = isSeparator letter := by
    rw [← isSeparator_upperAscii, switches.upperAscii_eq, isSeparator_upperAscii]
  rw [normalizeCharacters_append, normalizeCharacters_append, normalizeCharacters_cons,
    normalizeCharacters_cons, sameSeparator, switches.upperAscii_eq]

theorem Edit.normalizeCharacters_eq {characters edited : List Char}
    (edit : Edit characters edited) :
    normalizeCharacters edited = normalizeCharacters characters := by
  cases edit with
  | insert before fills after => exact normalizeCharacters_filler fills before after
  | delete before fills after => exact (normalizeCharacters_filler fills before after).symm
  | switchCase before switches after => exact normalizeCharacters_switchCase switches before after

theorem Edits.normalizeCharacters_eq {characters edited : List Char}
    (edits : Edits characters edited) :
    normalizeCharacters edited = normalizeCharacters characters := by
  induction edits with
  | refl => rfl
  | tail _ edit induction => exact edit.normalizeCharacters_eq.trans induction

/-! ## Edits reach normal forms -/

theorem edits_upperAscii (first : Char) (rest : List Char) :
    Edits (first :: rest) (upperAscii first :: rest) := by
  rcases eq_or_switchesCase_upperAscii first with isUpper | switches
  · rw [isUpper]
  · exact .single (.switchCase [] switches rest)

theorem edits_normalizeCharacters (characters : List Char) :
    Edits characters (normalizeCharacters characters) := by
  induction characters with
  | nil => exact .refl
  | cons first rest induction =>
      -- The first character is edited first. If it stays, all further edits are made behind it.
      rw [normalizeCharacters_cons]
      split
      · next separates =>
          have deleted : Edit (first :: rest) rest :=
            .delete [] (isSeparator_iff_isFiller.mp separates) rest
          exact induction.head deleted
      · exact (edits_upperAscii first rest).trans (induction.cons (upperAscii first))

/-- From one text to the other the way leads through the normal form that they share. -/
theorem normalizeCharacters_eq_iff {left right : List Char} :
    normalizeCharacters left = normalizeCharacters right ↔ Edits left right := by
  constructor
  · intro sameNormal
    have toNormal := edits_normalizeCharacters left
    have fromNormal : Edits (normalizeCharacters right) right :=
      symm (edits_normalizeCharacters right)
    rw [sameNormal] at toNormal
    exact toNormal.trans fromNormal
  · intro edits
    exact edits.normalizeCharacters_eq.symm

/-! ## Names -/

/-- One name is turned into the other by finitely many edits. -/
def Respells (name respelled : String) : Prop :=
  Edits name.toList respelled.toList

theorem normalize_eq_iff_respells {left right : String} :
    normalize left = normalize right ↔ Respells left right := by
  rw [normalize, normalize, String.ofList_inj, normalizeCharacters_eq_iff, Respells]

/-- Letters beyond ASCII keep their case. -/
example : normalize "SHA-é" ≠ normalize "sha_É" := by decide

theorem normalize_append (left right : String) :
    normalize (left ++ right) = normalize left ++ normalize right := by
  rw [normalize, normalize, normalize, String.toList_append, normalizeCharacters_append,
    String.ofList_append]

theorem resolveName?_eq_of_respells (directory : Directory) {name respelled : String}
    (respells : Respells name respelled) :
    directory.resolveName? respelled = directory.resolveName? name := by
  rw [Directory.resolveName?, Directory.resolveName?, normalize_eq_iff_respells.mpr respells]

/-- All spellings of a name have one form, which is their own form too and is put together as
the name is. No other name has it, and with whatever aliases they all get one answer. -/
structure IsCanonical (normal : String → String) : Prop where
  idempotent : ∀ name, normal (normal name) = normal name
  append : ∀ left right, normal (left ++ right) = normal left ++ normal right
  eq_iff_respells : ∀ left right, normal left = normal right ↔ Respells left right
  sameAnswers : ∀ name respelled, Respells name respelled →
    ∀ aliases : List (String × Resolved),
      (Directory.standard.withAliases aliases).resolveName? respelled =
        (Directory.standard.withAliases aliases).resolveName? name

theorem normalize_isCanonical : IsCanonical normalize := by
  constructor
  case idempotent => exact normalize_normalize
  case append => exact normalize_append
  case eq_iff_respells =>
    intro left right
    exact normalize_eq_iff_respells
  case sameAnswers =>
    intro name respelled respells aliases
    exact resolveName?_eq_of_respells (Directory.standard.withAliases aliases) respells

end Name

end AlgorithmPolicy

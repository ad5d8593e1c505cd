import Mathlib.Data.List.TakeWhile
import AlgorithmPolicy.Json
import AlgorithmPolicy.Json.Token
import AlgorithmPolicy.Proofs.Decimal

/-! How tokens are spelled. The token that is read at the front of a text is the one that the
front spells; where a number ends is told by what follows it. -/

namespace AlgorithmPolicy.Json

/-! ## Spellings of numbers -/

namespace NumberLiteral

/-- The digits of a number: there are some in front of the point, where no zero leads, and
some in the exponent if there is one. -/
structure IsProper (literal : NumberLiteral) : Prop where
  whole_ne_nil : literal.whole ≠ []
  whole_isDigit : ∀ character ∈ literal.whole, character.isDigit = true
  whole_leading : literal.whole.head? = some '0' → literal.whole = ['0']
  fraction_isDigit : ∀ character ∈ literal.fraction, character.isDigit = true
  exponent_ne_nil : ∀ exponent ∈ literal.exponent, exponent.2 ≠ []
  exponent_isDigit : ∀ exponent ∈ literal.exponent,
    ∀ character ∈ exponent.2, character.isDigit = true

def signText (literal : NumberLiteral) : List Char :=
  if literal.isNegative then ['-'] else []

def fractionText (digits : List Char) : List Char :=
  if digits = [] then [] else '.' :: digits

/-- A sign may stand also before an exponent that is not negative. -/
def SpellsExponentSign : Bool → List Char → Prop
  | true, text => text = ['-']
  | false, text => text = ['+'] ∨ text = []

def SpellsExponent : Option (Bool × List Char) → List Char → Prop
  | none, text => text = []
  | some (isNegative, digits), text =>
      ∃ mark sign, (mark = 'e' ∨ mark = 'E') ∧ SpellsExponentSign isNegative sign ∧
        text = mark :: (sign ++ digits)

/-- A text spells a number without its sign. -/
def SpellsMagnitude (literal : NumberLiteral) (text : List Char) : Prop :=
  ∃ exponentText, SpellsExponent literal.exponent exponentText ∧
    text = literal.whole ++ (fractionText literal.fraction ++ exponentText)

def Spells (literal : NumberLiteral) (text : List Char) : Prop :=
  ∃ magnitude, literal.SpellsMagnitude magnitude ∧ text = literal.signText ++ magnitude

end NumberLiteral

namespace Token

/-- A number ends before a text that does not go on with it. -/
def EndsNumber (rest : List Char) : Prop :=
  ∀ character ∈ rest.head?,
    character.isDigit = false ∧ character ≠ '.' ∧ character ≠ 'e' ∧ character ≠ 'E'

/-! ### Reading digits -/

theorem readDigits_eq_some_iff {text digits rest : List Char} :
    readDigits text = some (digits, rest) ↔
      text = digits ++ rest ∧ digits ≠ [] ∧ (∀ character ∈ digits, character.isDigit = true) ∧
        ∀ character ∈ rest.head?, character.isDigit = false := by
  constructor
  · intro read
    simp only [readDigits] at read
    split at read
    · cases read
    · next nonempty =>
        rcases Option.some_inj.mp read with ⟨rfl, rfl⟩
        refine ⟨List.takeWhile_append_dropWhile.symm, by simpa using nonempty, ?_, ?_⟩
        · intro character member
          exact List.mem_takeWhile_imp member
        · intro character member
          have stops := List.head?_dropWhile_not Char.isDigit text
          rw [Option.mem_def] at member
          simpa [member] using stops
  · rintro ⟨rfl, nonempty, digits, ends⟩
    have isEmpty : List.isEmpty _ = false := List.isEmpty_eq_false_iff.mpr nonempty
    rw [readDigits, Decimal.takeWhile_isDigit_append digits ends,
      Decimal.dropWhile_isDigit_append digits ends]
    simp [isEmpty]

theorem readWhole_eq_some_iff {text whole rest : List Char} :
    readWhole text = some (whole, rest) ↔
      readDigits text = some (whole, rest) ∧ (whole.head? = some '0' → whole = ['0']) := by
  rw [readWhole]
  split
  · next second later other read =>
      rw [read]
      simp only [reduceCtorEq, Option.some.injEq, Prod.mk.injEq, false_iff, not_and]
      rintro ⟨rfl, rfl⟩
      simp
  · next noLeading =>
      rw [iff_self_and]
      intro read leading
      cases whole with
      | nil => cases leading
      | cons first later =>
          rcases Option.some_inj.mp leading with rfl
          cases later with
          | nil => rfl
          | cons second later => exact absurd read (noLeading _ _ _)

/-! ### Reading numbers -/

theorem spells_of_readFraction {text fraction rest : List Char}
    (read : readFraction text = some (fraction, rest)) :
    text = NumberLiteral.fractionText fraction ++ rest ∧
      ∀ character ∈ fraction, character.isDigit = true := by
  unfold readFraction at read
  split at read
  · rcases readDigits_eq_some_iff.mp read with ⟨rfl, nonempty, digits, -⟩
    simpa [NumberLiteral.fractionText, nonempty] using digits
  · rcases Option.some_inj.mp read with ⟨rfl, rfl⟩
    simp [NumberLiteral.fractionText]

theorem readFraction_of_spells {fraction rest : List Char}
    (digits : ∀ character ∈ fraction, character.isDigit = true)
    (ends : ∀ character ∈ rest.head?, character.isDigit = false ∧ character ≠ '.') :
    readFraction (NumberLiteral.fractionText fraction ++ rest) = some (fraction, rest) := by
  rw [NumberLiteral.fractionText]
  split
  · next isEmpty =>
      subst isEmpty
      cases rest with
      | nil => rfl
      | cons first later =>
          rw [List.nil_append, readFraction]
          rintro _ ⟨⟩
          exact absurd rfl (ends '.' rfl).2
  · next nonempty =>
      rw [List.cons_append, readFraction]
      exact readDigits_eq_some_iff.mpr
        ⟨rfl, nonempty, digits, fun character member => (ends character member).1⟩

theorem spells_of_readExponent {text rest : List Char} {exponent : Option (Bool × List Char)}
    (read : readExponent text = some (exponent, rest)) :
    (∃ exponentText, NumberLiteral.SpellsExponent exponent exponentText ∧
        text = exponentText ++ rest) ∧
      ∀ written ∈ exponent, written.2 ≠ [] ∧
        ∀ character ∈ written.2, character.isDigit = true := by
  unfold readExponent at read
  split at read
  · next mark later =>
      split at read
      · next isMark =>
          simp only [Option.map_eq_some_iff, Prod.exists, Prod.mk.injEq] at read
          rcases read with ⟨digits, left, read, rfl, rfl⟩
          rcases readDigits_eq_some_iff.mp read with ⟨isText, nonempty, areDigits, -⟩
          clear read
          refine ⟨?_, by simpa using ⟨nonempty, areDigits⟩⟩
          split at isText
          · subst isText
            exact ⟨_, ⟨mark, ['+'], isMark, Or.inl rfl, rfl⟩, rfl⟩
          · subst isText
            exact ⟨_, ⟨mark, ['-'], isMark, rfl, rfl⟩, rfl⟩
          · subst isText
            exact ⟨_, ⟨mark, [], isMark, Or.inr rfl, rfl⟩, rfl⟩
      · rcases Option.some_inj.mp read with ⟨rfl, rfl⟩
        simp [NumberLiteral.SpellsExponent]
  · rcases Option.some_inj.mp read with ⟨rfl, rfl⟩
    simp [NumberLiteral.SpellsExponent]

theorem readExponent_of_spells {exponent : Option (Bool × List Char)}
    {exponentText rest : List Char}
    (spells : NumberLiteral.SpellsExponent exponent exponentText)
    (nonempty : ∀ written ∈ exponent, written.2 ≠ [])
    (digits : ∀ written ∈ exponent, ∀ character ∈ written.2, character.isDigit = true)
    (ends : EndsNumber rest) :
    readExponent (exponentText ++ rest) = some (exponent, rest) := by
  cases exponent with
  | none =>
      rcases spells with rfl
      cases rest with
      | nil => rfl
      | cons first later =>
          rcases ends first rfl with ⟨-, -, notSmall, notLarge⟩
          simp [readExponent, notSmall, notLarge]
  | some written =>
      rcases written with ⟨isNegative, exponentDigits⟩
      rcases spells with ⟨mark, sign, isMark, isSign, rfl⟩
      have read : readDigits (exponentDigits ++ rest) = some (exponentDigits, rest) :=
        readDigits_eq_some_iff.mpr ⟨rfl, nonempty _ rfl, digits _ rfl,
          fun character member => (ends character member).1⟩
      rw [List.cons_append, List.append_assoc]
      cases isNegative with
      | true =>
          rcases isSign with rfl
          simp [readExponent, isMark, read]
      | false =>
          rcases isSign with rfl | rfl
          · simp [readExponent, isMark, read]
          · have isDigit : ∀ character ∈ (exponentDigits ++ rest).head?,
                character.isDigit = true := by
              cases exponentDigits with
              | nil => exact absurd rfl (nonempty _ rfl)
              | cons first later => simpa using digits _ rfl first (by simp)
            rw [List.nil_append, readExponent]
            · simp [isMark, read]
            · intro _ isText
              cases isDigit '+' (by simp [isText])
            · intro _ isText
              cases isDigit '-' (by simp [isText])

theorem spells_of_readMagnitude {isNegative : Bool} {text rest : List Char}
    {literal : NumberLiteral} (read : readMagnitude isNegative text = some (literal, rest)) :
    literal.isNegative = isNegative ∧ literal.IsProper ∧
      ∃ magnitude, literal.SpellsMagnitude magnitude ∧ text = magnitude ++ rest := by
  simp only [readMagnitude, bind, Option.bind_eq_some_iff, Prod.exists, pure,
    Option.some.injEq, Prod.mk.injEq] at read
  rcases read with ⟨whole, afterWhole, readsWhole, fraction, afterFraction, readsFraction,
    exponent, afterExponent, readsExponent, rfl, rfl⟩
  rcases readWhole_eq_some_iff.mp readsWhole with ⟨readsDigits, leading⟩
  rcases readDigits_eq_some_iff.mp readsDigits with ⟨rfl, wholeNonempty, wholeDigits, -⟩
  rcases spells_of_readFraction readsFraction with ⟨rfl, fractionDigits⟩
  rcases spells_of_readExponent readsExponent with
    ⟨⟨exponentText, spellsExponent, rfl⟩, exponentDigits⟩
  refine ⟨rfl, ?_, _, ⟨exponentText, spellsExponent, rfl⟩, ?_⟩
  · exact ⟨wholeNonempty, wholeDigits, leading, fractionDigits,
      fun written isWritten => (exponentDigits written isWritten).1,
      fun written isWritten => (exponentDigits written isWritten).2⟩
  · simp only [List.append_assoc]

theorem readMagnitude_of_spells {literal : NumberLiteral} {magnitude rest : List Char}
    (proper : literal.IsProper) (spells : literal.SpellsMagnitude magnitude)
    (ends : EndsNumber rest) :
    readMagnitude literal.isNegative (magnitude ++ rest) = some (literal, rest) := by
  rcases spells with ⟨exponentText, spellsExponent, rfl⟩
  have exponentEnds : ∀ character ∈ (exponentText ++ rest).head?,
      character.isDigit = false ∧ character ≠ '.' := by
    cases exponent : literal.exponent with
    | none =>
        rw [exponent] at spellsExponent
        rcases spellsExponent with rfl
        exact fun character member => ⟨(ends character member).1, (ends character member).2.1⟩
    | some written =>
        rw [exponent] at spellsExponent
        rcases spellsExponent with ⟨mark, sign, rfl | rfl, -, rfl⟩ <;> simp
  have fractionEnds : ∀ character ∈
      (NumberLiteral.fractionText literal.fraction ++ (exponentText ++ rest)).head?,
      character.isDigit = false := by
    rw [NumberLiteral.fractionText]
    split
    · exact fun character member => (exponentEnds character member).1
    · simp
  have readsWhole := readWhole_eq_some_iff.mpr ⟨readDigits_eq_some_iff.mpr
    ⟨rfl, proper.whole_ne_nil, proper.whole_isDigit, fractionEnds⟩, proper.whole_leading⟩
  have readsFraction := readFraction_of_spells proper.fraction_isDigit exponentEnds
  have readsExponent := readExponent_of_spells spellsExponent proper.exponent_ne_nil
    proper.exponent_isDigit ends
  simp only [readMagnitude, List.append_assoc, readsWhole, readsFraction, readsExponent,
    Option.bind_eq_bind, Option.bind_some]
  rfl

/-! ## Spellings of strings -/

/-- A character stands for itself or is escaped, by a letter or by its UTF-16 code units in
hexadecimal digits. -/
inductive SpellsCharacter : Char → List Char → Prop
  | plain {character : Char} : character ≠ '"' → character ≠ '\\' →
      ¬ character.toNat < 0x20 → SpellsCharacter character [character]
  | letter {letter character : Char} : shortEscape? letter = some character →
      SpellsCharacter character ['\\', letter]
  | unit {a b c d : Char} {unit : Nat} : Hexadecimal.value? [a, b, c, d] = some unit →
      isLowSurrogate unit = false → isHighSurrogate unit = false →
        SpellsCharacter (Char.ofNat unit) ['\\', 'u', a, b, c, d]
  | pair {a b c d e f g h : Char} {high low : Nat} :
      Hexadecimal.value? [a, b, c, d] = some high → isHighSurrogate high = true →
        Hexadecimal.value? [e, f, g, h] = some low → isLowSurrogate low = true →
          SpellsCharacter
            (Char.ofNat (0x10000 + (high - 0xD800) * 0x400 + (low - 0xDC00)))
            ['\\', 'u', a, b, c, d, '\\', 'u', e, f, g, h]

inductive SpellsCharacters : List Char → List Char → Prop
  | nil : SpellsCharacters [] []
  | cons {character : Char} {characters first later : List Char} :
      SpellsCharacter character first → SpellsCharacters characters later →
        SpellsCharacters (character :: characters) (first ++ later)

/-- What may stand between quotation marks, also if it spells half of a surrogate pair. -/
inductive IsStringBody : List Char → Prop
  | nil : IsStringBody []
  | plain {character : Char} {later : List Char} : character ≠ '"' → character ≠ '\\' →
      ¬ character.toNat < 0x20 → IsStringBody later → IsStringBody (character :: later)
  | letter {letter : Char} {later : List Char} : (shortEscape? letter).isSome →
      IsStringBody later → IsStringBody ('\\' :: letter :: later)
  | unit {a b c d : Char} {later : List Char} : (Hexadecimal.value? [a, b, c, d]).isSome →
      IsStringBody later → IsStringBody ('\\' :: 'u' :: a :: b :: c :: d :: later)

/-! ### Reading strings -/

theorem isLowSurrogate_of_isHighSurrogate {unit : Nat} (isHigh : isHighSurrogate unit = true) :
    isLowSurrogate unit = false := by
  simp only [isHighSurrogate, Bool.and_eq_true, decide_eq_true_eq] at isHigh
  simp only [isLowSurrogate, Bool.and_eq_false_iff, decide_eq_false_iff_not]
  omega

theorem readString_of_spellsCharacter {character : Char} {body : List Char}
    (spells : SpellsCharacter character body) (text reversed : List Char) :
    readString (body ++ text) reversed = readString text (character :: reversed) := by
  cases spells with
  | plain notQuote notBackslash notControl =>
      rw [List.singleton_append, readString]
      · rw [if_neg (not_or.mpr ⟨notControl, notBackslash⟩)]
      · exact notQuote
      · rintro _ _ _ _ _ rfl
        exact absurd rfl notBackslash
      · rintro _ _ rfl
        exact absurd rfl notBackslash
  | @letter letter _ escapes =>
      have notUnit : letter ≠ 'u' := by
        rintro rfl
        cases escapes
      rw [List.cons_append, List.cons_append, List.nil_append, readString]
      · rw [escapes]
      · rintro _ _ _ _ _ rfl
        exact absurd rfl notUnit
  | unit isUnit notLow notHigh =>
      simp only [List.cons_append, List.nil_append]
      rw [readString]
      simp only [isUnit, notLow, notHigh, Bool.false_eq_true, if_false]
  | pair isHighUnit isHigh isLowUnit isLow =>
      have notLow := isLowSurrogate_of_isHighSurrogate isHigh
      simp only [List.cons_append, List.nil_append]
      rw [readString]
      simp only [isHighUnit, notLow, isHigh, isLowUnit, isLow, Bool.false_eq_true, if_false,
        if_true]

theorem readString_of_spellsCharacters {characters body : List Char}
    (spells : SpellsCharacters characters body) (rest reversed : List Char) :
    readString (body ++ '"' :: rest) reversed =
      some (String.ofList (reversed.reverse ++ characters), rest) := by
  induction spells generalizing reversed with
  | nil => simp [readString]
  | cons spellsFirst _ induction =>
      rw [List.append_assoc, readString_of_spellsCharacter spellsFirst, induction]
      simp

/-- What is read inside a string up to its closing quotation mark, after the characters that
are given in reverse. -/
def SpellsUpTo (rest : List Char) (found : String) (text reversed : List Char) : Prop :=
  ∃ characters body, SpellsCharacters characters body ∧ text = body ++ '"' :: rest ∧
    found = String.ofList (reversed.reverse ++ characters)

theorem SpellsUpTo.cons {rest text reversed first : List Char} {found : String}
    {character : Char} (spellsFirst : SpellsCharacter character first)
    (spellsLater : SpellsUpTo rest found text (character :: reversed)) :
    SpellsUpTo rest found (first ++ text) reversed := by
  rcases spellsLater with ⟨characters, body, spells, rfl, rfl⟩
  refine ⟨character :: characters, first ++ body, .cons spellsFirst spells, ?_, ?_⟩
  · rw [List.append_assoc]
  · rw [List.reverse_cons, List.append_assoc, List.singleton_append]

theorem spells_of_readString {text reversed rest : List Char} {found : String}
    (read : readString text reversed = some (found, rest)) :
    SpellsUpTo rest found text reversed := by
  fun_induction readString text reversed with
  | case1 later reversed =>
      rcases Option.some_inj.mp read with ⟨rfl, rfl⟩
      exact ⟨[], [], .nil, rfl, by rw [List.append_nil]⟩
  | case5 _ _ _ _ _ _ isHighUnit _ isHigh _ _ _ _ _ _ isLowUnit isLow induction =>
      exact .cons (.pair isHighUnit isHigh isLowUnit isLow) (induction read)
  | case8 _ _ _ _ _ _ _ isUnit notLow notHigh induction =>
      exact .cons (.unit isUnit (Bool.eq_false_iff.mpr notLow) (Bool.eq_false_iff.mpr notHigh))
        (induction read)
  | case9 _ _ _ _ _ escapes induction => exact .cons (.letter escapes) (induction read)
  | case12 _ _ _ notQuote _ _ notSpecial induction =>
      rcases not_or.mp notSpecial with ⟨notControl, notBackslash⟩
      exact .cons (.plain notQuote notBackslash notControl) (induction read)
  | case2 | case3 | case4 | case6 | case7 | case10 | case11 | case13 => cases read

theorem SpellsCharacters.isStringBody {characters body : List Char}
    (spells : SpellsCharacters characters body) : IsStringBody body := by
  induction spells with
  | nil => exact .nil
  | cons spellsFirst _ induction =>
      cases spellsFirst with
      | plain notQuote notBackslash notControl =>
          exact .plain notQuote notBackslash notControl induction
      | letter escapes => exact .letter (Option.isSome_of_eq_some escapes) induction
      | unit isUnit _ _ => exact .unit (Option.isSome_of_eq_some isUnit) induction
      | pair isHighUnit _ isLowUnit _ =>
          exact .unit (Option.isSome_of_eq_some isHighUnit)
            (.unit (Option.isSome_of_eq_some isLowUnit) induction)

theorem skipString_of_isStringBody {body : List Char} (isBody : IsStringBody body)
    (rest : List Char) : skipString (body ++ '"' :: rest) = some rest := by
  induction isBody with
  | nil => rfl
  | plain notQuote notBackslash notControl _ induction =>
      rw [List.cons_append, skipString]
      · rw [if_neg (not_or.mpr ⟨notControl, notBackslash⟩), induction]
      · exact notQuote
      · rintro _ _ _ _ _ rfl
        exact absurd rfl notBackslash
      · rintro _ _ rfl
        exact absurd rfl notBackslash
  | @letter letter _ escapes _ induction =>
      have notUnit : letter ≠ 'u' := by
        rintro rfl
        cases escapes
      rw [List.cons_append, List.cons_append, skipString]
      · rw [if_pos escapes, induction]
      · rintro _ _ _ _ _ rfl
        exact absurd rfl notUnit
  | unit isUnit _ induction =>
      simp only [List.cons_append]
      rw [skipString, if_pos isUnit, induction]

theorem isStringBody_of_skipString {text rest : List Char}
    (skipped : skipString text = some rest) :
    ∃ body, IsStringBody body ∧ text = body ++ '"' :: rest := by
  fun_induction skipString text with
  | case1 later =>
      rcases Option.some_inj.mp skipped with rfl
      exact ⟨[], .nil, rfl⟩
  | case2 _ _ _ _ _ isUnit induction =>
      rcases induction skipped with ⟨body, isBody, rfl⟩
      exact ⟨_, .unit isUnit isBody, rfl⟩
  | case4 _ _ _ escapes induction =>
      rcases induction skipped with ⟨body, isBody, rfl⟩
      exact ⟨_, .letter escapes isBody, rfl⟩
  | case7 _ _ notQuote _ _ notSpecial induction =>
      rcases not_or.mp notSpecial with ⟨notControl, notBackslash⟩
      rcases induction skipped with ⟨body, isBody, rfl⟩
      exact ⟨_, .plain notQuote notBackslash notControl isBody, rfl⟩
  | case3 | case5 | case6 | case8 => cases skipped

/-- Where a string ends does not depend on what its characters are. -/
theorem IsStringBody.append_inj {left right leftRest rightRest : List Char}
    (isLeft : IsStringBody left) (isRight : IsStringBody right)
    (same : left ++ '"' :: leftRest = right ++ '"' :: rightRest) :
    left = right ∧ leftRest = rightRest := by
  have skipped := skipString_of_isStringBody isLeft leftRest
  rw [same, skipString_of_isStringBody isRight] at skipped
  rcases Option.some_inj.mp skipped with rfl
  exact ⟨List.append_cancel_right same, rfl⟩

/-! ## Spellings of tokens -/

/-- A text spells a token, without blanks around it. -/
def Spells : Token → List Char → Prop
  | .openArray, text => text = ['[']
  | .closeArray, text => text = [']']
  | .openObject, text => text = ['\x7b']
  | .closeObject, text => text = ['\x7d']
  | .comma, text => text = [',']
  | .colon, text => text = [':']
  | .null, text => text = writeNull
  | .bool value, text => text = writeBool value
  | .number literal, text => literal.IsProper ∧ literal.Spells text
  | .string found, text =>
      ∃ body, SpellsCharacters found.toList body ∧ text = '"' :: (body ++ ['"'])
  | .halfPair, text =>
      ∃ body, IsStringBody body ∧ (∀ characters, ¬ SpellsCharacters characters body) ∧
        text = '"' :: (body ++ ['"'])

/-! ### Reading tokens -/

theorem spells_of_stringFront {text rest : List Char} {token : Token}
    (found : stringFront text = .token token rest) :
    ∃ core, token.Spells core ∧ '"' :: text = core ++ rest := by
  unfold stringFront at found
  split at found
  · next read =>
      rcases Front.token.inj found with ⟨rfl, rfl⟩
      rcases spells_of_readString read with ⟨characters, body, spells, rfl, rfl⟩
      refine ⟨_, ⟨body, ?_, rfl⟩, ?_⟩
      · rwa [String.toList_ofList, List.reverse_nil, List.nil_append]
      · simp
  · next notRead =>
      split at found
      · next skipped =>
          rcases Front.token.inj found with ⟨rfl, rfl⟩
          rcases isStringBody_of_skipString skipped with ⟨body, isBody, rfl⟩
          refine ⟨_, ⟨body, isBody, ?_, rfl⟩, by simp⟩
          intro characters spells
          rw [readString_of_spellsCharacters spells] at notRead
          cases notRead
      · cases found

theorem stringFront_of_isStringBody {body : List Char} (isBody : IsStringBody body)
    (noCharacters : ∀ characters, ¬ SpellsCharacters characters body) (rest : List Char) :
    stringFront (body ++ '"' :: rest) = .token .halfPair rest := by
  have notRead : readString (body ++ '"' :: rest) [] = none := by
    cases read : readString (body ++ '"' :: rest) [] with
    | none => rfl
    | some found =>
        rcases spells_of_readString read with ⟨characters, other, spells, sameText, -⟩
        rcases isBody.append_inj spells.isStringBody sameText with ⟨rfl, -⟩
        exact absurd spells (noCharacters characters)
  rw [stringFront, notRead, skipString_of_isStringBody isBody]

theorem spells_of_numberFront {isNegative : Bool} {text rest : List Char} {token : Token}
    (found : numberFront isNegative text = .token token rest) :
    ∃ core, token.Spells core ∧ (if isNegative then ['-'] else []) ++ text = core ++ rest := by
  unfold numberFront at found
  split at found
  · next literal _ read =>
      rcases Front.token.inj found with ⟨rfl, rfl⟩
      rcases spells_of_readMagnitude read with ⟨rfl, proper, magnitude, spells, rfl⟩
      exact ⟨_, ⟨proper, magnitude, spells, rfl⟩, by rw [NumberLiteral.signText, List.append_assoc]⟩
  · cases found

theorem spells_of_startingWith {first : Char} {text rest : List Char} {token : Token}
    (found : startingWith first text = .token token rest) :
    ∃ core, token.Spells core ∧ first :: text = core ++ rest := by
  unfold startingWith at found
  split at found
  case h_10 => exact spells_of_stringFront found
  case h_11 => exact spells_of_numberFront found
  case h_12 => exact spells_of_numberFront found
  all_goals
    rcases Front.token.inj found with ⟨rfl, rfl⟩
    exact ⟨_, rfl, rfl⟩

theorem spells_of_front {text rest : List Char} {token : Token}
    (found : front text = .token token rest) :
    ∃ blanks core, (∀ character ∈ blanks, isBlank character = true) ∧ token.Spells core ∧
      text = blanks ++ (core ++ rest) := by
  unfold front at found
  split at found
  · cases found
  · next first later dropped =>
      rcases spells_of_startingWith found with ⟨core, spells, isText⟩
      refine ⟨text.takeWhile isBlank, core, fun _ member => List.mem_takeWhile_imp member,
        spells, ?_⟩
      rw [← isText, ← dropped, List.takeWhile_append_dropWhile]

theorem startingWith_ne_nothing (first : Char) (text : List Char) :
    startingWith first text ≠ .nothing := by
  unfold startingWith
  split <;> first
    | exact Front.noConfusion
    | (unfold stringFront; split <;> [skip; split] <;> exact Front.noConfusion)
    | (unfold numberFront; split <;> exact Front.noConfusion)

theorem front_eq_nothing_iff {text : List Char} :
    front text = .nothing ↔ ∀ character ∈ text, isBlank character = true := by
  rw [← List.dropWhile_eq_nil_iff, front]
  split
  · next dropped => simp [dropped]
  · next dropped => simp [dropped, startingWith_ne_nothing]

theorem startingWith_of_isDigit {first : Char} (isDigit : first.isDigit = true)
    (later : List Char) : startingWith first later = numberFront false (first :: later) := by
  unfold startingWith
  split <;> first
    | rfl
    | exact absurd isDigit (by decide)

theorem isBlank_of_isDigit {character : Char} (isDigit : character.isDigit = true) :
    isBlank character = false := by
  rw [isBlank]
  by_contra blank
  simp only [Bool.not_eq_false, Bool.or_eq_true, beq_iff_eq] at blank
  rcases blank with ((rfl | rfl) | rfl) | rfl <;> cases isDigit

/-- A token starts with a character that tells what it is. -/
theorem startingWith_of_spells {token : Token} {core rest : List Char}
    (spells : token.Spells core) (ends : ∀ literal, token = .number literal → EndsNumber rest) :
    ∃ first later, core = first :: later ∧ isBlank first = false ∧
      startingWith first (later ++ rest) = .token token rest := by
  cases token with
  | bool value => cases value <;> exact ⟨_, _, spells, rfl, rfl⟩
  | string found =>
      rcases spells with ⟨body, spellsBody, rfl⟩
      refine ⟨'"', body ++ ['"'], rfl, rfl, ?_⟩
      change stringFront _ = _
      rw [List.append_assoc, List.singleton_append, stringFront,
        readString_of_spellsCharacters spellsBody, List.reverse_nil, List.nil_append,
        String.ofList_toList]
  | halfPair =>
      rcases spells with ⟨body, isBody, noCharacters, rfl⟩
      refine ⟨'"', body ++ ['"'], rfl, rfl, ?_⟩
      rw [List.append_assoc, List.singleton_append]
      exact stringFront_of_isStringBody isBody noCharacters rest
  | number literal =>
      rcases spells with ⟨proper, magnitude, spells, rfl⟩
      have read := readMagnitude_of_spells proper spells (ends literal rfl)
      rw [NumberLiteral.signText]
      split
      · next isNegative =>
          refine ⟨'-', magnitude, rfl, rfl, ?_⟩
          change numberFront true _ = _
          rw [isNegative] at read
          rw [numberFront, read]
      · next notNegative =>
          rw [Bool.eq_false_iff.mpr notNegative] at read
          rcases spells with ⟨exponentText, -, rfl⟩
          cases isWhole : literal.whole with
          | nil => exact absurd isWhole proper.whole_ne_nil
          | cons first later =>
              have isDigit := proper.whole_isDigit first (by simp [isWhole])
              rw [isWhole] at read
              refine ⟨first, later ++ (NumberLiteral.fractionText literal.fraction ++ exponentText),
                rfl, isBlank_of_isDigit isDigit, ?_⟩
              rw [startingWith_of_isDigit isDigit, ← List.cons_append, ← List.cons_append,
                numberFront, read]
  | openArray | closeArray | openObject | closeObject | comma | colon | null =>
      exact ⟨_, _, spells, rfl, rfl⟩

theorem front_of_spells {token : Token} {blanks core rest : List Char}
    (areBlank : ∀ character ∈ blanks, isBlank character = true) (spells : token.Spells core)
    (ends : ∀ literal, token = .number literal → EndsNumber rest) :
    front (blanks ++ (core ++ rest)) = .token token rest := by
  rcases startingWith_of_spells spells ends with ⟨first, later, rfl, notBlank, found⟩
  rw [front, List.dropWhile_append_of_pos areBlank, List.cons_append,
    List.dropWhile_cons_of_neg (by simp [notBlank])]
  exact found

end Token

end AlgorithmPolicy.Json

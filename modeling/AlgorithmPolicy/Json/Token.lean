import AlgorithmPolicy.Hexadecimal
import AlgorithmPolicy.Json.Draft

namespace AlgorithmPolicy.Json

/-! The tokens of a JSON text. -/

inductive Token
  | openArray
  | closeArray
  | openObject
  | closeObject
  | comma
  | colon
  | null
  | bool (value : Bool)
  | number (literal : NumberLiteral)
  | string (text : String)
  | halfPair
  deriving DecidableEq

namespace Token

def isBlank (character : Char) : Bool :=
  character == ' ' || character == '\n' || character == '\t' || character == '\r'

/-! ## Strings -/

/-- The character that a backslash and a letter stand for. -/
def shortEscape? : Char → Option Char
  | '"' => some '"'
  | '\\' => some '\\'
  | '/' => some '/'
  | 'b' => some '\x08'
  | 'f' => some '\x0c'
  | 'n' => some '\n'
  | 'r' => some '\r'
  | 't' => some '\t'
  | _ => none

def isHighSurrogate (unit : Nat) : Bool :=
  0xD800 ≤ unit && unit < 0xDC00

def isLowSurrogate (unit : Nat) : Bool :=
  0xDC00 ≤ unit && unit < 0xE000

/-- Reads on inside a string up to its closing quotation mark. The text read so far
is given in reverse. -/
def readString : List Char → List Char → Option (String × List Char)
  | '"' :: rest, reversed => some (String.ofList reversed.reverse, rest)
  | '\\' :: 'u' :: a :: b :: c :: d :: rest, reversed =>
      match Hexadecimal.value? [a, b, c, d] with
      | none => none
      | some unit =>
          if isLowSurrogate unit then none
          else if isHighSurrogate unit then
            match rest with
            | '\\' :: 'u' :: a :: b :: c :: d :: rest =>
                match Hexadecimal.value? [a, b, c, d] with
                | none => none
                | some low =>
                    if isLowSurrogate low then
                      readString rest (Char.ofNat
                        (0x10000 + (unit - 0xD800) * 0x400 + (low - 0xDC00)) :: reversed)
                    else none
            | _ => none
          else readString rest (Char.ofNat unit :: reversed)
  | '\\' :: letter :: rest, reversed =>
      match shortEscape? letter with
      | some character => readString rest (character :: reversed)
      | none => none
  | character :: rest, reversed =>
      if character.toNat < 0x20 ∨ character = '\\' then none
      else readString rest (character :: reversed)
  | [], _ => none

/-- Passes over the inside of a string without regard to surrogate pairs. -/
def skipString : List Char → Option (List Char)
  | '"' :: rest => some rest
  | '\\' :: 'u' :: a :: b :: c :: d :: rest =>
      if (Hexadecimal.value? [a, b, c, d]).isSome then skipString rest else none
  | '\\' :: letter :: rest =>
      if (shortEscape? letter).isSome then skipString rest else none
  | character :: rest =>
      if character.toNat < 0x20 ∨ character = '\\' then none else skipString rest
  | [] => none

/-! ## Numbers -/

/-- Digits, of which there must be one at least. -/
def readDigits (text : List Char) : Option (List Char × List Char) :=
  let digits := text.takeWhile Char.isDigit
  if digits.isEmpty then none else some (digits, text.dropWhile Char.isDigit)

def readFraction : List Char → Option (List Char × List Char)
  | '.' :: rest => readDigits rest
  | text => some ([], text)

def readExponent : List Char → Option (Option (Bool × List Char) × List Char)
  | mark :: rest =>
      if mark = 'e' ∨ mark = 'E' then
        let (isNegative, rest) :=
          match rest with
          | '+' :: rest => (false, rest)
          | '-' :: rest => (true, rest)
          | rest => (false, rest)
        (readDigits rest).map fun (digits, rest) => (some (isNegative, digits), rest)
      else some (none, mark :: rest)
  | [] => some (none, [])

/-- Digits before the point; none may follow a leading zero. -/
def readWhole (text : List Char) : Option (List Char × List Char) :=
  match readDigits text with
  | some ('0' :: _ :: _, _) => none
  | other => other

def readMagnitude (isNegative : Bool) (text : List Char) :
    Option (NumberLiteral × List Char) := do
  let (whole, text) ← readWhole text
  let (fraction, text) ← readFraction text
  let (exponent, text) ← readExponent text
  return (⟨isNegative, whole, fraction, exponent⟩, text)

/-! ## One token -/

/-- What stands at the front of a text. -/
inductive Front
  | token (first : Token) (rest : List Char)
  | fault
  | nothing

/-- The string whose opening quotation mark stands before the text. -/
def stringFront (text : List Char) : Front :=
  match readString text [] with
  | some (text, rest) => .token (.string text) rest
  | none =>
      match skipString text with
      | some rest => .token .halfPair rest
      | none => .fault

def numberFront (isNegative : Bool) (text : List Char) : Front :=
  match readMagnitude isNegative text with
  | some (literal, rest) => .token (.number literal) rest
  | none => .fault

/-- The token that starts with a given character. -/
def startingWith : Char → List Char → Front
  | '[', rest => .token .openArray rest
  | ']', rest => .token .closeArray rest
  | '{', rest => .token .openObject rest
  | '}', rest => .token .closeObject rest
  | ',', rest => .token .comma rest
  | ':', rest => .token .colon rest
  | 'n', 'u' :: 'l' :: 'l' :: rest => .token .null rest
  | 't', 'r' :: 'u' :: 'e' :: rest => .token (.bool true) rest
  | 'f', 'a' :: 'l' :: 's' :: 'e' :: rest => .token (.bool false) rest
  | '"', rest => stringFront rest
  | '-', rest => numberFront true rest
  | first, rest => numberFront false (first :: rest)

def front (text : List Char) : Front :=
  match text.dropWhile isBlank with
  | [] => .nothing
  | first :: rest => startingWith first rest

/-! ## Progress

A token takes at least one character from its text. -/

theorem readString_length {text : List Char} : ∀ {reversed found rest},
    readString text reversed = some (found, rest) → rest.length < text.length := by
  intro reversed
  fun_induction readString text reversed <;> intro found rest equal
  all_goals first
    | (simp only [Option.some.injEq, Prod.mk.injEq] at equal
       obtain ⟨-, rfl⟩ := equal
       simp)
    | (rename_i induction
       have shorter := induction equal
       simp only [List.length_cons]
       omega)
    | simp at equal

theorem skipString_length {text : List Char} : ∀ {rest},
    skipString text = some rest → rest.length < text.length := by
  fun_induction skipString text <;> intro rest equal
  all_goals first
    | (simp only [Option.some.injEq] at equal
       subst equal
       simp)
    | (rename_i induction
       have shorter := induction equal
       simp only [List.length_cons]
       omega)
    | simp at equal

theorem readDigits_length {text digits rest : List Char}
    (equal : readDigits text = some (digits, rest)) : rest.length < text.length := by
  simp only [readDigits] at equal
  split at equal
  · simp at equal
  · rename_i nonempty
    simp only [Option.some.injEq, Prod.mk.injEq] at equal
    obtain ⟨rfl, rfl⟩ := equal
    have split := congrArg List.length
      (List.takeWhile_append_dropWhile (p := Char.isDigit) (l := text))
    have positive : 0 < (text.takeWhile Char.isDigit).length := by
      simpa [List.length_pos_iff] using nonempty
    simp only [List.length_append] at split
    omega

theorem readFraction_length {text digits rest : List Char}
    (equal : readFraction text = some (digits, rest)) : rest.length ≤ text.length := by
  unfold readFraction at equal
  split at equal
  · have shorter := readDigits_length equal
    simp only [List.length_cons]
    omega
  · simp_all

theorem readExponent_length {text rest : List Char} {exponent}
    (equal : readExponent text = some (exponent, rest)) : rest.length ≤ text.length := by
  unfold readExponent at equal
  split at equal
  · rename_i mark tail
    split at equal
    · simp only [Option.map_eq_some_iff, Prod.exists, Prod.mk.injEq] at equal
      obtain ⟨digits, left, read, -, rfl⟩ := equal
      have shorter := readDigits_length read
      revert shorter
      split <;> simp only [List.length_cons] <;> omega
    · simp_all
  · simp_all

theorem readMagnitude_length {isNegative : Bool} {text rest : List Char} {literal}
    (equal : readMagnitude isNegative text = some (literal, rest)) :
    rest.length < text.length := by
  simp only [readMagnitude, bind, Option.bind_eq_some_iff, Prod.exists, pure,
    Option.some.injEq, Prod.mk.injEq] at equal
  obtain ⟨whole, afterWhole, readsWhole, fraction, afterFraction, readsFraction,
    exponent, afterExponent, readsExponent, -, rfl⟩ := equal
  have wholeShorter : afterWhole.length < text.length := by
    unfold readWhole at readsWhole
    split at readsWhole
    · simp at readsWhole
    · exact readDigits_length readsWhole
  have fractionShorter := readFraction_length readsFraction
  have exponentShorter := readExponent_length readsExponent
  omega

theorem stringFront_length {text rest : List Char} {token}
    (equal : stringFront text = .token token rest) : rest.length < text.length := by
  unfold stringFront at equal
  split at equal
  · rename_i read
    simp only [Front.token.injEq] at equal
    obtain ⟨-, rfl⟩ := equal
    exact readString_length read
  · split at equal
    · rename_i skipped
      simp only [Front.token.injEq] at equal
      obtain ⟨-, rfl⟩ := equal
      exact skipString_length skipped
    · simp at equal

theorem numberFront_length {isNegative : Bool} {text rest : List Char} {token}
    (equal : numberFront isNegative text = .token token rest) :
    rest.length < text.length := by
  unfold numberFront at equal
  split at equal
  · rename_i read
    simp only [Front.token.injEq] at equal
    obtain ⟨-, rfl⟩ := equal
    exact readMagnitude_length read
  · simp at equal

theorem startingWith_length {first : Char} {text rest : List Char} {token}
    (equal : startingWith first text = .token token rest) : rest.length ≤ text.length := by
  unfold startingWith at equal
  split at equal
  case h_10 => exact Nat.le_of_lt (stringFront_length equal)
  case h_11 => exact Nat.le_of_lt (numberFront_length equal)
  case h_12 =>
    have shorter := numberFront_length equal
    simp only [List.length_cons] at shorter
    omega
  all_goals
    simp only [Front.token.injEq] at equal
    obtain ⟨-, rfl⟩ := equal
    grind

theorem front_length {text rest : List Char} {token}
    (equal : front text = .token token rest) : rest.length < text.length := by
  unfold front at equal
  have shorter : (text.dropWhile isBlank).length ≤ text.length :=
    (List.dropWhile_sublist isBlank).length_le
  split at equal
  · simp at equal
  · rename_i first tail dropped
    have tailShorter := startingWith_length equal
    rw [dropped] at shorter
    simp only [List.length_cons] at shorter
    omega

end Token

end AlgorithmPolicy.Json

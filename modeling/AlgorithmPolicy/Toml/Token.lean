import AlgorithmPolicy.Hexadecimal

namespace AlgorithmPolicy.Toml

/-! The tokens of a TOML text. Comments are no tokens, but the ends of lines are, and for
each token it is known which blanks stand before it. -/

inductive Token
  | newline
  | dot
  | equals
  | comma
  | openBracket
  | closeBracket
  | openBrace
  | closeBrace
  /-- Characters that start with no quotation mark: a key, or a part of a scalar. -/
  | bare (text : List Char)
  | string (text : String) (isMultiline : Bool)
  deriving DecidableEq

namespace Token

/-! ## Characters -/

def isBlank (character : Char) : Bool :=
  character == ' ' || character == '\t'

/-- Whether a character may stand in a comment, or in a string on one line. -/
def isPrintable (character : Char) : Bool :=
  character == '\t' || (0x20 ≤ character.toNat && character.toNat ≠ 0x7F)

def marks : List Char :=
  ['.', '=', ',', '[', ']', '\x7b', '\x7d', ' ', '\t', '#', '\r', '\n']

def isBare (character : Char) : Bool :=
  !marks.contains character

/-! ## Strings

A string stands between quotation marks or between apostrophes, and one of several lines
between three of either. Its text so far is given in reverse. -/

def codePoint? (digits : List Char) : Option Char :=
  match Hexadecimal.value? digits with
  | some code => if code.isValidChar then some (Char.ofNat code) else none
  | none => none

def shortEscape? : Char → Option Char
  | '"' => some '"'
  | '\\' => some '\\'
  | 'b' => some '\x08'
  | 'e' => some '\x1b'
  | 'f' => some '\x0c'
  | 'n' => some '\n'
  | 'r' => some '\r'
  | 't' => some '\t'
  | _ => none

def readBasic : List Char → List Char → Option (List Char × List Char)
  | '"' :: rest, reversed => some (reversed, rest)
  | '\\' :: 'x' :: a :: b :: rest, reversed =>
      match codePoint? [a, b] with
      | some character => readBasic rest (character :: reversed)
      | none => none
  | '\\' :: 'u' :: a :: b :: c :: d :: rest, reversed =>
      match codePoint? [a, b, c, d] with
      | some character => readBasic rest (character :: reversed)
      | none => none
  | '\\' :: 'U' :: a :: b :: c :: d :: e :: f :: g :: h :: rest, reversed =>
      match codePoint? [a, b, c, d, e, f, g, h] with
      | some character => readBasic rest (character :: reversed)
      | none => none
  | '\\' :: letter :: rest, reversed =>
      match shortEscape? letter with
      | some character => readBasic rest (character :: reversed)
      | none => none
  | character :: rest, reversed =>
      if isPrintable character ∧ character ≠ '\\' then readBasic rest (character :: reversed)
      else none
  | [], _ => none

/-- Whether a line ends after nothing but blanks. -/
def isLineEnd (text : List Char) : Bool :=
  match text.dropWhile isBlank with
  | '\n' :: _ => true
  | '\r' :: '\n' :: _ => true
  | _ => false

/-- After a backslash at the end of a line, blanks and ends of lines are dropped. -/
def readMultilineBasic : (isDropping : Bool) → List Char → List Char →
    Option (List Char × List Char)
  | true, ' ' :: rest, reversed => readMultilineBasic true rest reversed
  | true, '\t' :: rest, reversed => readMultilineBasic true rest reversed
  | true, '\n' :: rest, reversed => readMultilineBasic true rest reversed
  | true, '\r' :: '\n' :: rest, reversed => readMultilineBasic true rest reversed
  | _, '"' :: '"' :: '"' :: '"' :: '"' :: rest, reversed => some ('"' :: '"' :: reversed, rest)
  | _, '"' :: '"' :: '"' :: '"' :: rest, reversed => some ('"' :: reversed, rest)
  | _, '"' :: '"' :: '"' :: rest, reversed => some (reversed, rest)
  | _, '\\' :: 'x' :: a :: b :: rest, reversed =>
      match codePoint? [a, b] with
      | some character => readMultilineBasic false rest (character :: reversed)
      | none => none
  | _, '\\' :: 'u' :: a :: b :: c :: d :: rest, reversed =>
      match codePoint? [a, b, c, d] with
      | some character => readMultilineBasic false rest (character :: reversed)
      | none => none
  | _, '\\' :: 'U' :: a :: b :: c :: d :: e :: f :: g :: h :: rest, reversed =>
      match codePoint? [a, b, c, d, e, f, g, h] with
      | some character => readMultilineBasic false rest (character :: reversed)
      | none => none
  | _, '\\' :: letter :: rest, reversed =>
      match shortEscape? letter with
      | some character => readMultilineBasic false rest (character :: reversed)
      | none =>
          if isLineEnd (letter :: rest) then readMultilineBasic true rest reversed else none
  | _, '\r' :: '\n' :: rest, reversed =>
      readMultilineBasic false rest ('\n' :: '\r' :: reversed)
  | _, '\n' :: rest, reversed => readMultilineBasic false rest ('\n' :: reversed)
  | _, character :: rest, reversed =>
      if isPrintable character ∧ character ≠ '\\' then
        readMultilineBasic false rest (character :: reversed)
      else none
  | _, [], _ => none

def readLiteral : List Char → List Char → Option (List Char × List Char)
  | '\'' :: rest, reversed => some (reversed, rest)
  | character :: rest, reversed =>
      if isPrintable character then readLiteral rest (character :: reversed) else none
  | [], _ => none

def readMultilineLiteral : List Char → List Char → Option (List Char × List Char)
  | '\'' :: '\'' :: '\'' :: '\'' :: '\'' :: rest, reversed =>
      some ('\'' :: '\'' :: reversed, rest)
  | '\'' :: '\'' :: '\'' :: '\'' :: rest, reversed => some ('\'' :: reversed, rest)
  | '\'' :: '\'' :: '\'' :: rest, reversed => some (reversed, rest)
  | '\r' :: '\n' :: rest, reversed => readMultilineLiteral rest ('\n' :: '\r' :: reversed)
  | '\n' :: rest, reversed => readMultilineLiteral rest ('\n' :: reversed)
  | character :: rest, reversed =>
      if isPrintable character then readMultilineLiteral rest (character :: reversed) else none
  | [], _ => none

/-- A line that ends right where a multiline string starts is not part of it. -/
def dropFirstLineEnd : List Char → List Char
  | '\n' :: rest => rest
  | '\r' :: '\n' :: rest => rest
  | text => text

/-! ## One token -/

inductive Front
  | token (first : Token) (rest : List Char)
  | fault
  | nothing

def stringFront (isMultiline : Bool) : Option (List Char × List Char) → Front
  | some (reversed, rest) =>
      .token (.string (String.ofList reversed.reverse) isMultiline) rest
  | none => .fault

/-- The token at the front of a text that starts with no blank. -/
def startingFront : List Char → Front
  | '\n' :: rest => .token .newline rest
  | '\r' :: '\n' :: rest => .token .newline rest
  | '.' :: rest => .token .dot rest
  | '=' :: rest => .token .equals rest
  | ',' :: rest => .token .comma rest
  | '[' :: rest => .token .openBracket rest
  | ']' :: rest => .token .closeBracket rest
  | '\x7b' :: rest => .token .openBrace rest
  | '\x7d' :: rest => .token .closeBrace rest
  | '"' :: '"' :: '"' :: rest =>
      stringFront true (readMultilineBasic false (dropFirstLineEnd rest) [])
  | '"' :: rest => stringFront false (readBasic rest [])
  | '\'' :: '\'' :: '\'' :: rest =>
      stringFront true (readMultilineLiteral (dropFirstLineEnd rest) [])
  | '\'' :: rest => stringFront false (readLiteral rest [])
  | first :: rest =>
      if isBare first then
        .token (.bare (first :: rest.takeWhile isBare)) (rest.dropWhile isBare)
      else .fault
  | [] => .nothing

def lineEndFront : List Char → Front
  | '\n' :: rest => .token .newline rest
  | '\r' :: '\n' :: rest => .token .newline rest
  | [] => .nothing
  | _ => .fault

/-- The token that follows the blanks in front of a text, and the comment if there is one. -/
def front (text : List Char) : Front :=
  match text.dropWhile isBlank with
  | '#' :: rest => lineEndFront (rest.dropWhile isPrintable)
  | text => startingFront text

/-! ## Progress

A token takes at least one character from its text. -/

theorem readBasic_length {text : List Char} : ∀ {reversed found rest},
    readBasic text reversed = some (found, rest) → rest.length < text.length := by
  intro reversed
  fun_induction readBasic text reversed <;> intro found rest equal
  all_goals first
    | (simp only [Option.some.injEq, Prod.mk.injEq] at equal
       obtain ⟨-, rfl⟩ := equal
       simp)
    | (rename_i induction
       have shorter := induction equal
       simp only [List.length_cons]
       omega)
    | simp at equal

theorem readMultilineBasic_length {isDropping : Bool} {text : List Char} :
    ∀ {reversed found rest},
      readMultilineBasic isDropping text reversed = some (found, rest) →
        rest.length < text.length := by
  intro reversed
  fun_induction readMultilineBasic isDropping text reversed <;> intro found rest equal
  all_goals first
    | (simp only [Option.some.injEq, Prod.mk.injEq] at equal
       obtain ⟨-, rfl⟩ := equal
       simp only [List.length_cons]
       omega)
    | (rename_i induction
       have shorter := induction equal
       simp only [List.length_cons]
       omega)
    | simp at equal

theorem readLiteral_length {text : List Char} : ∀ {reversed found rest},
    readLiteral text reversed = some (found, rest) → rest.length < text.length := by
  intro reversed
  fun_induction readLiteral text reversed <;> intro found rest equal
  all_goals first
    | (simp only [Option.some.injEq, Prod.mk.injEq] at equal
       obtain ⟨-, rfl⟩ := equal
       simp)
    | (rename_i induction
       have shorter := induction equal
       simp only [List.length_cons]
       omega)
    | simp at equal

theorem readMultilineLiteral_length {text : List Char} : ∀ {reversed found rest},
    readMultilineLiteral text reversed = some (found, rest) →
      rest.length < text.length := by
  intro reversed
  fun_induction readMultilineLiteral text reversed <;> intro found rest equal
  all_goals first
    | (simp only [Option.some.injEq, Prod.mk.injEq] at equal
       obtain ⟨-, rfl⟩ := equal
       simp only [List.length_cons]
       omega)
    | (rename_i induction
       have shorter := induction equal
       simp only [List.length_cons]
       omega)
    | simp at equal

theorem dropFirstLineEnd_length (text : List Char) :
    (dropFirstLineEnd text).length ≤ text.length := by
  unfold dropFirstLineEnd
  split <;> grind

theorem stringFront_eq {isMultiline : Bool} {outcome token rest}
    (equal : stringFront isMultiline outcome = .token token rest) :
    ∃ reversed, outcome = some (reversed, rest) := by
  unfold stringFront at equal
  split at equal
  · rename_i reversed found
    simp only [Front.token.injEq] at equal
    exact ⟨reversed, by rw [equal.2]⟩
  · simp at equal

theorem startingFront_length {text rest : List Char} {token}
    (equal : startingFront text = .token token rest) : rest.length < text.length := by
  unfold startingFront at equal
  split at equal
  case h_10 inside =>
    obtain ⟨reversed, read⟩ := stringFront_eq equal
    have shorter := readMultilineBasic_length read
    have dropped := dropFirstLineEnd_length inside
    simp only [List.length_cons]
    omega
  case h_11 =>
    obtain ⟨reversed, read⟩ := stringFront_eq equal
    have shorter := readBasic_length read
    simp only [List.length_cons]
    omega
  case h_12 inside =>
    obtain ⟨reversed, read⟩ := stringFront_eq equal
    have shorter := readMultilineLiteral_length read
    have dropped := dropFirstLineEnd_length inside
    simp only [List.length_cons]
    omega
  case h_13 =>
    obtain ⟨reversed, read⟩ := stringFront_eq equal
    have shorter := readLiteral_length read
    simp only [List.length_cons]
    omega
  case h_14 first inside _ _ _ _ _ _ _ _ _ _ _ _ _ =>
    split at equal
    · simp only [Front.token.injEq] at equal
      have shorter : (inside.dropWhile isBare).length ≤ inside.length :=
        (List.dropWhile_sublist isBare).length_le
      rw [← equal.2]
      simp only [List.length_cons]
      omega
    · simp at equal
  all_goals
    simp only [Front.token.injEq, reduceCtorEq] at equal
  all_goals
    obtain ⟨-, rfl⟩ := equal
    simp only [List.length_cons]
    omega

theorem lineEndFront_length {text rest : List Char} {token}
    (equal : lineEndFront text = .token token rest) : rest.length < text.length := by
  unfold lineEndFront at equal
  split at equal
  all_goals simp only [Front.token.injEq, reduceCtorEq] at equal
  all_goals
    obtain ⟨-, rfl⟩ := equal
    simp only [List.length_cons]
    omega

theorem front_length {text rest : List Char} {token}
    (equal : front text = .token token rest) : rest.length < text.length := by
  have unblanked : (text.dropWhile isBlank).length ≤ text.length :=
    (List.dropWhile_sublist isBlank).length_le
  unfold front at equal
  split at equal
  · rename_i inside found
    have shorter := lineEndFront_length equal
    have uncommented : (inside.dropWhile isPrintable).length ≤ inside.length :=
      (List.dropWhile_sublist isPrintable).length_le
    rw [found, List.length_cons] at unblanked
    omega
  · have shorter := startingFront_length equal
    omega

end Token

end AlgorithmPolicy.Toml

import AlgorithmPolicy.Hexadecimal
import AlgorithmPolicy.Time.Rfc3339

namespace AlgorithmPolicy.Toml.Scalar

/-! Numbers, booleans and dates of TOML. A configuration has no use for their values, so
only their outlines are checked: how digits, signs, points and underscores stand in a
number, and whether a date exists. -/

/-! ## Characters -/

def isHexadecimalDigit (character : Char) : Bool :=
  (Hexadecimal.digitValue? character).isSome

def isOctalDigit (character : Char) : Bool :=
  '0' ≤ character && character ≤ '7'

def isBinaryDigit (character : Char) : Bool :=
  character == '0' || character == '1'

def isSign (character : Char) : Bool :=
  character == '+' || character == '-'

def isExponentMark (character : Char) : Bool :=
  character == 'e' || character == 'E'

def isUnderscore (character : Char) : Bool :=
  character == '_'

def withoutSign : List Char → List Char
  | first :: rest => if isSign first then rest else first :: rest
  | [] => []

/-- Whether each underscore stands between digits. The text starts behind something that
an underscore may follow or may not. -/
def underscoresFit (isDigit : Char → Bool) : (mayFollow : Bool) → List Char → Bool
  | _, [] => true
  | mayFollow, character :: rest =>
      if isUnderscore character then
        mayFollow && rest.head?.any isDigit && underscoresFit isDigit false rest
      else underscoresFit isDigit (isDigit character) rest

/-! ## Integers -/

/-- Digits behind the mark of a base, if there are any. -/
def isInBase (isDigit : Char → Bool) (digits : List Char) : Bool :=
  digits.all (fun character => isDigit character || isUnderscore character) &&
    underscoresFit isDigit false digits

def hasLeadingZero : List Char → Bool
  | '0' :: _ :: _ => true
  | _ => false

/-! ## Floating-point numbers -/

def isDigitOrUnderscore (character : Char) : Bool :=
  character.isDigit || isUnderscore character

def countDigits (text : List Char) : Nat :=
  text.countP Char.isDigit

def isMantissa (text : List Char) : Bool :=
  countDigits text = 1 || (1 < countDigits text && text.head? != some '0')

/-- What follows the digits in front of a text, if there is a digit. -/
def afterDigits? (text : List Char) : Option (List Char) :=
  if countDigits (text.takeWhile isDigitOrUnderscore) = 0 then none
  else some (text.dropWhile isDigitOrUnderscore)

def afterFraction? : List Char → Option (List Char)
  | '.' :: rest => afterDigits? rest
  | text => some text

def afterExponent? : List Char → Option (List Char)
  | mark :: rest =>
      if isExponentMark mark then afterDigits? (withoutSign rest) else some (mark :: rest)
  | [] => some []

def isFloating (text : List Char) : Bool :=
  isMantissa (text.takeWhile isDigitOrUnderscore) &&
    (afterFraction? (text.dropWhile isDigitOrUnderscore)).bind afterExponent? == some []

def isSpecial (text : List Char) : Bool :=
  text == ['i', 'n', 'f'] || text == ['n', 'a', 'n']

/-! ## Dates and times -/

def readDate (text : List Char) : Option (List Char) := do
  let (year, text) ← Rfc3339.readNumber 4 text
  let text ← Rfc3339.readChar '-' text
  let (month, text) ← Rfc3339.readNumber 2 text
  let text ← Rfc3339.readChar '-' text
  let (day, text) ← Rfc3339.readNumber 2 text
  let _ ← Date.of? year month day
  return text

/-- The seconds of a time, which may be left out. -/
def readSeconds : List Char → Option (List Char)
  | ':' :: text => do
      let (second, text) ← Rfc3339.readNumber 2 text
      guard (second ≤ 60)
      let (_, text) ← Rfc3339.readFraction text
      return text
  | text => some text

def readTime (text : List Char) : Option (List Char) := do
  let (hour, text) ← Rfc3339.readNumber 2 text
  let text ← Rfc3339.readChar ':' text
  let (minute, text) ← Rfc3339.readNumber 2 text
  guard (hour ≤ 23 ∧ minute ≤ 59)
  readSeconds text

def isTime (text : List Char) : Bool :=
  readTime text == some []

def isTimeWithOffset (text : List Char) : Bool :=
  match readTime text with
  | some [] => true
  | some rest =>
      match Rfc3339.readOffset rest with
      | some (_, []) => true
      | _ => false
  | none => false

def isDate (text : List Char) : Bool :=
  readDate text == some []

def isDateTime (text : List Char) : Bool :=
  match readDate text with
  | some (separator :: rest) =>
      ['T', 't', ' '].contains separator && isTimeWithOffset rest
  | _ => false

def isMoment (text : List Char) : Bool :=
  isDate text || isTime text || isDateTime text

/-! ## Scalars -/

def isBoolean (text : List Char) : Bool :=
  text == ['t', 'r', 'u', 'e'] || text == ['f', 'a', 'l', 's', 'e']

/-- What follows the first digits decides what a text is taken for. An integer without
the mark of a base is looked at no further than to the first underscore, and to the
neighbours of the others. -/
def isNumberOrMoment (text : List Char) : Bool :=
  let unsigned := withoutSign text
  let isSigned := unsigned.length < text.length
  let rest := unsigned.dropWhile Char.isDigit
  match rest with
  | [] => !unsigned.isEmpty && !hasLeadingZero unsigned
  | '-' :: _ => isMoment text
  | ':' :: _ => isMoment text
  | first :: _ =>
      if rest.contains ' ' then false
      else if rest.any fun character => character == '.' || isExponentMark character then
        isFloating unsigned && underscoresFit Char.isDigit isSigned unsigned
      else
        isUnderscore first && !hasLeadingZero unsigned &&
          underscoresFit isHexadecimalDigit isSigned unsigned

def isScalar (text : List Char) : Bool :=
  match text with
  | '0' :: 'x' :: digits => isInBase isHexadecimalDigit digits
  | '0' :: 'o' :: digits => isInBase isOctalDigit digits
  | '0' :: 'b' :: digits => isInBase isBinaryDigit digits
  | _ => isBoolean text || isSpecial (withoutSign text) || isNumberOrMoment text

end AlgorithmPolicy.Toml.Scalar

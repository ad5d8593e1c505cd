import AlgorithmPolicy.Decimal.Nearest
import AlgorithmPolicy.Json.Draft

namespace AlgorithmPolicy.Json.NumberLiteral

/-! What a number in a JSON text denotes. A literal without fraction and exponent is an
integer if it fits into 64 bits, without a sign or with one; minus zero is not an
integer. Any other literal is a floating-point number, which no reader of this
library accepts, so all that matters of it is how a message shows it. -/

def integer? (literal : NumberLiteral) : Option Int :=
  if literal.fraction ≠ [] ∨ literal.exponent ≠ none ∨ 20 < literal.whole.length then none
  else
    let magnitude := Decimal.value literal.whole
    if literal.isNegative then
      if 0 < magnitude ∧ magnitude ≤ 9223372036854775808 then some (-magnitude) else none
    else if magnitude ≤ 18446744073709551615 then some magnitude
    else none

/-! ## Floating-point numbers

The number is rounded to 53 bits. Its digits are those from the first that is not zero, and
its point is placed by counting from that one. A number that is too large cannot be shown. -/

def significantDigits (literal : NumberLiteral) : List Char :=
  (literal.whole ++ literal.fraction).dropWhile (· == '0')

def writtenExponent (literal : NumberLiteral) : Int :=
  match literal.exponent with
  | none => 0
  | some (isNegative, digits) =>
      let digits := digits.dropWhile (· == '0')
      -- An exponent of more than nine digits is as good as infinite.
      let magnitude := if 9 < digits.length then 1000000000 else Decimal.value digits
      if isNegative then -(magnitude : Int) else magnitude

def pointPlace (literal : NumberLiteral) : Int :=
  literal.significantDigits.length - literal.fraction.length + literal.writtenExponent

/-- The digits that decide how a number is rounded. Of more than eight hundred digits, the
later ones matter only in that they are there. -/
def decisiveDigits (digits : List Char) : List Char :=
  if (digits.drop 800).all (· == '0') then digits.take 800 else digits.take 800 ++ ['1']

def rounded? (literal : NumberLiteral) : Option Decimal.Binary :=
  let place := literal.pointPlace
  if literal.significantDigits.isEmpty ∨ place < -330 then Decimal.Binary.nearest? 0 1
  else if 310 < place then none
  else
    let digits := decisiveDigits literal.significantDigits
    let exponent := place - digits.length
    Decimal.Binary.nearest? (Decimal.value digits * Decimal.powerOfTen exponent.toNat)
      (Decimal.powerOfTen (-exponent).toNat)

/-- Positional from five places behind the point to sixteen in front of it, and always
with a point; else with one digit in front of the point and a signed exponent. -/
def showScientific (decimal : Decimal.Scientific) : String :=
  let digits := Decimal.digits decimal.digits
  let count : Int := digits.length
  let point := count + decimal.exponent
  if point < -4 ∨ 16 < point then
    let leading := digits.take 1
    let behind := if digits.length = 1 then [] else '.' :: digits.drop 1
    let sign := if point - 1 < 0 then '-' else '+'
    String.ofList (leading ++ behind ++ ['e', sign] ++ Decimal.digits (point - 1).natAbs)
  else if point ≤ 0 then
    String.ofList (['0', '.'] ++ List.replicate (-point).toNat '0' ++ digits)
  else if count ≤ point then
    String.ofList (digits ++ List.replicate (point - count).toNat '0' ++ ['.', '0'])
  else
    String.ofList (digits.take point.toNat ++ ['.'] ++ digits.drop point.toNat)

def floatingText? (literal : NumberLiteral) : Option String :=
  literal.rounded?.map fun binary =>
    let text := if binary.significand = 0 then "0.0" else showScientific binary.shortest
    if literal.isNegative then "-" ++ text else text

end AlgorithmPolicy.Json.NumberLiteral

import AlgorithmPolicy.Decimal

namespace AlgorithmPolicy.Decimal

/-! The shortest decimal that stands for a binary number. A decimal stands for the
binary number to which it is rounded, so it has to lie in the interval that reaches
half way to both neighbours. Of the decimals with the fewest digits the nearest is
taken. All arithmetic is exact.

A positive binary number is a significand times a power of two, and a decimal is digits times
a power of ten. The least number of a binade has a nearer neighbour below. -/

structure Binary where
  significand : Nat
  exponent : Int
  lowerIsNearer : Bool

structure Scientific where
  digits : Nat
  exponent : Int
  deriving DecidableEq

namespace Binary

/-- A fraction equal to a number of quarter steps of the binary number. -/
def quarterSteps (binary : Binary) (steps : Nat) : Nat × Nat :=
  let exponent := binary.exponent - 2
  (steps <<< exponent.toNat, 1 <<< (-exponent).toNat)

/-- The place of the leading decimal digit of a fraction: zero for the units. -/
def leadingPlace (numerator denominator : Nat) : Int :=
  if denominator ≤ numerator then
    ((Decimal.digits (numerator / denominator)).length : Int) - 1
  else
    match (List.range 400).find? fun places => denominator ≤ numerator * powerOfTen places with
    | some places => -(places : Int)
    | none => 0

def isInterval (binary : Binary) (decimal : Scientific) : Bool :=
  let center := 4 * binary.significand
  let low := binary.quarterSteps (center - if binary.lowerIsNearer then 1 else 2)
  let high := binary.quarterSteps (center + 2)
  let numerator := decimal.digits * powerOfTen decimal.exponent.toNat
  let denominator := powerOfTen (-decimal.exponent).toNat
  -- Rounding prefers even significands, to which the ends of the interval belong.
  if binary.significand % 2 = 0 then
    low.1 * denominator ≤ numerator * low.2 && numerator * high.2 ≤ high.1 * denominator
  else
    low.1 * denominator < numerator * low.2 && numerator * high.2 < high.1 * denominator

/-- The nearer to the binary number of the two decimals around it that have a given
number of digits, if it is in the interval, else the other one if that is. -/
def withDigits? (binary : Binary) (count : Nat) : Option Scientific :=
  let (numerator, denominator) := binary.quarterSteps (4 * binary.significand)
  let exponent := leadingPlace numerator denominator - (count - 1)
  let scaledNumerator := numerator * powerOfTen (-exponent).toNat
  let scaledDenominator := denominator * powerOfTen exponent.toNat
  let below := scaledNumerator / scaledDenominator
  let isBelowNearer := 2 * (scaledNumerator % scaledDenominator) ≤ scaledDenominator
  let nearer := if isBelowNearer then below else below + 1
  let farther := if isBelowNearer then below + 1 else below
  if binary.isInterval ⟨nearer, exponent⟩ then some ⟨nearer, exponent⟩
  else if binary.isInterval ⟨farther, exponent⟩ then some ⟨farther, exponent⟩
  else none

def shortest (binary : Binary) : Scientific :=
  -- Seventeen digits suffice for every significand of 53 bits.
  match (List.range' 1 17).findSome? binary.withDigits? with
  -- The digit nine may have been rounded up.
  | some ⟨10, exponent⟩ => ⟨1, exponent + 1⟩
  | some decimal => decimal
  | none => ⟨0, 0⟩

end Binary

end AlgorithmPolicy.Decimal

import AlgorithmPolicy.Decimal.Shortest

namespace AlgorithmPolicy.Decimal

/-! The binary number that is nearest to a fraction. Of two that are equally near, the
one with the even significand is taken. All arithmetic is exact. -/

/-- The whole number nearest to a fraction. -/
def roundEven (numerator denominator : Nat) : Nat :=
  let quotient := numerator / denominator
  let twice := 2 * (numerator % denominator)
  if twice < denominator then quotient
  else if denominator < twice then quotient + 1
  else quotient + quotient % 2

namespace Binary

def leadingBit : Nat := 0x10000000000000

def leastExponent : Int := -1074

def greatestExponent : Int := 971

def ofSignificand (significand : Nat) (exponent : Int) : Binary :=
  ⟨significand, exponent, decide (significand = leadingBit ∧ leastExponent < exponent)⟩

/-- The place of the leading bit of a fraction: zero for the units. -/
def leadingBitPlace (numerator denominator : Nat) : Int :=
  let place : Int := (numerator.log2 : Int) - (denominator.log2 : Int)
  if denominator <<< place.toNat ≤ numerator <<< (-place).toNat then place else place - 1

/-- The exponent at which the fraction has a significand of 53 bits, or the least one. -/
def exponentOf (numerator denominator : Nat) : Int :=
  let exponent := leadingBitPlace numerator denominator - 52
  if exponent < leastExponent then leastExponent else exponent

/-- The binary number nearest to a fraction; `none` if the fraction is too large. -/
def nearest? (numerator denominator : Nat) : Option Binary :=
  let exponent := exponentOf numerator denominator
  let significand :=
    roundEven (numerator <<< (-exponent).toNat) (denominator <<< exponent.toNat)
  let binary :=
    if significand = 2 * leadingBit then ofSignificand leadingBit (exponent + 1)
    else ofSignificand significand exponent
  if greatestExponent < binary.exponent then none else some binary

end Binary

end AlgorithmPolicy.Decimal

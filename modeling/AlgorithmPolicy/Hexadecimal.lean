import AlgorithmPolicy.Decimal

namespace AlgorithmPolicy.Hexadecimal

/-! Hexadecimal digits. They are written in lower case and read in both cases. -/

def digit (value : Nat) : Char :=
  if value < 10 then Decimal.digitCharacter value
  else Char.ofNat ('a'.toNat + (value - 10))

def digitValue? (character : Char) : Option Nat :=
  if '0' ≤ character ∧ character ≤ '9' then some (character.toNat - '0'.toNat)
  else if 'a' ≤ character ∧ character ≤ 'f' then some (character.toNat - 'a'.toNat + 10)
  else if 'A' ≤ character ∧ character ≤ 'F' then some (character.toNat - 'A'.toNat + 10)
  else none

/-- The digits of a number, with no leading zero but for zero itself. -/
def digits (number : Nat) : List Char :=
  if number < 16 then [digit number] else digits (number / 16) ++ [digit (number % 16)]

/-- The number whose digits are given; `none` if a character is no digit. -/
def value? (characters : List Char) : Option Nat :=
  characters.foldlM
    (fun number character => (digitValue? character).map fun digit => number * 16 + digit) 0

theorem digitValue?_digit {value : Nat} (small : value < 16) :
    digitValue? (digit value) = some value := by
  have all : ∀ value < 16, digitValue? (digit value) = some value := by decide
  exact all value small

end AlgorithmPolicy.Hexadecimal

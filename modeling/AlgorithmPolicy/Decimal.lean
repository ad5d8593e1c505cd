namespace AlgorithmPolicy.Decimal

/-! Natural numbers in decimal notation, with and without a fixed width. -/

def digitCharacter (digit : Nat) : Char :=
  Char.ofNat ('0'.toNat + digit)

def digitValue (character : Char) : Nat :=
  character.toNat - '0'.toNat

def powerOfTen (places : Nat) : Nat :=
  Nat.pow 10 places

/-- The last digits of a number, as many as asked for, with leading zeros. -/
def fixedWidth : (width : Nat) → Nat → List Char
  | 0, _ => []
  | width + 1, number => fixedWidth width (number / 10) ++ [digitCharacter (number % 10)]

/-- All digits of a number, and no leading zero but for zero itself. -/
def digits (number : Nat) : List Char :=
  if number < 10 then [digitCharacter number]
  else digits (number / 10) ++ [digitCharacter (number % 10)]

/-- The number whose digits are given. -/
def value (characters : List Char) : Nat :=
  characters.foldl (fun number character => number * 10 + digitValue character) 0

def ofNat (number : Nat) : String :=
  String.ofList (digits number)

def ofInt : Int → String
  | .ofNat number => ofNat number
  | .negSucc number => "-" ++ ofNat (number + 1)

theorem powerOfTen_succ (places : Nat) : powerOfTen (places + 1) = 10 * powerOfTen places :=
  Nat.mul_comm (powerOfTen places) 10

theorem length_fixedWidth : ∀ (width number : Nat),
    (fixedWidth width number).length = width
  | 0, _ => rfl
  | width + 1, number => by simp [fixedWidth, length_fixedWidth width]

theorem digitValue_digitCharacter {digit : Nat} (small : digit < 10) :
    digitValue (digitCharacter digit) = digit := by
  have all : ∀ digit < 10, digitValue (digitCharacter digit) = digit := by decide
  exact all digit small

theorem value_append_singleton (characters : List Char) (character : Char) :
    value (characters ++ [character]) = value characters * 10 + digitValue character := by
  simp [value]

theorem value_digits (number : Nat) : value (digits number) = number := by
  induction number using digits.induct with
  | case1 number small =>
      rw [digits, if_pos small]
      simp [value, digitValue_digitCharacter small]
  | case2 number large induction =>
      rw [digits, if_neg large, value_append_singleton, induction,
        digitValue_digitCharacter (Nat.mod_lt _ (by decide))]
      omega

theorem value_fixedWidth : ∀ (width number : Nat),
    value (fixedWidth width number) = number % powerOfTen width
  | 0, number => by simp [fixedWidth, value, powerOfTen, Nat.mod_one]
  | width + 1, number => by
      rw [fixedWidth, value_append_singleton, value_fixedWidth width,
        digitValue_digitCharacter (Nat.mod_lt _ (by decide)), powerOfTen_succ, Nat.mod_mul]
      omega

end AlgorithmPolicy.Decimal

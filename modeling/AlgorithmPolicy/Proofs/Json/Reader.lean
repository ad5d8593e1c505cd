import AlgorithmPolicy.Proofs.Json.Document

/-! What readers of simple values take. A reader is told by what it takes of the values that may
stand at a place, whatever room there is for arrays and objects nested further. -/

namespace AlgorithmPolicy.Json

/-! ## Integers -/

/-- What digits denote that have no fraction and no exponent after them. -/
theorem NumberLiteral.integer?_digits {magnitude : Nat}
    (small : magnitude ≤ 18446744073709551615) (isNegative : Bool) :
    integer? ⟨isNegative, Decimal.digits magnitude, [], none⟩ =
      if isNegative then
        if 0 < magnitude ∧ magnitude ≤ 9223372036854775808 then some (-magnitude : Int) else none
      else some (magnitude : Int) := by
  have twentyDigits : Decimal.powerOfTen (19 + 1) = 100000000000000000000 := by decide
  have short : (Decimal.digits magnitude).length ≤ 20 := Decimal.length_digits_le (by omega)
  simp only [integer?, ne_eq, not_true_eq_false, false_or, if_neg (Nat.not_lt.mpr short),
    Decimal.value_digits, if_pos small]

/-- The literal of an integer is the only one that denotes it. -/
theorem NumberLiteral.integer?_eq_some_iff {literal : NumberLiteral} (proper : literal.IsProper)
    (value : Int) :
    literal.integer? = some value ↔ literal = Json.literal value ∧
      -9223372036854775808 ≤ value ∧ value ≤ 18446744073709551615 := by
  constructor
  · intro isInteger
    rcases literal with ⟨isNegative, whole, fraction, exponent⟩
    have isWhole : Decimal.digits (Decimal.value whole) = whole :=
      Decimal.digits_value proper.whole_ne_nil proper.whole_isDigit proper.whole_leading
    simp only [integer?] at isInteger
    split at isInteger
    · cases isInteger
    · next plain =>
        simp only [not_or, ne_eq, not_not] at plain
        rcases plain with ⟨rfl, rfl, -⟩
        cases isNegative with
        | true =>
            simp only [if_true, Option.ite_none_right_eq_some, Option.some.injEq] at isInteger
            rcases isInteger with ⟨⟨positive, small⟩, rfl⟩
            rcases Nat.exists_eq_add_one.mpr positive with ⟨number, isNumber⟩
            refine ⟨?_, by omega, by omega⟩
            rw [isNumber] at isWhole ⊢
            rw [← isWhole]
            rfl
        | false =>
            simp only [Bool.false_eq_true, if_false, Option.ite_none_right_eq_some,
              Option.some.injEq] at isInteger
            rcases isInteger with ⟨small, rfl⟩
            refine ⟨?_, by omega, by omega⟩
            change _ = NumberLiteral.mk false (Decimal.digits _) [] none
            rw [isWhole]
  · rintro ⟨rfl, notBelow, notAbove⟩
    cases value with
    | ofNat number =>
        have small : number ≤ 18446744073709551615 := Int.ofNat_le.mp notAbove
        exact integer?_digits small false
    | negSucc number =>
        have inRange : 0 < number + 1 ∧ number + 1 ≤ 9223372036854775808 := by omega
        exact (integer?_digits (by omega) true).trans (if_pos inRange)

namespace Reader

variable {α : Type}

/-- With some room, a reader takes exactly the values that mean something. -/
def Takes (read : Reader α) (room : Nat) (meaning : Value → α → Prop) : Prop :=
  ∀ value result, read (value.draft room) = .ok result ↔ meaning value result

end Reader

namespace Value

variable {α : Type}

def IsString (value : Value) (text : String) : Prop :=
  value = .string (some text)

/-- A date in the notation of RFC 3339, as it is read. -/
def IsDate (value : Value) (instant : Instant) : Prop :=
  ∃ text, value = .string (some text) ∧ Rfc3339.read text = some instant

/-- An integer without fraction and exponent, and without a sign unless it is negative. -/
def IsInteger (value : Value) (number : Int) : Prop :=
  ∃ proper, value = .number (Json.literal number) proper

theorem isInteger_number_iff {literal : NumberLiteral} {proper : literal.IsProper}
    {number : Int} : IsInteger (.number literal proper) number ↔ literal = Json.literal number := by
  constructor
  · rintro ⟨_, same⟩
    exact Value.number.inj same
  · rintro rfl
    exact ⟨proper, rfl⟩

inductive IsNullOr (meaning : Value → α → Prop) : Value → Option α → Prop
  | null : IsNullOr meaning .null none
  | value {value : Value} {result : α} : meaning value result →
      IsNullOr meaning value (some result)

def IsListOf (meaning : Value → α → Prop) (value : Value) (results : List α) : Prop :=
  ∃ items, value = .array items ∧ List.Forall₂ meaning items results

end Value

namespace Reader

variable {α : Type} {room : Nat} {meaning : Value → α → Prop} {read : Reader α}

theorem takes_string : Takes string room Value.IsString := by
  intro value result
  cases value with
  | string text => cases text <;> simp [Value.draft, Value.stringDraft, string, Value.IsString]
  | array | object => cases room <;> simp [Value.draft, Value.enclosed, string, Value.IsString]
  | _ => simp [Value.draft, string, Value.IsString]

theorem takes_instant : Takes instant room Value.IsDate := by
  intro value result
  cases value with
  | string text =>
      cases text with
      | none => simp [Value.draft, Value.stringDraft, instant, Value.IsDate]
      | some text =>
          simp only [Value.draft, Value.stringDraft, instant, instantOfText, Value.IsDate]
          cases date : Rfc3339.read text <;> simp [date]
  | array | object => cases room <;> simp [Value.draft, Value.enclosed, instant, Value.IsDate]
  | _ => simp [Value.draft, instant, Value.IsDate]

theorem integerWithin_eq_ok_iff {first last number : Int} {expected : String} {draft : Draft} :
    integerWithin first last expected draft = .ok number ↔
      ∃ literal, draft = .number literal ∧ literal.integer? = some number ∧
        first ≤ number ∧ number ≤ last := by
  cases draft with
  | number literal =>
      simp only [integerWithin, Draft.number.injEq, exists_eq_left']
      cases literal.integer? with
      | none => simp
      | some found =>
          simp only [Option.some.injEq]
          split
          · next within =>
              rw [Except.ok.injEq]
              constructor
              · rintro rfl
                exact ⟨rfl, within⟩
              · exact And.left
          · next outside =>
              simp only [reduceCtorEq, false_iff, not_and]
              rintro rfl
              exact not_and.mp outside
  | _ => simp [integerWithin]

/-- An integer of a range that fits into 64 bits, with a sign or without. -/
theorem takes_integerWithin {first last : Int} (expected : String)
    (notBelow : -9223372036854775808 ≤ first) (notAbove : last ≤ 18446744073709551615) :
    Takes (integerWithin first last expected) room fun value number =>
      value.IsInteger number ∧ first ≤ number ∧ number ≤ last := by
  intro value result
  rw [integerWithin_eq_ok_iff]
  cases value with
  | number literal proper =>
      simp only [Value.draft, Draft.number.injEq, exists_eq_left', Value.isInteger_number_iff,
        NumberLiteral.integer?_eq_some_iff proper]
      constructor
      · rintro ⟨⟨isLiteral, -, -⟩, within⟩
        exact ⟨isLiteral, within⟩
      · rintro ⟨isLiteral, within⟩
        exact ⟨⟨isLiteral, by omega, by omega⟩, within⟩
  | string text => cases text <;> simp [Value.draft, Value.stringDraft, Value.IsInteger]
  | array | object => cases room <;> simp [Value.draft, Value.enclosed, Value.IsInteger]
  | _ => simp [Value.draft, Value.IsInteger]

theorem takes_int64 : Takes int64 room fun value number => value.IsInteger number.toInt := by
  intro value result
  have takesInteger : Takes (integerWithin (-9223372036854775808) 9223372036854775807 "i64")
      room _ := takes_integerWithin "i64" (by decide) (by decide)
  simp only [int64, Except.map_eq_ok_iff, takesInteger value]
  constructor
  · rintro ⟨number, ⟨isInteger, notBelow, notAbove⟩, rfl⟩
    rwa [Int64.toInt_ofInt_of_le notBelow (by omega)]
  · intro isInteger
    exact ⟨result.toInt, ⟨isInteger, result.le_toInt, Int.le_sub_one_of_lt result.toInt_lt⟩,
      Int64.ofInt_toInt result⟩

theorem nullable_eq_ok_iff {draft : Draft} {result : Option α} :
    nullable read draft = .ok result ↔
      draft = .null ∧ result = none ∨ draft ≠ .null ∧ ∃ found, read draft = .ok found ∧
        some found = result := by
  cases draft with
  | null => simp [nullable, eq_comm]
  | _ => simp [nullable, Except.map_eq_ok_iff]

theorem draft_eq_null_iff {value : Value} : value.draft room = .null ↔ value = .null := by
  cases value with
  | string text => cases text <;> simp [Value.draft, Value.stringDraft]
  | array | object => cases room <;> simp [Value.draft, Value.enclosed]
  | _ => simp [Value.draft]

theorem takes_nullable (takes : Takes read room meaning)
    (notNull : ∀ result, ¬ meaning .null result) :
    Takes (nullable read) room (Value.IsNullOr meaning) := by
  intro value result
  simp only [nullable_eq_ok_iff, ne_eq, draft_eq_null_iff, takes value]
  constructor
  · rintro (⟨rfl, rfl⟩ | ⟨-, found, means, rfl⟩)
    · exact .null
    · exact .value means
  · rintro (- | means)
    · exact Or.inl ⟨rfl, rfl⟩
    · refine Or.inr ⟨?_, _, means, rfl⟩
      rintro rfl
      exact notNull _ means

theorem takes_list (takes : Takes read room meaning) :
    Takes (list read) (room + 1) (Value.IsListOf meaning) := by
  intro value results
  cases value with
  | array items =>
      simp only [Value.draft, Value.enclosed, list, Nat.add_sub_cancel, Except.mapM_eq_ok_iff,
        Value.itemDrafts_eq_map, List.forall₂_map_left_iff, takes _ _, Value.IsListOf,
        Value.array.injEq, exists_eq_left']
  | string text => cases text <;> simp [Value.draft, Value.stringDraft, list, Value.IsListOf]
  | object => simp [Value.draft, Value.enclosed, list, Value.IsListOf]
  | _ => simp [Value.draft, list, Value.IsListOf]

end Reader

end AlgorithmPolicy.Json

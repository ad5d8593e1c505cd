import Mathlib
import AlgorithmPolicy.Proofs.Decimal
import AlgorithmPolicy.Time.Rfc3339

/-! Reading gives back every instant that was written, with its offset. Hence instants that
are written the same are the same. In turn every instant that is read can be written. -/

namespace AlgorithmPolicy.Rfc3339

/-! ## Parts -/

theorem readNumber_fixedWidth {width number : Nat} (small : number < Decimal.powerOfTen width)
    (rest : List Char) :
    readNumber width (Decimal.fixedWidth width number ++ rest) = some (number, rest) := by
  have front : (Decimal.fixedWidth width number ++ rest).take width =
      Decimal.fixedWidth width number :=
    List.take_left' (Decimal.length_fixedWidth width number)
  have back : (Decimal.fixedWidth width number ++ rest).drop width = rest :=
    List.drop_left' (Decimal.length_fixedWidth width number)
  have digits : (Decimal.fixedWidth width number).all Char.isDigit = true :=
    List.all_eq_true.mpr fun _ member => Decimal.isDigit_of_mem_fixedWidth member
  rw [readNumber, front, back, Decimal.value_fixedWidth, Nat.mod_eq_of_lt small,
    if_pos ⟨Decimal.length_fixedWidth width number, digits⟩]

theorem readChar_cons (character : Char) (rest : List Char) :
    readChar character (character :: rest) = some rest := by
  rw [readChar, if_pos rfl]

/-- A fraction leaves out the zeros at the end of nine digits. -/
theorem exists_fraction_eq (nanosecond : Nat) :
    ∃ front count, fraction nanosecond = '.' :: front ∧
      Decimal.fixedWidth 9 nanosecond = front ++ List.replicate count '0' := by
  have whole := List.takeWhile_append_dropWhile (p := (· == '0'))
    (l := (Decimal.fixedWidth 9 nanosecond).reverse)
  have zeros : ∀ character ∈
      (Decimal.fixedWidth 9 nanosecond).reverse.takeWhile (· == '0'), character = '0' := by
    intro character member
    have passes := List.mem_takeWhile_imp member
    exact beq_iff_eq.mp passes
  rw [List.eq_replicate_of_mem zeros] at whole
  have reversed := congrArg List.reverse whole
  rw [List.reverse_reverse, List.reverse_append, List.reverse_replicate] at reversed
  exact ⟨_, _, rfl, reversed.symm⟩

theorem readFraction_fraction {nanosecond : Nat} (small : nanosecond < 1000000000)
    (nonzero : nanosecond ≠ 0) {rest : List Char}
    (ends : ∀ character ∈ rest.head?, character.isDigit = false) :
    readFraction (fraction nanosecond ++ rest) = some (nanosecond, rest) := by
  rcases exists_fraction_eq nanosecond with ⟨front, count, isFraction, split⟩
  have width := congrArg List.length split
  rw [Decimal.length_fixedWidth, List.length_append, List.length_replicate] at width
  have isValue := congrArg Decimal.value split
  have nineDigits : nanosecond < Decimal.powerOfTen 9 := small
  rw [Decimal.value_fixedWidth, Nat.mod_eq_of_lt nineDigits,
    Decimal.value_append_zeros] at isValue
  have digits : ∀ character ∈ front, character.isDigit = true := by
    intro character member
    have inNine : character ∈ Decimal.fixedWidth 9 nanosecond := by
      rw [split]
      exact List.mem_append_left _ member
    exact Decimal.isDigit_of_mem_fixedWidth inNine
  have nonempty : front.isEmpty = false := by
    rw [List.isEmpty_eq_false_iff]
    rintro rfl
    rw [isValue] at nonzero
    exact nonzero (Nat.zero_mul _)
  have nine : front.take 9 = front := List.take_of_length_le (by omega)
  have left : 9 - front.length = count := by omega
  rw [isFraction, List.cons_append, readFraction]
  simp only [Decimal.takeWhile_isDigit_append digits ends,
    Decimal.dropWhile_isDigit_append digits ends, nonempty, nine, left, ← isValue]
  rfl

/-! ## Offsets -/

/-- The offsets that can be written are whole minutes below a day. -/
theorem seconds_eq_of_writable {offset : Offset} (whole : offset.secondsPart = 0) :
    (offset.seconds.natAbs : Int) = offset.hours * 3600 + offset.minutes * 60 := by
  simp only [Offset.secondsPart, Offset.hours, Offset.minutes] at whole ⊢
  omega

theorem readOffset_signed {sign : Char} (isSign : sign = '+' ∨ sign = '-') {hours minutes : Nat}
    (below : hours ≤ 23) (inHour : minutes ≤ 59) (rest : List Char) :
    readOffset (sign :: (Decimal.fixedWidth 2 hours ++
        ':' :: (Decimal.fixedWidth 2 minutes ++ rest))) =
      (Offset.of? (if sign = '-' then -(hours * 3600 + minutes * 60 : Int)
        else hours * 3600 + minutes * 60)).map fun offset => (offset, rest) := by
  have twoDigits : Decimal.powerOfTen 2 = 100 := rfl
  have readHours := readNumber_fixedWidth (show hours < Decimal.powerOfTen 2 by omega)
    (':' :: (Decimal.fixedWidth 2 minutes ++ rest))
  have readMinutes := readNumber_fixedWidth (show minutes < Decimal.powerOfTen 2 by omega) rest
  have notUtc : sign ≠ 'Z' ∧ sign ≠ 'z' := by
    rcases isSign with rfl | rfl <;> decide
  rw [readOffset]
  · simp only [guard, if_pos isSign, readHours, readChar_cons, readMinutes,
      if_pos (And.intro below inHour), Option.bind_eq_bind, Option.pure_def, Option.bind_some]
    cases Offset.of? _ <;> rfl
  · exact notUtc.1
  · exact notUtc.2

theorem readOffset_writeOffset {offset : Offset} (below : offset.hours ≤ 23)
    (whole : offset.secondsPart = 0) (rest : List Char) :
    readOffset (writeOffset offset ++ rest) = some (offset, rest) := by
  have inHour : offset.minutes ≤ 59 := by
    rw [Offset.minutes]
    omega
  have isSeconds := seconds_eq_of_writable whole
  have found : Offset.of? offset.seconds = some offset := Offset.of?_eq_some_iff.mpr rfl
  rw [writeOffset]
  split
  · next isUtc =>
      rcases offset with ⟨seconds, valid⟩
      dsimp only at isUtc
      subst isUtc
      rfl
  · next notUtc =>
      simp only [List.append_assoc, List.cons_append, List.nil_append]
      cases sign : offset.isNegative with
      | true =>
          have negative : offset.seconds < 0 := of_decide_eq_true sign
          have signed : -(offset.hours * 3600 + offset.minutes * 60 : Int) = offset.seconds := by
            omega
          rw [if_pos rfl, readOffset_signed (Or.inr rfl) below inHour, if_pos rfl, signed, found]
          rfl
      | false =>
          have positive : ¬ offset.seconds < 0 := of_decide_eq_false sign
          have unsigned : (offset.hours * 3600 + offset.minutes * 60 : Int) = offset.seconds := by
            omega
          rw [if_neg Bool.false_ne_true, readOffset_signed (Or.inl rfl) below inHour,
            if_neg (by decide), unsigned, found]
          rfl

/-! ## Instants -/

theorem obstacle?_eq_none_iff {instant : Instant} :
    obstacle? instant = none ↔
      0 ≤ instant.date.year ∧ instant.offset.hours ≤ 23 ∧ instant.offset.secondsPart = 0 := by
  rw [obstacle?]
  split
  · next negative =>
      simp only [reduceCtorEq, false_iff]
      omega
  · split
    · next long =>
        simp only [reduceCtorEq, false_iff]
        omega
    · split
      · next uneven =>
          simp only [reduceCtorEq, false_iff]
          omega
      · simp only [true_iff]
        omega

theorem write_eq_ok_iff {instant : Instant} {text : String} :
    write instant = .ok text ↔
      obstacle? instant = none ∧
        text = String.ofList (writeDate instant.date ++ ['T'] ++ writeTime instant.time ++
          writeOffset instant.offset) := by
  rw [write]
  cases obstacle? instant with
  | none => simp [eq_comm]
  | some obstacle => simp

/-- What follows the seconds starts neither with a digit nor with a point. -/
theorem head?_writeOffset (offset : Offset) :
    ∀ character ∈ (writeOffset offset).head?,
      character.isDigit = false ∧ character ≠ '.' := by
  intro character member
  rw [writeOffset] at member
  split at member
  · rcases Option.some_inj.mp member with rfl
    decide
  · cases negative : offset.isNegative <;> rw [negative] at member <;>
      cases Option.some_inj.mp member <;> decide

theorem readFraction_optional {nanosecond : Nat} (small : nanosecond < 1000000000)
    (offset : Offset) :
    readFraction ((if nanosecond = 0 then [] else fraction nanosecond) ++ writeOffset offset) =
      some (nanosecond, writeOffset offset) := by
  have ends := head?_writeOffset offset
  split
  · next isZero =>
      subst isZero
      rw [List.nil_append]
      cases written : writeOffset offset with
      | nil => rfl
      | cons first rest =>
          have noPoint := (ends first (by rw [written]; rfl)).2
          rw [readFraction]
          rintro digits ⟨⟩
          exact noPoint rfl
  · next nonzero =>
      exact readFraction_fraction small nonzero fun character member => (ends character member).1

theorem readSeparator_cons (rest : List Char) : readSeparator ('T' :: rest) = some rest := rfl

theorem month_le_of_daysInMonth_pos {year : Int} {month : Nat}
    (positive : 0 < daysInMonth year month) : month ≤ 12 := by
  unfold daysInMonth at positive
  split at positive <;> omega

theorem daysInMonth_le (year : Int) (month : Nat) : daysInMonth year month ≤ 31 := by
  unfold daysInMonth
  cases isLeapYear year <;> split <;> decide

/-- Years, months and days have room in the notation. -/
theorem date_bounds {date : Date} (nonnegative : 0 ≤ date.year) :
    date.year.toNat < Decimal.powerOfTen 4 ∧ date.month < Decimal.powerOfTen 2 ∧
      date.day < Decimal.powerOfTen 2 := by
  have hundred : Decimal.powerOfTen 2 = 100 := rfl
  have tenThousand : Decimal.powerOfTen 4 = 10000 := rfl
  have days := date.day_valid
  have years := date.year_valid
  have inYear := month_le_of_daysInMonth_pos (days.1.trans days.2)
  have inMonth := daysInMonth_le date.year date.month
  rw [hundred, tenThousand]
  omega

private theorem some_bind_eq {α β : Type} (value : α) (next : α → Option β) :
    (some value >>= next) = next value := rfl

/-- Reading an instant that was written gives it back, as it was written. -/
theorem read_of_write_eq_ok {instant : Instant} {text : String}
    (written : write instant = .ok text) : read text = some instant := by
  rcases write_eq_ok_iff.mp written with ⟨writable, rfl⟩
  rcases obstacle?_eq_none_iff.mp writable with ⟨nonnegative, below, whole⟩
  rcases instant with ⟨date, time, offset⟩
  rcases time with ⟨hour, minute, second, nanosecond, timeValid⟩
  rcases date_bounds nonnegative with ⟨inYear, inMonth, inDay⟩
  have hundred : Decimal.powerOfTen 2 = 100 := rfl
  have inHours : hour < Decimal.powerOfTen 2 := by omega
  have inMinutes : minute < Decimal.powerOfTen 2 := by omega
  have inSeconds : second < Decimal.powerOfTen 2 := by omega
  have noLeapSecond : second ≠ 60 := by omega
  have isYear : (date.year.toNat : Int) = date.year := Int.toNat_of_nonneg nonnegative
  have isDate : Date.of? date.year date.month date.day = some date :=
    Date.of?_eq_some_iff.mpr ⟨rfl, rfl, rfl⟩
  have isTime : TimeOfDay.of? hour minute second nanosecond =
      some ⟨hour, minute, second, nanosecond, timeValid⟩ := dif_pos timeValid
  have isOffset : readOffset (writeOffset offset) = some (offset, []) := by
    have := readOffset_writeOffset below whole []
    rwa [List.append_nil] at this
  rw [read, String.toList_ofList, writeDate, writeTime]
  simp only [List.append_assoc, List.cons_append, List.nil_append]
  rw [readCharacters]
  simp only [readNumber_fixedWidth inYear, readNumber_fixedWidth inMonth,
    readNumber_fixedWidth inDay, readNumber_fixedWidth inHours, readNumber_fixedWidth inMinutes,
    readNumber_fixedWidth inSeconds, readChar_cons, readSeparator_cons,
    readFraction_optional timeValid.2.2.2, isOffset, isYear, isDate, isTime, some_bind_eq,
    if_neg noLeapSecond]
  rfl

/-- Instants that are written the same are the same. -/
theorem write_injective {left right : Instant} {text : String}
    (leftWritten : write left = .ok text) (rightWritten : write right = .ok text) :
    left = right :=
  Option.some_inj.mp
    ((read_of_write_eq_ok leftWritten).symm.trans (read_of_write_eq_ok rightWritten))

/-! ## What is read can be written -/

/-- Offsets are read as whole minutes below a day. -/
theorem readOffset_bounds {text rest : List Char} {offset : Offset}
    (found : readOffset text = some (offset, rest)) :
    offset.hours ≤ 23 ∧ offset.secondsPart = 0 := by
  unfold readOffset at found
  split at found
  · cases found
    decide
  · cases found
    decide
  · rcases Option.bind_eq_some_iff.mp found with ⟨_, -, afterSign⟩
    rcases Option.bind_eq_some_iff.mp afterSign with ⟨⟨hours, _⟩, -, afterHours⟩
    rcases Option.bind_eq_some_iff.mp afterHours with ⟨_, -, afterColon⟩
    rcases Option.bind_eq_some_iff.mp afterColon with ⟨⟨minutes, _⟩, -, afterMinutes⟩
    rcases Option.bind_eq_some_iff.mp afterMinutes with ⟨_, inRange, afterRange⟩
    rcases Option.bind_eq_some_iff.mp afterRange with ⟨_, isOffset, same⟩
    cases same
    have bounds : hours ≤ 23 ∧ minutes ≤ 59 := by
      by_contra outside
      simp [guard, outside] at inRange
    have isSeconds := Offset.of?_eq_some_iff.mp isOffset
    rw [Offset.hours, Offset.secondsPart]
    split at isSeconds <;> omega
  · cases found

/-- The year is read from digits, so it is not negative, and a leap second is read at the
offset at which it stands. -/
theorem obstacle?_eq_none_of_read {text : String} {instant : Instant}
    (found : read text = some instant) : obstacle? instant = none := by
  rw [read, readCharacters] at found
  rcases Option.bind_eq_some_iff.mp found with ⟨⟨year, _⟩, -, afterYear⟩
  rcases Option.bind_eq_some_iff.mp afterYear with ⟨_, -, afterDash⟩
  rcases Option.bind_eq_some_iff.mp afterDash with ⟨⟨month, _⟩, -, afterMonth⟩
  rcases Option.bind_eq_some_iff.mp afterMonth with ⟨_, -, afterDash⟩
  rcases Option.bind_eq_some_iff.mp afterDash with ⟨⟨day, _⟩, -, afterDay⟩
  rcases Option.bind_eq_some_iff.mp afterDay with ⟨_, -, afterSeparator⟩
  rcases Option.bind_eq_some_iff.mp afterSeparator with ⟨⟨hour, _⟩, -, afterHour⟩
  rcases Option.bind_eq_some_iff.mp afterHour with ⟨_, -, afterColon⟩
  rcases Option.bind_eq_some_iff.mp afterColon with ⟨⟨minute, _⟩, -, afterMinute⟩
  rcases Option.bind_eq_some_iff.mp afterMinute with ⟨_, -, afterColon⟩
  rcases Option.bind_eq_some_iff.mp afterColon with ⟨⟨second, _⟩, -, afterSecond⟩
  rcases Option.bind_eq_some_iff.mp afterSecond with ⟨_, -, afterFraction⟩
  rcases Option.bind_eq_some_iff.mp afterFraction with ⟨⟨offset, _⟩, isOffset, afterOffset⟩
  rcases Option.bind_eq_some_iff.mp afterOffset with ⟨_, -, afterEnd⟩
  rcases Option.bind_eq_some_iff.mp afterEnd with ⟨date, isDate, afterDate⟩
  have fits : ∀ time, obstacle? ⟨date, time, offset⟩ = none := by
    intro time
    rw [obstacle?_eq_none_iff, (Date.of?_eq_some_iff.mp isDate).1]
    exact ⟨Int.natCast_nonneg year, readOffset_bounds isOffset⟩
  split at afterDate
  · rcases Option.bind_eq_some_iff.mp afterDate with ⟨time, -, afterTime⟩
    rcases Option.bind_eq_some_iff.mp afterTime with ⟨_, -, same⟩
    cases same
    exact fits time
  · rcases Option.bind_eq_some_iff.mp afterDate with ⟨time, -, same⟩
    cases same
    exact fits time

end AlgorithmPolicy.Rfc3339

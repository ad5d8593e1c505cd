namespace AlgorithmPolicy

/-! The proleptic Gregorian calendar, from the year -9999 to the year 9999. The
year zero is the year before the year one. -/

def isLeapYear (year : Int) : Bool :=
  year % 4 == 0 && (year % 100 != 0 || year % 400 == 0)

/-- The number of days of a month, which is zero unless there is such a month. -/
def daysInMonth (year : Int) : Nat → Nat
  | 1 | 3 | 5 | 7 | 8 | 10 | 12 => 31
  | 4 | 6 | 9 | 11 => 30
  | 2 => if isLeapYear year then 29 else 28
  | _ => 0

structure Date where
  year : Int
  month : Nat
  day : Nat
  year_valid : -9999 ≤ year ∧ year ≤ 9999
  day_valid : 1 ≤ day ∧ day ≤ daysInMonth year month
  deriving DecidableEq

namespace Date

def of? (year : Int) (month day : Nat) : Option Date :=
  if valid : (-9999 ≤ year ∧ year ≤ 9999) ∧ 1 ≤ day ∧ day ≤ daysInMonth year month then
    some ⟨year, month, day, valid.1, valid.2⟩
  else
    none

theorem of?_eq_some_iff {year : Int} {month day : Nat} {date : Date} :
    of? year month day = some date ↔
      date.year = year ∧ date.month = month ∧ date.day = day := by
  obtain ⟨dateYear, dateMonth, dateDay, yearValid, dayValid⟩ := date
  constructor
  · intro same
    unfold of? at same
    split at same
    · simp_all
    · simp at same
  · rintro ⟨rfl, rfl, rfl⟩
    simp [of?, yearValid, dayValid]

/-! ## Day numbers

Days are numbered from the first of January 1970, which is day zero. -/

/-- The number of days from the start of the year zero to the start of a year. -/
def daysBeforeYear (year : Int) : Int :=
  365 * year + (year + 3) / 4 - (year + 99) / 100 + (year + 399) / 400

/-- The number of days of a year that lie before a month. -/
def daysBeforeMonth (year : Int) (month : Nat) : Nat :=
  (List.range month).foldl (fun days earlier => days + daysInMonth year earlier) 0

def dayNumber (date : Date) : Int :=
  daysBeforeYear date.year + daysBeforeMonth date.year date.month + date.day - 1 -
    daysBeforeYear 1970

/-- The year in which a day lies that is counted from the start of the year zero.
A year has close to 146097 / 400 days, so the quotient misses by one at most. -/
def yearOfDay (day : Int) : Int :=
  let near := day * 400 / 146097
  if day < daysBeforeYear near then near - 1
  else if daysBeforeYear (near + 1) ≤ day then near + 1
  else near

/-- The month and day of the month of the day that is so many days after the
first of a month. -/
def monthAndDay (year : Int) : List Nat → Nat → Option (Nat × Nat)
  | [], _ => none
  | month :: later, daysAfter =>
      if daysAfter < daysInMonth year month then
        some (month, daysAfter + 1)
      else
        monthAndDay year later (daysAfter - daysInMonth year month)

/-- The date with a day number, if it lies in the calendar. -/
def ofDayNumber? (number : Int) : Option Date := do
  let day := number + daysBeforeYear 1970
  let year := yearOfDay day
  let (month, dayOfMonth) ←
    monthAndDay year (List.range' 1 12) (day - daysBeforeYear year).toNat
  of? year month dayOfMonth

def isLastOfMonth (date : Date) : Bool :=
  date.day == daysInMonth date.year date.month

end Date

end AlgorithmPolicy

import AlgorithmPolicy.Decimal
import AlgorithmPolicy.Time.Instant

namespace AlgorithmPolicy

/-! Instants in the notation of RFC 3339. The notation has room for the years 0 to
9999 and for offsets of whole minutes below twenty-four hours, so not every
instant can be written. Reading is more liberal than writing: any one byte may
stand between date and time, fractions may have any number of digits, and a leap
second is read as the last nanosecond before it. -/

/-- The part of an instant that has no place in the notation. -/
inductive UnwritableInstant
  | year
  | offsetHours
  | offsetSeconds
  deriving DecidableEq

namespace UnwritableInstant

def component : UnwritableInstant → String
  | .year => "year"
  | .offsetHours => "offset_hour"
  | .offsetSeconds => "offset_second"

def message (unwritable : UnwritableInstant) : String :=
  "The " ++ unwritable.component ++
    " component cannot be formatted into the requested format."

end UnwritableInstant

namespace Rfc3339

/-! ## Writing -/

/-- The point and the digits of a fraction of a second, without trailing zeros. -/
def fraction (nanosecond : Nat) : List Char :=
  '.' :: ((Decimal.fixedWidth 9 nanosecond).reverse.dropWhile (· == '0')).reverse

def writeDate (date : Date) : List Char :=
  Decimal.fixedWidth 4 date.year.toNat ++ ['-'] ++ Decimal.fixedWidth 2 date.month ++
    ['-'] ++ Decimal.fixedWidth 2 date.day

def writeTime (time : TimeOfDay) : List Char :=
  Decimal.fixedWidth 2 time.hour ++ [':'] ++ Decimal.fixedWidth 2 time.minute ++
    [':'] ++ Decimal.fixedWidth 2 time.second ++
    if time.nanosecond = 0 then [] else fraction time.nanosecond

def writeOffset (offset : Offset) : List Char :=
  if offset.seconds = 0 then ['Z']
  else
    [if offset.isNegative then '-' else '+'] ++ Decimal.fixedWidth 2 offset.hours ++
      [':'] ++ Decimal.fixedWidth 2 offset.minutes

/-- Why an instant cannot be written, if it cannot. -/
def obstacle? (instant : Instant) : Option UnwritableInstant :=
  if instant.date.year < 0 then some .year
  else if 23 < instant.offset.hours then some .offsetHours
  else if instant.offset.secondsPart ≠ 0 then some .offsetSeconds
  else none

def write (instant : Instant) : Except UnwritableInstant String :=
  match obstacle? instant with
  | some obstacle => .error obstacle
  | none =>
      .ok (String.ofList (writeDate instant.date ++ ['T'] ++ writeTime instant.time ++
        writeOffset instant.offset))

/-! ## Reading

Each reader takes what it reads from the front of the text and leaves the rest. -/

def readNumber : (width : Nat) → List Char → Option (Nat × List Char)
  | width, text =>
      let front := text.take width
      if front.length = width ∧ front.all Char.isDigit then
        some (Decimal.value front, text.drop width)
      else
        none

def readChar (expected : Char) : List Char → Option (List Char)
  | character :: rest => if character = expected then some rest else none
  | [] => none

/-- Any character of one byte. -/
def readSeparator : List Char → Option (List Char)
  | character :: rest => if character.toNat < 128 then some rest else none
  | [] => none

/-- Nanoseconds from a fraction of a second; digits after the ninth are dropped. -/
def readFraction : List Char → Option (Nat × List Char)
  | '.' :: rest =>
      let digits := rest.takeWhile Char.isDigit
      if digits.isEmpty then none
      else
        let nine := digits.take 9
        some (Decimal.value nine * Decimal.powerOfTen (9 - nine.length),
          rest.dropWhile Char.isDigit)
  | text => some (0, text)

def readOffset : List Char → Option (Offset × List Char)
  | 'Z' :: rest => some (.utc, rest)
  | 'z' :: rest => some (.utc, rest)
  | sign :: rest => do
      guard (sign = '+' ∨ sign = '-')
      let (hours, rest) ← readNumber 2 rest
      let rest ← readChar ':' rest
      let (minutes, rest) ← readNumber 2 rest
      guard (hours ≤ 23 ∧ minutes ≤ 59)
      let seconds : Int := hours * 3600 + minutes * 60
      let offset ← Offset.of? (if sign = '-' then -seconds else seconds)
      return (offset, rest)
  | [] => none

/-- Leap seconds are inserted after the last second of a month in UTC. -/
def precedesLeapSecond (instant : Instant) : Bool :=
  match instant.toUtc? with
  | some utc =>
      utc.date.isLastOfMonth && utc.time.hour == 23 && utc.time.minute == 59 &&
        utc.time.second == 59
  | none => false

def readCharacters (text : List Char) : Option Instant := do
  let (year, text) ← readNumber 4 text
  let text ← readChar '-' text
  let (month, text) ← readNumber 2 text
  let text ← readChar '-' text
  let (day, text) ← readNumber 2 text
  let text ← readSeparator text
  let (hour, text) ← readNumber 2 text
  let text ← readChar ':' text
  let (minute, text) ← readNumber 2 text
  let text ← readChar ':' text
  let (second, text) ← readNumber 2 text
  let (nanosecond, text) ← readFraction text
  let (offset, text) ← readOffset text
  guard text.isEmpty
  let date ← Date.of? year month day
  if second = 60 then
    let time ← TimeOfDay.of? hour minute 59 999999999
    let instant : Instant := ⟨date, time, offset⟩
    guard (precedesLeapSecond instant)
    return instant
  else
    let time ← TimeOfDay.of? hour minute second nanosecond
    return ⟨date, time, offset⟩

def read (text : String) : Option Instant :=
  readCharacters text.toList

end Rfc3339

namespace Instant

/-! ## Display

Every instant can be shown, in a plainer notation if RFC 3339 has no room for it. -/

private def yearText (year : Int) : List Char :=
  (if year < 0 then ['-'] else []) ++ Decimal.fixedWidth 4 year.natAbs

private def fractionText (nanosecond : Nat) : List Char :=
  if nanosecond = 0 then ['.', '0'] else Rfc3339.fraction nanosecond

/-- Local date and time with the offset to the second; the hour is not padded. -/
def plainText (instant : Instant) : String :=
  let date := instant.date
  let time := instant.time
  let offset := instant.offset
  String.ofList
    (yearText date.year ++ ['-'] ++ Decimal.fixedWidth 2 date.month ++ ['-'] ++
      Decimal.fixedWidth 2 date.day ++ [' '] ++
      Decimal.digits time.hour ++ [':'] ++ Decimal.fixedWidth 2 time.minute ++ [':'] ++
      Decimal.fixedWidth 2 time.second ++ fractionText time.nanosecond ++ [' '] ++
      [if offset.isNegative then '-' else '+'] ++ Decimal.fixedWidth 2 offset.hours ++
      [':'] ++ Decimal.fixedWidth 2 offset.minutes ++ [':'] ++
      Decimal.fixedWidth 2 offset.secondsPart)

def display (instant : Instant) : String :=
  match Rfc3339.write instant with
  | .ok text => text
  | .error _ => instant.plainText

end Instant

end AlgorithmPolicy

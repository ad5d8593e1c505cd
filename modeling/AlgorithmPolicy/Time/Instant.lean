import AlgorithmPolicy.Time.Date

namespace AlgorithmPolicy

/-! An instant is written as a local date and time together with the offset from
UTC at which it is local. Two instants written at different offsets may denote
the same moment; comparisons look at the moment alone, while the way an instant
is written is kept for printing. -/

structure TimeOfDay where
  hour : Nat
  minute : Nat
  second : Nat
  nanosecond : Nat
  valid : hour < 24 ∧ minute < 60 ∧ second < 60 ∧ nanosecond < 1000000000
  deriving DecidableEq

namespace TimeOfDay

def of? (hour minute second nanosecond : Nat) : Option TimeOfDay :=
  if valid : hour < 24 ∧ minute < 60 ∧ second < 60 ∧ nanosecond < 1000000000 then
    some ⟨hour, minute, second, nanosecond, valid⟩
  else
    none

def secondOfDay (time : TimeOfDay) : Nat :=
  time.hour * 3600 + time.minute * 60 + time.second

/-- The time that is so many seconds and nanoseconds after midnight. -/
def ofSecondOfDay? (second nanosecond : Nat) : Option TimeOfDay :=
  of? (second / 3600) (second / 60 % 60) (second % 60) nanosecond

end TimeOfDay

/-- A difference between local time and UTC, in seconds, of less than twenty-six
hours. It is positive where local time is ahead. -/
structure Offset where
  seconds : Int
  valid : -93600 < seconds ∧ seconds < 93600
  deriving DecidableEq

namespace Offset

def utc : Offset :=
  ⟨0, by decide⟩

def of? (seconds : Int) : Option Offset :=
  if valid : -93600 < seconds ∧ seconds < 93600 then some ⟨seconds, valid⟩ else none

theorem of?_eq_some_iff {seconds : Int} {offset : Offset} :
    of? seconds = some offset ↔ offset.seconds = seconds := by
  rcases offset with ⟨offsetSeconds, valid⟩
  constructor
  · intro same
    unfold of? at same
    split at same
    · cases same
      rfl
    · cases same
  · rintro rfl
    exact dif_pos valid

def hours (offset : Offset) : Nat :=
  offset.seconds.natAbs / 3600

def minutes (offset : Offset) : Nat :=
  offset.seconds.natAbs / 60 % 60

def secondsPart (offset : Offset) : Nat :=
  offset.seconds.natAbs % 60

def isNegative (offset : Offset) : Bool :=
  offset.seconds < 0

end Offset

structure Instant where
  date : Date
  time : TimeOfDay
  offset : Offset
  deriving DecidableEq

namespace Instant

/-! ## Moments -/

/-- The whole seconds in UTC from the start of 1970 to the second of the instant. -/
def unixSeconds (instant : Instant) : Int :=
  instant.date.dayNumber * 86400 + instant.time.secondOfDay - instant.offset.seconds

/-- The moment an instant denotes, in nanoseconds from the start of 1970 in UTC. -/
def moment (instant : Instant) : Int :=
  instant.unixSeconds * 1000000000 + instant.time.nanosecond

def order (left right : Instant) : Ordering :=
  compare left.moment right.moment

/-- Nanoseconds count on from the second; `none` unless the date exists at the offset. -/
def ofUnix? (seconds : Int) (nanosecond : Nat) (offset : Offset) : Option Instant := do
  let localSeconds := seconds + offset.seconds
  let date ← Date.ofDayNumber? (localSeconds / 86400)
  let time ← TimeOfDay.ofSecondOfDay? (localSeconds % 86400).toNat nanosecond
  return ⟨date, time, offset⟩

/-- The date and time of an instant in UTC, if the date lies in the calendar. -/
def toUtc? (instant : Instant) : Option Instant :=
  ofUnix? instant.unixSeconds instant.time.nanosecond .utc

end Instant

end AlgorithmPolicy

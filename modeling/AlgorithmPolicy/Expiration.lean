import AlgorithmPolicy.Time.Rfc3339

namespace AlgorithmPolicy

/-! The end of an acceptability. No date stands for "without end": an unbounded
expiration is a value of its own and comes after every instant. -/

inductive Expiration
  | at (last : Instant)
  | unbounded
  deriving DecidableEq

namespace Expiration

def ofEnd : Option Instant → Expiration
  | some last => .at last
  | none => .unbounded

def end? : Expiration → Option Instant
  | .at last => some last
  | .unbounded => none

def isUnbounded : Expiration → Bool
  | .at _ => false
  | .unbounded => true

/-- Expirations are ordered by moment; how an instant is written plays no part. -/
def order : Expiration → Expiration → Ordering
  | .at left, .at right => left.order right
  | .at _, .unbounded => .lt
  | .unbounded, .at _ => .gt
  | .unbounded, .unbounded => .eq

/-- The later of two expirations, and the second of two that are equally late. -/
def latest (first second : Expiration) : Expiration :=
  if first.order second = .gt then first else second

/-- The earlier of two expirations, and the first of two that are equally early. -/
def earliest (first second : Expiration) : Expiration :=
  if first.order second = .gt then second else first

/-- The latest of a list, and of equally late ones the last; `none` for the empty list. -/
def latest? : List Expiration → Option Expiration
  | [] => none
  | first :: rest => some (rest.foldl latest first)

/-- The end itself still belongs to the time of acceptability. -/
def isAcceptableAt (expiration : Expiration) (moment : Instant) : Bool :=
  match expiration with
  | .at last => moment.moment ≤ last.moment
  | .unbounded => true

def display : Expiration → String
  | .at last => last.display
  | .unbounded => "unbounded"

end Expiration

end AlgorithmPolicy

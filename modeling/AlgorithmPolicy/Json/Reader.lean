import AlgorithmPolicy.Json.Document
import AlgorithmPolicy.Json.Fault
import AlgorithmPolicy.Label
import AlgorithmPolicy.Time.Rfc3339

namespace AlgorithmPolicy.Json

/-! Readers take drafts for values of a type. A reader reports the fault that comes first
in the text, so it takes a draft apart from front to back. -/

abbrev Reader (α : Type) : Type := Draft → Except Fault α

namespace Reader

/-- Reads a whole text. What follows the value is looked at last. -/
def ofText {α : Type} (read : Reader α) (text : String) : Except Fault α := do
  let document := Document.read text
  let value ← read document.value
  if document.endsHere then .ok value else .error .malformed

/-! ## Simple values -/

def string : Reader String
  | .string text => .ok text
  | draft => .error (.ofUnexpected draft "a string")

/-- Either `null` or a value. -/
def nullable {α : Type} (read : Reader α) : Reader (Option α)
  | .null => .ok none
  | draft => (read draft).map some

def list {α : Type} (read : Reader α) : Reader (List α)
  | .array items => items.mapM read
  | draft => .error (.ofUnexpected draft "a sequence")

/-- An integer of a range, which has a name in messages. -/
def integerWithin (first last : Int) (expected : String) : Reader Int
  | .number literal =>
      match literal.integer? with
      | some value =>
          if first ≤ value ∧ value ≤ last then .ok value
          else .error (.invalidValue (.integer value) expected)
      | none => .error (.ofUnexpected (.number literal) expected)
  | draft => .error (.ofUnexpected draft expected)

def int64 : Reader Int64 := fun draft =>
  (integerWithin (-9223372036854775808) 9223372036854775807 "i64" draft).map Int64.ofInt

def uint32 : Reader UInt32 := fun draft =>
  (integerWithin 0 4294967295 "u32" draft).map fun value => UInt32.ofNat value.toNat

/-- The place of something in a list. -/
def index : Reader Nat := fun draft =>
  (integerWithin 0 18446744073709551615 "usize" draft).map Int.toNat

def instantOfText (text : String) : Except Fault Instant :=
  match Rfc3339.read text with
  | some instant => .ok instant
  | none => .error .malformed

def instant : Reader Instant
  | .string text => instantOfText text
  | draft => .error (.ofUnexpected draft "an RFC3339-formatted `OffsetDateTime`")

/-! ## Labels

A label is written as a string, or as the name of the only member of an object, whose
value is then `null`. -/

def labels (α : Type) [Labelled α] : List String :=
  (Labelled.all : List α).map Labelled.label

def labelOfText {α : Type} [Labelled α] (text : String) : Except Fault α :=
  match Labelled.ofLabel? text with
  | some value => .ok value
  | none => .error (.unknownVariant text (labels α))

def unit (expected : String) : Reader Unit
  | .null => .ok ()
  | draft => .error (.ofUnexpected draft expected)

def label {α : Type} [Labelled α] : Reader α
  | .string text => labelOfText text
  | .object ((some name, value) :: members) isComplete => do
      let found ← labelOfText name
      unit "unit" value
      if members.isEmpty ∧ isComplete then .ok found else .error .malformed
  | _ => .error .malformed

end Reader

end AlgorithmPolicy.Json

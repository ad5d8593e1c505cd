import AlgorithmPolicy.Json.Reader

namespace AlgorithmPolicy.Json

/-! Records. A record is written as an object, whose members may stand in any order, or as
an array of the values of its fields in the order of their declaration. -/

/-! ## Attempts

The fields of a record are read in the order of their declaration, which need not be
their order in the text. So each fault carries the place where it shows, and of two
faults the one that shows first is reported. -/

inductive Attempt (α : Type)
  | success (value : α)
  | failure (place : Nat) (fault : Fault)

namespace Attempt

variable {α β : Type}

def ofExcept (place : Nat) : Except Fault α → Attempt α
  | .ok value => .success value
  | .error fault => .failure place fault

def toExcept : Attempt α → Except Fault α
  | .success value => .ok value
  | .failure _ fault => .error fault

def apply : Attempt (α → β) → Attempt α → Attempt β
  | .success function, .success value => .success (function value)
  | .success _, .failure place fault => .failure place fault
  | .failure place fault, .success _ => .failure place fault
  | .failure place fault, .failure otherPlace otherFault =>
      if otherPlace < place then .failure otherPlace otherFault else .failure place fault

instance : Applicative Attempt where
  pure := .success
  seq function value := function.apply (value ())

end Attempt

/-! ## Declarations

The members of an open record may include others than its fields, which are passed over;
those of a closed record may not. -/

structure Declaration where
  title : String
  fields : List String
  isClosed : Bool

def countElements (count : Nat) : String :=
  if count = 1 then "1 element" else Decimal.ofNat count ++ " elements"

/-- A record as it is written. -/
inductive Record
  | object (members : List (MemberName × Draft))
  | array (declaration : Declaration) (items : List Draft)

namespace Record

/-! ### Places

The name of a member and its value have a place each, and so has the end of the object. -/

def placeOfName (index : Nat) : Nat :=
  2 * index

def placeOfValue (index : Nat) : Nat :=
  2 * index + 1

/-! ### Fields -/

/-- The value of a field and its place. -/
def value? (record : Record) (name : String) : Option (Nat × Draft) :=
  match record with
  | .object members =>
      (members.zipIdx.find? fun ((other, _), _) => other == some name).map
        fun ((_, value), index) => (placeOfValue index, value)
  | .array declaration items =>
      let index := declaration.fields.idxOf name
      items[index]?.map fun value => (index, value)

/-- What the absence of a field comes to if it has to be there. -/
def absence {α : Type} (record : Record) (name : String) : Attempt α :=
  match record with
  | .object members => .failure (placeOfValue members.length) (.missingField name)
  | .array declaration items =>
      .failure items.length (.invalidLength (declaration.fields.idxOf name)
        (declaration.title ++ " with " ++ countElements declaration.fields.length))

def required {α : Type} (record : Record) (name : String) (read : Reader α) : Attempt α :=
  match record.value? name with
  | some (place, value) => .ofExcept place (read value)
  | none => record.absence name

/-- A field that may be left out. -/
def defaulted {α : Type} (record : Record) (name : String) (default : α)
    (read : Reader α) : Attempt α :=
  match record.value? name with
  | some (place, value) => .ofExcept place (read value)
  | none => .success default

/-- A field that may be left out of an object, but not of an array. -/
def implied {α : Type} (record : Record) (name : String) (default : α)
    (read : Reader α) : Attempt α :=
  match record with
  | .object _ => record.defaulted name default read
  | .array _ _ => record.required name read

end Record

namespace Declaration

/-! ## Reading -/

/-- Goes through the members of an object, given the fields seen so far. -/
def checkMembers (declaration : Declaration) (isComplete : Bool) (seen : List String)
    (index : Nat) : List (MemberName × Draft) → Attempt Unit
  | [] =>
      if isComplete then .success () else .failure (Record.placeOfName index) .malformed
  | (none, _) :: _ => .failure (Record.placeOfName index) .malformed
  | (some name, value) :: members =>
      if name ∈ declaration.fields then
        if name ∈ seen then .failure (Record.placeOfName index) (.duplicateField name)
        else declaration.checkMembers isComplete (name :: seen) (index + 1) members
      else if declaration.isClosed then
        .failure (Record.placeOfName index) (.unknownField name declaration.fields)
      else if value.isWhole then
        declaration.checkMembers isComplete seen (index + 1) members
      else .failure (Record.placeOfValue index) .malformed

/-- The items of an array must not outnumber the fields. -/
def checkItems (declaration : Declaration) (surplus : Fault) (items : List Draft) :
    Attempt Unit :=
  if declaration.fields.length < items.length then .failure items.length surplus
  else .success ()

variable {α : Type}

def readWith (declaration : Declaration) (surplus : List Draft → Fault)
    (build : Record → Attempt α) : Reader α
  | .object members isComplete =>
      (build (.object members) <* declaration.checkMembers isComplete [] 0 members).toExcept
  | .array items =>
      (build (.array declaration items) <*
        declaration.checkItems (surplus items) items).toExcept
  | draft => .error (.ofUnexpected draft declaration.title)

def read (declaration : Declaration) (build : Record → Attempt α) : Reader α :=
  declaration.readWith (fun _ => .malformed) build

/-- Reads a record from a draft that is known to be whole, so that surplus items can be
counted. -/
def readAhead (declaration : Declaration) (build : Record → Attempt α) : Reader α :=
  declaration.readWith
    (fun items => .invalidLength items.length
      (countElements declaration.fields.length ++ " in sequence"))
    build

end Declaration

end AlgorithmPolicy.Json

import AlgorithmPolicy.Configuration
import AlgorithmPolicy.Level.Encoding
import AlgorithmPolicy.Toml.Document

namespace AlgorithmPolicy.Configuration

/-! Configurations are written in TOML. A document may hold a table for the policy and
one for the levels, and only what is declared in them. Instead of a table there may be
an array with the values of the first fields in the order of their declaration; whatever
the array holds beyond them is not looked at. -/

/-! ## Records -/

/-- The values of fields, by name. -/
abbrev Fields : Type := List (String × Toml.Value)

/-- The fields of a value that is a record with the given field names. -/
def fields? (names : List String) : Toml.Value → Option Fields
  | .table _ entries =>
      if entries.all fun (name, _) => names.contains name then some entries else none
  | .array items => some (names.zip items)
  | .tables last before =>
      some (names.zip ((last :: before).reverse.map (.table .header)))
  | .string _ | .scalar => none

/-- Reads a field that may be left out. -/
def optional {α : Type} (read : Toml.Value → Option α) (fields : Fields) (name : String) :
    Option (Option α) :=
  match fields.lookup name with
  | some value => (read value).map some
  | none => some none

/-! ## Values -/

def string? : Toml.Value → Option String
  | .string text => some text
  | _ => none

def isEmpty : Toml.Value → Bool
  | .table _ [] => true
  | .array [] => true
  | _ => false

/-- A level is a string, or the name of the only entry of a table, which is empty. -/
def level? : Toml.Value → Option Level
  | .string text => Labelled.ofLabel? text
  | .table _ [(name, value)] => if isEmpty value then Labelled.ofLabel? name else none
  | _ => none

/-! ## Sections -/

def policyPath? (value : Toml.Value) : Option (Option String) := do
  let fields ← fields? ["path"] value
  optional string? fields "path"

def levels? (value : Toml.Value) : Option LevelSection := do
  let fields ← fields? (LevelSection.rootField :: Category.all.map Category.label) value
  let level (name : String) := optional level? fields name
  return LevelSection.ofLevels
    (← level LevelSection.rootField)
    (← level Category.digestAlgorithms.label)
    (← level Category.signatureAlgorithms.label)
    (← level Category.signatureMinKeySize.label)
    (← level Category.algorithmExpiration.label)
    (← level Category.expirationAfterPolicyUpdate.label)

def ofEntries? (entries : Toml.Entries) : Option Configuration := do
  let fields ← fields? ["policy", "levels"] (.table .header entries)
  let policyPath ← optional policyPath? fields "policy"
  let levels ← optional levels? fields "levels"
  return {
    policyPath := policyPath.join
    levels := levels.getD .empty
    directory := none }

/-- Reads and checks a configuration. -/
def parse (text : String) : Except LoadError Configuration :=
  match (Toml.read text).bind ofEntries? with
  | none => .error (.malformedConfiguration text)
  | some configuration => do
      configuration.check
      return configuration

def toJson (configuration : Configuration) : Json :=
  .object [
    ("policy", .object [("path", .ofOption .string configuration.policyPath)]),
    ("levels", configuration.levels.toJson)]

end AlgorithmPolicy.Configuration

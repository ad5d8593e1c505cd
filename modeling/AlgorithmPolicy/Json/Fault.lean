import AlgorithmPolicy.Json.Number
import AlgorithmPolicy.Text.Quoted

namespace AlgorithmPolicy.Json

/-! Why a text cannot be read as a value of some type. Only faults against the type have
a message; whatever breaks the rules of JSON itself, and a text that is not what its
type asks for, such as an impossible date, is merely malformed. -/

/-- What is found where something else is expected. -/
inductive Found
  | null
  | bool (value : Bool)
  | integer (value : Int)
  | floating (text : String)
  | string (text : String)
  | array
  | object
  deriving DecidableEq

namespace Found

/-- What a draft shows at its start; `none` if that cannot be taken up. -/
def ofDraft? : Draft → Option Found
  | .null => some .null
  | .bool value => some (.bool value)
  | .number literal =>
      match literal.integer? with
      | some value => some (.integer value)
      | none => literal.floatingText?.map .floating
  | .string text => some (.string text)
  | .array _ => some .array
  | .object _ _ => some .object
  | .halfPair | .deep _ | .broken => none

def message : Found → String
  | .null => "null"
  | .bool true => "boolean `true`"
  | .bool false => "boolean `false`"
  | .integer value => "integer `" ++ Decimal.ofInt value ++ "`"
  | .floating text => "floating point `" ++ text ++ "`"
  | .string text => "string " ++ Text.quoted text
  | .array => "sequence"
  | .object => "map"

end Found

inductive Fault
  | malformed
  | missingField (name : String)
  | unknownField (name : String) (known : List String)
  | duplicateField (name : String)
  | unknownVariant (name : String) (known : List String)
  | invalidType (found : Found) (expected : String)
  | invalidValue (found : Found) (expected : String)
  | invalidLength (length : Nat) (expected : String)
  deriving DecidableEq

namespace Fault

/-- The fault of a draft that is not of the expected type. -/
def ofUnexpected (draft : Draft) (expected : String) : Fault :=
  match Found.ofDraft? draft with
  | some found => .invalidType found expected
  | none => .malformed

def between (name : String) : String :=
  "`" ++ name ++ "`"

def alternatives : List String → String
  | [] => ""
  | [only] => "expected " ++ between only
  | [first, second] => "expected " ++ between first ++ " or " ++ between second
  | names => "expected one of " ++ ", ".intercalate (names.map between)

def message? : Fault → Option String
  | .malformed => none
  | .missingField name => some ("missing field " ++ between name)
  | .unknownField name known =>
      some ("unknown field " ++ between name ++ ", " ++ alternatives known)
  | .duplicateField name => some ("duplicate field " ++ between name)
  | .unknownVariant name known =>
      some ("unknown variant " ++ between name ++ ", " ++ alternatives known)
  | .invalidType found expected =>
      some ("invalid type: " ++ found.message ++ ", expected " ++ expected)
  | .invalidValue found expected =>
      some ("invalid value: " ++ found.message ++ ", expected " ++ expected)
  | .invalidLength length expected =>
      some ("invalid length " ++ Decimal.ofNat length ++ ", expected " ++ expected)

end Fault

end AlgorithmPolicy.Json

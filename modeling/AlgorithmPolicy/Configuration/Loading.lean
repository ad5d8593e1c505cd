import AlgorithmPolicy.Configuration.Reader
import AlgorithmPolicy.Policy.Encoding

namespace AlgorithmPolicy

/-! Loading configurations and policies from files. Files are not trusted: their paths,
sizes and encodings are checked before they are read. -/

/-! ## Files -/

/-- The text of a file that has no more than so many bytes. -/
def textOfFile (subject : String) (limit : Nat) (file : Lookup) : Except LoadError String :=
  match file.content with
  | .error failure => .error (.unreadable failure)
  | .ok bytes =>
      if limit < bytes.size then .error (.invalid (.fileTooLarge subject))
      else
        match String.fromUTF8? bytes with
        | some text => .ok text
        | none => .error (.invalid (.notUtf8 subject))

variable {m : Type → Type} [Monad m]

/-- Loads what is at a path and takes it for what it should be. -/
def loadFile {α : Type} (look : FileSystem m) (subject path : String) (limit : Nat)
    (parse : String → Except LoadError α) : m (Except LoadError α) :=
  match Path.check subject path with
  | .error error => pure (.error error)
  | .ok _ => do return textOfFile subject limit (← look path) >>= parse

/-! ## Policies -/

namespace Policy

def fileLimit : Nat := 8388608

def parseFile (text : String) : Except LoadError Policy :=
  (parse text).mapError .malformedPolicy

def load (look : FileSystem m) (path : String) : m (Except LoadError Policy) :=
  loadFile look "policy" path fileLimit parseFile

end Policy

/-! ## Configurations -/

namespace Configuration

def fileLimit : Nat := 1048576

def defaultPath : String := "cryptosuite.toml"

/-- The environment variable that may name the configuration file. -/
def variableName : String := "CRYPTOSUITE_CONFIG"

/-- The path of the configuration file: the path that is given, else the value of the
variable if that is a text, else the default. -/
def choosePath (given : Option String) (variableValue : Option ByteArray) :
    Except LoadError String :=
  match given with
  | some path => .ok path
  | none =>
      match variableValue.bind String.fromUTF8? with
      | some path =>
          if Path.lengthLimit < path.utf8ByteSize then .error (.invalid (.pathTooLong "config"))
          else .ok path
      | none => .ok defaultPath

def loadPath (look : FileSystem m) (path : String) : m (Except LoadError Configuration) := do
  let loaded ← loadFile look "config" path fileLimit parse
  return loaded.map fun configuration =>
    { configuration with directory := Path.parent? path }

def load (look : FileSystem m) (given : Option String) (variableValue : Option ByteArray) :
    m (Except LoadError Configuration) :=
  match choosePath given variableValue with
  | .error error => pure (.error error)
  | .ok path => loadPath look path

/-- Loads the configuration, or takes the initial one if no file is named and there is
none at the default path. -/
def loadOrInitial (look : FileSystem m) (given : Option String)
    (variableValue : Option ByteArray) : m (Except LoadError Configuration) := do
  if given.isNone ∧ variableValue.isNone then
    if (← look defaultPath).isPresent then load look given variableValue
    else return .ok initial
  else load look given variableValue

end Configuration

end AlgorithmPolicy

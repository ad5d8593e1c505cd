import AlgorithmPolicy.Json.Fault
import AlgorithmPolicy.FileSystem
import AlgorithmPolicy.Level
import AlgorithmPolicy.Path

namespace AlgorithmPolicy

/-! A configuration says where the policy is and at which levels findings are reported. -/

structure Configuration where
  policyPath : Option String
  levels : LevelSection
  /-- The directory of the file that the configuration comes from. -/
  directory : Option String

/-! ## Errors -/

/-- Why something that can be read is not accepted. -/
inductive Invalidity
  | pathTooLong (subject : String)
  | segmentTooLong (subject : String)
  | emptyPolicyPath
  | fileTooLarge (subject : String)
  | notUtf8 (subject : String)
  deriving DecidableEq

def Invalidity.message : Invalidity → String
  | .pathTooLong subject => subject ++ " path exceeds max length"
  | .segmentTooLong subject => subject ++ " path component too long"
  | .emptyPolicyPath => "policy.path must be non-empty"
  | .fileTooLarge subject => subject ++ " file exceeds size limit"
  | .notUtf8 subject => subject ++ " file must be utf-8"

inductive LoadError
  | unreadable (failure : ReadFailure)
  | malformedConfiguration (text : String)
  | malformedPolicy (fault : Json.Fault)
  | invalid (cause : Invalidity)
  deriving DecidableEq

/-- What is wrong with a text that is no configuration is for the reader of TOML to explain, in
words of its own. -/
def LoadError.message (explain : String → String) : LoadError → String
  | .unreadable failure => "config io error: " ++ failure.message
  | .malformedConfiguration text => "config parse error: " ++ explain text
  | .malformedPolicy fault =>
      "config parse error: " ++ fault.message?.getD "malformed policy"
  | .invalid cause => "invalid config: " ++ cause.message

def Path.check (subject path : String) : Except LoadError Unit :=
  match Path.excess? path with
  | some .path => .error (.invalid (.pathTooLong subject))
  | some .segment => .error (.invalid (.segmentTooLong subject))
  | none => .ok ()

namespace Configuration

def initial : Configuration where
  policyPath := none
  levels := .empty
  directory := none

def check (configuration : Configuration) : Except LoadError Unit :=
  match configuration.policyPath with
  | none => .ok ()
  | some path =>
      if path = "" then .error (.invalid .emptyPolicyPath) else Path.check "policy.path" path

/-- Where the policy is, seen from the working directory. A relative path starts at the
directory of the configuration. -/
def resolvedPolicyPath (configuration : Configuration) : Option String :=
  configuration.policyPath.map fun path =>
    match configuration.directory with
    | some directory => if Path.isRelative path then Path.join directory path else path
    | none => path

def exampleText : String :=
  "[policy]\n" ++
  "path = \"policies/etsi-119-312.json\"\n" ++
  "\n" ++
  "[levels]\n" ++
  "default = \"fail\"\n" ++
  "digest_algorithms = \"warn\"\n" ++
  "signature_algorithms = \"fail\"\n" ++
  "signature_min_key_size = \"fail\"\n" ++
  "algorithm_expiration = \"fail\"\n" ++
  "expiration_after_policy_update = \"warn\"\n"

end Configuration

end AlgorithmPolicy

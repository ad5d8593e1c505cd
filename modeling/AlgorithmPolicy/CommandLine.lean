import AlgorithmPolicy.CommandLine.Arguments
import AlgorithmPolicy.CommandLine.Failure
import AlgorithmPolicy.Configuration.Loading
import AlgorithmPolicy.Diagnostic.Encoding
import AlgorithmPolicy.Fingerprint

namespace AlgorithmPolicy.CommandLine

/-! Running commands. A command asks its surroundings for files and for the time; all it
does is to write text and to exit with a status. -/

/-- What a command finds around it. Its arguments are texts, and so is every path: a path with
`--config` or `--policy` that is no Unicode text, which a system may allow, has no counterpart
here. The variable may hold any bytes. -/
structure Surroundings (m : Type → Type) where
  look : FileSystem m
  /-- The value of the variable that may name the configuration file. -/
  variableValue : Option ByteArray
  now : m Instant
  /-- What the reader of TOML says against a text that is no configuration. -/
  explain : String → String

structure Output where
  status : UInt8
  standardOutput : String
  standardError : String
  deriving DecidableEq

/-- What a command writes to its output, and its status. -/
structure Result where
  status : UInt8
  lines : String
  deriving DecidableEq

def lineOf (text : String) : String :=
  text ++ "\n"

variable {m : Type → Type}

/-- What comes of a command. A failure is told after what was reported before. -/
def Surroundings.output (surroundings : Surroundings m) (diagnostics : String) :
    Except Failure Result → Output
  | .ok result => ⟨result.status, result.lines, diagnostics⟩
  | .error failure => ⟨1, "", diagnostics ++ lineOf (failure.message surroundings.explain)⟩

/-! ## Suites -/

variable [Monad m]

def standardRegistry : Registry :=
  Directory.standard.registry

def loadPolicy (look : FileSystem m) (path : String) : m (Except Failure Policy) := do
  return (← Policy.load look path).mapError (.policy path)

/-- The policy and the levels that a source leads to. A policy that is named goes before
the one of the configuration. -/
def loadSource (surroundings : Surroundings m) (source : Source) :
    m (Except Failure (Policy × Levels)) := do
  match ← Configuration.loadOrInitial surroundings.look source.configuration
      surroundings.variableValue with
  | .error error => return .error (.configuration error)
  | .ok configuration =>
      match source.policy.or configuration.resolvedPolicyPath with
      | none => return .error .noPolicy
      | some path =>
          return (← loadPolicy surroundings.look path).map fun policy =>
            (policy, configuration.levels.toLevels)

def diagnosticLines (policy : Policy) : String :=
  String.join ((Suite.diagnostics standardRegistry policy).map fun diagnostic =>
    lineOf diagnostic.toJson.compact)

/-- Answers from the suite that a source leads to. What is reported while the suite is
built is written if that is asked for. -/
def withSuite (surroundings : Surroundings m) (isVerbose : Bool) (source : Source)
    (answer : Suite → Except Failure Result) : m Output := do
  match ← loadSource surroundings source with
  | .error failure => return surroundings.output "" (.error failure)
  | .ok (policy, levels) =>
      let suite := (Suite.ofPolicy standardRegistry policy).withLevels levels
      return surroundings.output (if isVerbose then diagnosticLines policy else "") (answer suite)

/-! ## Inspecting -/

def inspectSuite (fingerprintOnly : Bool) (suite : Suite) : Except Failure Result :=
  if fingerprintOnly then
    match suite.fingerprint with
    | .ok fingerprint => .ok ⟨0, lineOf fingerprint.display⟩
    | .error unwritable => .error (.fingerprint unwritable)
  else
    match suite.snapshot.toJson with
    | .ok snapshot => .ok ⟨0, lineOf snapshot.indented⟩
    | .error unwritable => .error (.unwritableSnapshot unwritable)

/-! ## Checking -/

def reportText (subject moment : String) (report : Report) : String :=
  let verdict := if report.isAcceptable then "acceptable" else "not acceptable"
  subject ++ " at " ++ moment ++ ": " ++ verdict ++
    String.join (report.violations.map fun violation =>
      "\n  " ++ violation.level.label ++ " " ++ violation.category.label ++ ": " ++
        violation.message)

def reportJson (subject moment : String) (report : Report) : Json :=
  .object [
    ("subject", .string subject),
    ("at", .string moment),
    ("acceptable", .bool report.isAcceptable),
    ("highest_level", .ofOption (fun level => .string level.label) report.highestLevel?),
    ("violations", report.violationsToJson)]

/-- A check that finds a failure has a status of its own. -/
def reportStatus (report : Report) : UInt8 :=
  if report.isAcceptable then 0 else 2

def reportResult (format : Format) (subject : String) (moment : Instant) (report : Report) :
    Except Failure Result :=
  match Rfc3339.write moment with
  | .error unwritable => .error (.unwritableMoment unwritable)
  | .ok written =>
      let text :=
        match format with
        | .text => reportText subject written report
        | .json => (reportJson subject written report).indented
      .ok ⟨reportStatus report, lineOf text⟩

/-- The moment that a text denotes; without a text it is the present one. -/
def momentOf (surroundings : Surroundings m) : Option String → m (Except Failure Instant)
  | none => do return .ok (← surroundings.now)
  | some text =>
      match Rfc3339.read text with
      | some moment => pure (.ok moment)
      | none => pure (.error (.moment text))

/-- Resolves what is to be checked, then reads the moment, then loads the suite. -/
def runCheck {α : Type} (surroundings : Surroundings m) (isVerbose : Bool) (source : Source)
    (resolved : Except Failure α) (moment : Option String)
    (answer : α → Instant → Suite → Except Failure Result) : m Output := do
  match resolved with
  | .error failure => return surroundings.output "" (.error failure)
  | .ok subject =>
      match ← momentOf surroundings moment with
      | .error failure => return surroundings.output "" (.error failure)
      | .ok moment => withSuite surroundings isVerbose source (answer subject moment)

def digestResult (format : Format) (digest : Digest) (moment : Instant) (suite : Suite) :
    Except Failure Result :=
  reportResult format digest.name moment (suite.checkDigest digest moment)

def signatureResult (format : Format) (keySize : UInt32) (signature : Signature)
    (moment : Instant) (suite : Suite) : Except Failure Result :=
  reportResult format (signature.name ++ " (" ++ Decimal.ofNat keySize.toNat ++ " bits)")
    moment (suite.checkSignature signature keySize moment)

/-! ## Configurations -/

/-- Loads a configuration, and the policy that it names. -/
def validateConfiguration (surroundings : Surroundings m) (path : Option String) :
    m (Except Failure Result) := do
  match ← Configuration.load surroundings.look path surroundings.variableValue with
  | .error error => return .error (.configuration error)
  | .ok configuration =>
      match configuration.resolvedPolicyPath with
      | none => return .ok ⟨0, lineOf "config ok"⟩
      | some path =>
          return (← loadPolicy surroundings.look path).map fun _ => ⟨0, lineOf "config ok"⟩

/-! ## Commands -/

def runCommand (surroundings : Surroundings m) (isVerbose : Bool) : Command → m Output
  | .inspect source fingerprintOnly =>
      withSuite surroundings isVerbose source (inspectSuite fingerprintOnly)
  | .checkDigest source algorithm moment format =>
      runCheck surroundings isVerbose source (resolveDigest algorithm) moment
        (digestResult format)
  | .checkSignature source algorithm keySize moment format =>
      runCheck surroundings isVerbose source (resolveSignature algorithm) moment
        (signatureResult format keySize)
  | .validateConfiguration path => do
      return surroundings.output "" (← validateConfiguration surroundings path)
  | .exampleConfiguration => return surroundings.output "" (.ok ⟨0, Configuration.exampleText⟩)

def versionText : String :=
  "cryptosuite 0.1.0"

def usageText : String :=
  "Usage: cryptosuite [--version] [--verbose] COMMAND\n" ++
  "\n" ++
  "Commands:\n" ++
  "  inspect          Print the derived views of a policy\n" ++
  "  check digest     Check a digest algorithm\n" ++
  "  check signature  Check a signature algorithm and key size\n" ++
  "  config validate  Validate a configuration file and the policy it names\n" ++
  "  config example   Print a canonical example configuration\n"

def runRequest (surroundings : Surroundings m) (request : Request) : m Output :=
  if request.showsVersion then pure ⟨0, lineOf versionText, ""⟩
  else
    match request.command with
    | none => pure ⟨0, lineOf usageText, ""⟩
    | some command => runCommand surroundings request.isVerbose command

def run (surroundings : Surroundings m) (arguments : List String) : m Output :=
  match parse arguments with
  | .error .help => pure ⟨0, usageText, ""⟩
  | .error .usage => pure ⟨2, "", usageText⟩
  | .ok request => runRequest surroundings request

end AlgorithmPolicy.CommandLine

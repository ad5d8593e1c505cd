import AlgorithmPolicy.Json.Reader

namespace AlgorithmPolicy.CommandLine

/-! The arguments of the command line. -/

/-! ## Requests -/

inductive Format
  | text
  | json
  deriving DecidableEq

instance : Labelled Format where
  all := [.text, .json]
  label
    | .text => "text"
    | .json => "json"
  mem_all format := by cases format <;> decide
  labels_nodup := by decide

/-- Where the policy and the levels come from. -/
structure Source where
  configuration : Option String
  policy : Option String
  deriving DecidableEq

inductive Command
  | inspect (source : Source) (fingerprintOnly : Bool)
  | checkDigest (source : Source) (algorithm : String) (moment : Option String)
      (format : Format)
  | checkSignature (source : Source) (algorithm : String) (keySize : UInt32)
      (moment : Option String) (format : Format)
  | validateConfiguration (path : Option String)
  | exampleConfiguration
  deriving DecidableEq

structure Request where
  showsVersion : Bool
  isVerbose : Bool
  command : Option Command
  deriving DecidableEq

/-- Why arguments are no request. -/
inductive Refusal
  /-- Help is asked for instead. -/
  | help
  | usage
  deriving DecidableEq

/-! ## Grammars

A command may have subcommands, and each has a grammar with flags and options of its own.
Two flags are understood everywhere. Between two subcommands a flag or an option stands
once at most. -/

structure Grammar where
  flags : List String
  /-- The options, and what values they take. -/
  options : List (String × (String → Bool))
  subcommands : List String

structure Scan where
  flags : List String
  options : List (String × String)
  /-- The subcommand and the arguments behind it. -/
  subcommand : Option (String × List String)

namespace Scan

def empty : Scan :=
  ⟨[], [], none⟩

def has (scan : Scan) (flag : String) : Bool :=
  scan.flags.contains flag

def value? (scan : Scan) (option : String) : Option String :=
  scan.options.lookup option

end Scan

namespace Grammar

def versionFlag : String := "version"

def verboseFlag : String := "verbose"

/-- What an argument that starts with a dash may be. -/
inductive Dashed
  | long (name : String) (attached : Option String)
  | shortHelp
  | unknown

/-- An argument as an option; a single dash is a word. -/
def dashed? (argument : String) : Option Dashed :=
  match argument.toList with
  | ['-'] => none
  | '-' :: '-' :: characters =>
      let name := String.ofList (characters.takeWhile (· ≠ '='))
      match characters.dropWhile (· ≠ '=') with
      | [] => some (.long name none)
      | _ :: value => some (.long name (some (String.ofList value)))
  | '-' :: 'h' :: _ => some .shortHelp
  | '-' :: _ => some .unknown
  | _ => none

def addFlag (scan : Scan) (name : String) : Except Refusal Scan :=
  if scan.has name then .error .usage else .ok { scan with flags := name :: scan.flags }

def addOption (scan : Scan) (name value : String) (accepts : String → Bool) :
    Except Refusal Scan :=
  if (scan.value? name).isSome ∨ !accepts value then .error .usage
  else .ok { scan with options := (name, value) :: scan.options }

def scan (grammar : Grammar) (found : Scan) : List String → Except Refusal Scan
  | [] => .ok found
  | argument :: rest =>
      if argument = "--" then
        if rest.isEmpty then .ok found else .error .usage
      else if grammar.subcommands.contains argument then
        .ok { found with subcommand := some (argument, rest) }
      else
        match dashed? argument with
        | some .shortHelp => .error .help
        | some (.long name attached) =>
            match grammar.options.lookup name, attached, rest with
            | some accepts, some value, rest =>
                match addOption found name value accepts with
                | .ok found => grammar.scan found rest
                | .error refusal => .error refusal
            | some accepts, none, value :: rest =>
                if (dashed? value).isSome then .error .usage
                else
                  match addOption found name value accepts with
                  | .ok found => grammar.scan found rest
                  | .error refusal => .error refusal
            | some _, none, [] => .error .usage
            | none, some _, _ => .error .usage
            | none, none, rest =>
                if name = "help" then .error .help
                else if grammar.flags.contains name ∨ name = versionFlag ∨
                    name = verboseFlag then
                  match addFlag found name with
                  | .ok found => grammar.scan found rest
                  | .error refusal => .error refusal
                else .error .usage
        | _ => .error .usage

end Grammar

/-! ## Values of options -/

def isPath (value : String) : Bool :=
  value ≠ ""

def isAny (_ : String) : Bool :=
  true

/-- A key size is written in decimal digits, perhaps behind a sign. -/
def keySize? (value : String) : Option UInt32 :=
  let (isNegative, digits) :=
    match value.toList with
    | '-' :: digits => (true, digits)
    | '+' :: digits => (false, digits)
    | digits => (false, digits)
  if digits.isEmpty ∨ !digits.all Char.isDigit then none
  else
    let number := Decimal.value digits
    if 4294967296 ≤ number ∨ (isNegative ∧ number ≠ 0) then none
    else some (UInt32.ofNat number)

def format? (value : String) : Option Format :=
  Labelled.ofLabel? value

/-! ## Commands -/

def sourceOptions : List (String × (String → Bool)) :=
  [("config", isPath), ("policy", isPath)]

def checkOptions : List (String × (String → Bool)) :=
  [("algorithm", isAny), ("at", isAny), ("format", fun value => (format? value).isSome)] ++
    sourceOptions

def source (scan : Scan) : Source :=
  ⟨scan.value? "config", scan.value? "policy"⟩

def checkFormat (scan : Scan) : Format :=
  ((scan.value? "format").bind format?).getD .text

def root : Grammar :=
  ⟨[], [], ["inspect", "check", "config"]⟩

def inspect : Grammar :=
  ⟨["fingerprint"], sourceOptions, []⟩

def check : Grammar :=
  ⟨[], [], ["digest", "signature"]⟩

def checkDigest : Grammar :=
  ⟨[], checkOptions, []⟩

def checkSignature : Grammar :=
  ⟨[], ("key-size", fun value => (keySize? value).isSome) :: checkOptions, []⟩

def config : Grammar :=
  ⟨[], [], ["validate", "example"]⟩

def validate : Grammar :=
  ⟨[], [("config", isPath)], []⟩

def exampleGrammar : Grammar :=
  ⟨[], [], []⟩

def required {α : Type} : Option α → Except Refusal α
  | some value => .ok value
  | none => .error .usage

/-- The command that arguments spell, with everything found on the way to it. -/
def parseCommand (arguments : List String) : Except Refusal (List Scan × Option Command) := do
  let top ← root.scan .empty arguments
  match top.subcommand with
  | none => return ([top], none)
  | some ("inspect", rest) =>
      let scan ← inspect.scan .empty rest
      return ([top, scan], some (.inspect (source scan) (scan.has "fingerprint")))
  | some ("check", rest) =>
      let middle ← check.scan .empty rest
      match middle.subcommand with
      | some ("digest", rest) =>
          let scan ← checkDigest.scan .empty rest
          let algorithm ← required (scan.value? "algorithm")
          return ([top, middle, scan], some (.checkDigest (source scan) algorithm
            (scan.value? "at") (checkFormat scan)))
      | some ("signature", rest) =>
          let scan ← checkSignature.scan .empty rest
          let algorithm ← required (scan.value? "algorithm")
          let keySize ← required ((scan.value? "key-size").bind keySize?)
          return ([top, middle, scan], some (.checkSignature (source scan) algorithm keySize
            (scan.value? "at") (checkFormat scan)))
      | _ => .error .usage
  | some (_, rest) =>
      let middle ← config.scan .empty rest
      match middle.subcommand with
      | some ("validate", rest) =>
          let scan ← validate.scan .empty rest
          return ([top, middle, scan],
            some (.validateConfiguration (scan.value? "config")))
      | some (_, rest) =>
          let scan ← exampleGrammar.scan .empty rest
          return ([top, middle, scan], some .exampleConfiguration)
      | none => .error .usage

def parse (arguments : List String) : Except Refusal Request := do
  let (scans, command) ← parseCommand arguments
  return {
    showsVersion := scans.any (·.has Grammar.versionFlag)
    isVerbose := scans.any (·.has Grammar.verboseFlag)
    command }

end AlgorithmPolicy.CommandLine

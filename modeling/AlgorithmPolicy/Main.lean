import AlgorithmPolicy.CommandLine
import Std.Time.DateTime.Timestamp

/-! The program: its surroundings are those of the process. -/

namespace AlgorithmPolicy.CommandLine

/-! ## Files -/

/-- The number and the description that an error of the system carries. -/
def systemError? : IO.Error → Option (UInt32 × String)
  | .alreadyExists _ code details | .invalidArgument _ code details
  | .permissionDenied _ code details | .resourceExhausted _ code details
  | .inappropriateType _ code details | .noSuchThing _ code details
  | .noFileOrDirectory _ code details | .interrupted _ code details
  | .otherError code details | .resourceBusy code details | .resourceVanished code details
  | .unsupportedOperation code details | .hardwareFault code details
  | .unsatisfiedConstraints code details | .illegalOperation code details
  | .protocolError code details | .timeExpired code details => some (code, details)
  | .unexpectedEof | .userError _ => none

def readFailureOf (error : IO.Error) : ReadFailure :=
  match systemError? error with
  | some (2, _) => .notFound
  | some (20, _) => .notDirectory
  | some (21, _) => .isDirectory
  | some (36, _) => .nameTooLong
  | some (code, details) => .other (details ++ " (os error " ++ toString code ++ ")")
  | none => .other (toString error)

def leadsSomewhere (path : String) : IO Bool := do
  try
    discard (IO.FS.realPath path)
    return true
  catch _ => return false

def contentAt (path : String) : IO (Except ReadFailure ByteArray) := do
  try
    -- Errors of a handle carry the numbers of the system; those of `readBinFile` are negated.
    let file ← IO.FS.Handle.mk path .read
    return .ok (← file.readBinToEnd)
  catch error => return .error (readFailureOf error)

/-- What is there may be unreadable, and what cannot be read need not be there: that a path
leads somewhere is asked apart from its content. -/
def lookUp (path : String) : IO Lookup := do
  if path.toList.contains '\x00' then return .absent .nulCharacter
  let isPresent ← leadsSomewhere path
  match ← contentAt path with
  | .ok bytes => return .present (.ok bytes)
  | .error failure => return if isPresent then .present (.error failure) else .absent failure

/-! ## The variable -/

/-- The value of a variable in the environment of a process, whose entries end with NUL. -/
def valueIn? (name : String) (environment : List UInt8) : Option ByteArray :=
  (environment.splitOn 0).findSome? fun entry =>
    ((name ++ "=").toUTF8.toList.isPrefixOf? entry).map fun value => ⟨value.toArray⟩

example : valueIn? "B" [65, 61, 0, 66, 61, 255, 0] = some ⟨#[255]⟩ := by
  decide +kernel

/-- The bytes of a variable; where the system does not show them, those of its text. -/
def valueOf? (name : String) : IO (Option ByteArray) := do
  match ← contentAt "/proc/self/environ" with
  | .ok environment => return valueIn? name environment.toList
  | .error _ => return (← IO.getEnv name).map String.toUTF8

/-! ## The process -/

def presentInstant : IO Instant := do
  let nanoseconds := (← Std.Time.Timestamp.now).toNanosecondsSinceUnixEpoch.val
  match Instant.ofUnix? (nanoseconds / 1000000000) (nanoseconds % 1000000000).toNat .utc with
  | some instant => return instant
  | none => throw (.userError "the present time lies outside of the calendar")

def processSurroundings : IO (Surroundings IO) := do
  return {
    look := lookUp
    variableValue := ← valueOf? Configuration.variableName
    now := presentInstant
    explain := fun _ => "malformed configuration" }

end AlgorithmPolicy.CommandLine

open AlgorithmPolicy.CommandLine in
def main (arguments : List String) : IO UInt32 := do
  let output ← run (← processSurroundings) arguments
  (← IO.getStdout).putStr output.standardOutput
  (← IO.getStderr).putStr output.standardError
  return output.status.toUInt32

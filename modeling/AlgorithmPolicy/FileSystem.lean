namespace AlgorithmPolicy

/-! What a file system answers when it is asked for the content of a file. -/

inductive ReadFailure
  | notFound
  | notDirectory
  | isDirectory
  | nameTooLong
  /-- A path with a NUL character names nothing. -/
  | nulCharacter
  | other (description : String)
  deriving DecidableEq

def ReadFailure.message : ReadFailure → String
  | .notFound => "No such file or directory (os error 2)"
  | .notDirectory => "Not a directory (os error 20)"
  | .isDirectory => "Is a directory (os error 21)"
  | .nameTooLong => "File name too long (os error 36)"
  | .nulCharacter => "file name contained an unexpected NUL byte"
  | .other description => description

/-- What is at a path. Something may be there that cannot be read. -/
inductive Lookup
  | absent (failure : ReadFailure)
  | present (content : Except ReadFailure ByteArray)

namespace Lookup

def isPresent : Lookup → Bool
  | .absent _ => false
  | .present _ => true

def content : Lookup → Except ReadFailure ByteArray
  | .absent failure => .error failure
  | .present content => content

end Lookup

/-- A file system is known by its answers, which may take effects to come by. -/
abbrev FileSystem (m : Type → Type) : Type := String → m Lookup

end AlgorithmPolicy

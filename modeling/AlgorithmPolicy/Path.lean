namespace AlgorithmPolicy.Path

/-! Paths are texts whose segments are parted by slashes. They are taken as they are
written: no segment is resolved. -/

/-- The parts of a text between its slashes, of which there is one at least. -/
def splitCharacters : List Char → List (List Char)
  | [] => [[]]
  | character :: rest =>
      if character = '/' then [] :: splitCharacters rest
      else
        match splitCharacters rest with
        | segment :: segments => (character :: segment) :: segments
        | [] => [[character]]

def segments (path : String) : List String :=
  (splitCharacters path.toList).map String.ofList

/-! ## Components

Empty segments and single dots say nothing about where a path leads, but for a slash or
dot at its start. The components of a path are its start and the segments that say
something. -/

def isIdle (segment : List Char) : Bool :=
  segment.isEmpty || segment == ['.']

/-- The start of a path that is no matter of its segments, and the rest. -/
def splitStart : List Char → List Char × List Char
  | '/' :: rest => (['/'], rest)
  | ['.'] => (['.'], [])
  | '.' :: '/' :: rest => (['.'], '/' :: rest)
  | text => ([], text)

def components (path : String) : List String :=
  let (start, rest) := splitStart path.toList
  let named := (splitCharacters rest).filter fun segment => !isIdle segment
  (if start.isEmpty then named else start :: named).map String.ofList

/-! ## Limits

A path and each of its components may only have so many bytes. -/

def lengthLimit : Nat := 4096

def segmentLimit : Nat := 255

inductive Excess
  | path
  | segment
  deriving DecidableEq

/-- The limit that a path exceeds. -/
def excess? (path : String) : Option Excess :=
  if lengthLimit < path.utf8ByteSize then some .path
  else if (components path).any fun component => segmentLimit < component.utf8ByteSize then
    some .segment
  else none

/-! ## Parents -/

def joinCharacters : List (List Char) → List Char
  | [] => []
  | [segment] => segment
  | segment :: segments => segment ++ '/' :: joinCharacters segments

/-- The directory in which a path lies; `none` if it names no place in a directory. -/
def parent? (path : String) : Option String :=
  let (start, rest) := splitStart path.toList
  match (splitCharacters rest).reverse.dropWhile isIdle with
  | [] => if start = ['.'] then some "" else none
  | _ :: reversed =>
      some (String.ofList
        (start ++ joinCharacters (reversed.dropWhile isIdle).reverse))

/-! ## Joining -/

def isRelative (path : String) : Bool :=
  path.toList.head? ≠ some '/'

/-- The place where a relative path leads from a directory. -/
def join (directory path : String) : String :=
  match directory.toList.getLast? with
  | none => path
  | some '/' => directory ++ path
  | some _ => directory ++ "/" ++ path

end AlgorithmPolicy.Path

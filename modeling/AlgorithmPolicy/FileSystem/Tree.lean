import AlgorithmPolicy.FileSystem
import AlgorithmPolicy.Path

namespace AlgorithmPolicy

/-! File systems that are held in memory. Paths start at the root of a tree, which is the
working directory; around it there is nothing. -/

inductive FileTree
  | file (bytes : ByteArray)
  | directory (entries : List (String × FileTree))

namespace FileTree

def empty : FileTree :=
  .directory []

/-! ## Building -/

def setEntry (name : String) (tree : FileTree) :
    List (String × FileTree) → List (String × FileTree)
  | [] => [(name, tree)]
  | (other, present) :: entries =>
      if other = name then (name, tree) :: entries
      else (other, present) :: setEntry name tree entries

def entriesOf : Option FileTree → List (String × FileTree)
  | some (.directory entries) => entries
  | _ => []

/-- Changes what is at the place that some names lead to, and makes the directories on
the way. -/
def alter (change : Option FileTree → FileTree) : List String → Option FileTree → FileTree
  | [], present => change present
  | name :: names, present =>
      let entries := entriesOf present
      .directory (setEntry name (alter change names (entries.lookup name)) entries)

/-- Adds a file, or a directory if the path ends with a slash. -/
def add (tree : FileTree) (path : String) (bytes : ByteArray) : FileTree :=
  let names := (Path.segments path).filter fun name => name ≠ "" ∧ name ≠ "."
  if path.toList.getLast? = some '/' then
    alter (fun present => .directory (entriesOf present)) names (some tree)
  else alter (fun _ => .file bytes) names (some tree)

/-! ## Looking up -/

/-- The number of bytes from which on a path is too long for the system. -/
def pathLimit : Nat := 4096

/-- Goes from a place to where segments lead. The directories around the place are given,
innermost first. -/
def walk : (around : List FileTree) → FileTree → List String → Except ReadFailure FileTree
  | _, place, [] => .ok place
  | _, .file _, _ :: _ => .error .notDirectory
  | around, .directory entries, segment :: segments =>
      if segment = "" ∨ segment = "." then walk around (.directory entries) segments
      else if segment = ".." then
        match around with
        | [] => walk [] empty segments
        | outer :: around => walk around outer segments
      else if Path.segmentLimit < segment.utf8ByteSize then .error .nameTooLong
      else
        match entries.lookup segment with
        | some inner => walk (.directory entries :: around) inner segments
        | none => .error .notFound

def find (tree : FileTree) (path : String) : Except ReadFailure FileTree :=
  if path.toList.contains '\x00' then .error .nulCharacter
  else if path = "" then .error .notFound
  else if pathLimit ≤ path.utf8ByteSize then .error .nameTooLong
  else
    walk [] (if Path.isRelative path then tree else empty) (Path.segments path)

def lookUp (tree : FileTree) (path : String) : Lookup :=
  match tree.find path with
  | .error failure => .absent failure
  | .ok (.file bytes) => .present (.ok bytes)
  | .ok (.directory _) => .present (.error .isDirectory)

end FileTree

end AlgorithmPolicy

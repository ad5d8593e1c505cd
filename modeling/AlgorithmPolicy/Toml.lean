namespace AlgorithmPolicy

/-! TOML documents, as far as configurations use them: of numbers, booleans and dates it is
only known that they stand where they stand. A table has a header of its own, is implied by
the header of a table inside it, is made by a key with dots, or stands between braces. Its
origin decides how it may be extended. -/

namespace Toml

inductive Origin
  | header
  | implied
  | dotted
  | inline
  deriving DecidableEq

inductive Value
  | scalar
  | string (text : String)
  | array (items : List Value)
  | table (origin : Origin) (entries : List (String × Value))
  /-- Tables with a common header, the last one first. -/
  | tables (last : List (String × Value)) (before : List (List (String × Value)))

abbrev Entries : Type := List (String × Value)

namespace Entries

def value? (entries : Entries) (key : String) : Option Value :=
  List.lookup key entries

def set (entries : Entries) (key : String) (value : Value) : Entries :=
  match entries with
  | [] => [(key, value)]
  | (other, present) :: rest =>
      if other = key then (key, value) :: rest else (other, present) :: Entries.set rest key value

/-! ## Pairs

A key with dots leads through tables that were made by such keys, or that are implied,
and makes those that are missing. But only a table made by such a key is extended, and
nothing is entered under a key that is taken. -/

def enter (entries : Entries) (key : String) (value : Value) : Option Entries :=
  match entries.value? key with
  | some _ => none
  | none => some (entries.set key value)

def enterPath (value : Value) : (path : List String) → Entries → Option Entries
  | [], _ => none
  | [key], entries => entries.enter key value
  | [table, key], entries =>
      match entries.value? table with
      | none => some (entries.set table (.table .dotted [(key, value)]))
      | some (.table .dotted inner) => do
          return entries.set table (.table .dotted (← Entries.enter inner key value))
      | some _ => none
  | table :: path, entries =>
      match entries.value? table with
      | none => do return entries.set table (.table .dotted (← enterPath value path []))
      | some (.table .dotted inner) => do
          return entries.set table (.table .dotted (← enterPath value path inner))
      | some (.table .implied inner) => do
          return entries.set table (.table .implied (← enterPath value path inner))
      | some (.tables last before) => do
          return entries.set table (.tables (← enterPath value path last) before)
      | some _ => none

/-! ## Headers

A header leads through tables of any origin but an inline one, and into the last of the
tables that have a common header. The table that it opens must be new, or implied so far. -/

def alter (change : Entries → Option Entries) : (path : List String) → Entries → Option Entries
  | [], entries => change entries
  | key :: path, entries =>
      match entries.value? key with
      | none => do return entries.set key (.table .implied (← alter change path []))
      | some (.table .inline _) => none
      | some (.table origin inner) => do
          return entries.set key (.table origin (← alter change path inner))
      | some (.tables last before) => do
          return entries.set key (.tables (← alter change path last) before)
      | some _ => none

def openTable (key : String) (entries : Entries) : Option Entries :=
  match entries.value? key with
  | none => some (entries.set key (.table .header []))
  | some (.table .implied inner) => some (entries.set key (.table .header inner))
  | some _ => none

def addTable (key : String) (entries : Entries) : Option Entries :=
  match entries.value? key with
  | none => some (entries.set key (.tables [] []))
  | some (.tables last before) => some (entries.set key (.tables [] (last :: before)))
  | some _ => none

end Entries

/-! ## Statements

A document is built up line by line. Pairs belong to the table of the last header. -/

inductive Statement
  | pair (path : List String) (value : Value)
  | header (path : List String)
  | arrayHeader (path : List String)

structure Building where
  entries : Entries
  current : List String

namespace Building

def step (building : Building) : Statement → Option Building
  | .pair path value => do
      let entries ← Entries.alter (Entries.enterPath value path) building.current
        building.entries
      return { building with entries }
  | .header path => do
      let key ← path.getLast?
      return ⟨← Entries.alter (Entries.openTable key) path.dropLast building.entries, path⟩
  | .arrayHeader path => do
      let key ← path.getLast?
      return ⟨← Entries.alter (Entries.addTable key) path.dropLast building.entries, path⟩

end Building

def entriesOfStatements (statements : List Statement) : Option Entries :=
  (statements.foldlM Building.step ⟨[], []⟩).map (·.entries)

/-- The entries of a table between braces. -/
def entriesOfPairs (pairs : List (List String × Value)) : Option Entries :=
  pairs.foldlM (fun entries (path, value) => Entries.enterPath value path entries) []

end Toml

end AlgorithmPolicy

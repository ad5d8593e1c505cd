import AlgorithmPolicy.Time.Instant

namespace AlgorithmPolicy

/-! A published policy: who issued it, and which algorithms it lists until when.
Nothing is interpreted here; entries name their algorithm as the publisher wrote
it, and absent statements stay absent. -/

namespace Policy

/-- An algorithm as a policy names it. -/
structure Identifier where
  name : String
  objectIdentifiers : List String
  uris : List String
  deriving DecidableEq

def Identifier.named (name : String) : Identifier :=
  ⟨name, [], []⟩

/-- A named range of numbers, open where a bound is absent. -/
structure Parameter where
  name : String
  min : Option Int64
  max : Option Int64
  deriving DecidableEq

/-- One statement that an algorithm is acceptable; without an end it holds forever. -/
structure Evaluation where
  validityEnd : Option Instant
  parameters : List Parameter
  usage : List String
  recommendation : Option String
  deriving DecidableEq

structure Entry where
  identifier : Identifier
  evaluations : List Evaluation
  information : List String
  deriving DecidableEq

structure Title where
  name : String
  objectIdentifier : Option String
  uri : Option String
  deriving DecidableEq

structure Publisher where
  name : String
  address : Option String
  uri : Option String
  deriving DecidableEq

end Policy

structure Policy where
  title : Option Policy.Title
  publisher : Option Policy.Publisher
  issueDate : Option Instant
  nextUpdate : Option Instant
  usage : Option String
  version : Option String
  language : Option String
  id : Option String
  entries : List Policy.Entry
  deriving DecidableEq

/-- A policy that says nothing about itself. -/
def Policy.ofEntries (entries : List Policy.Entry) : Policy where
  title := none
  publisher := none
  issueDate := none
  nextUpdate := none
  usage := none
  version := none
  language := none
  id := none
  entries := entries

end AlgorithmPolicy

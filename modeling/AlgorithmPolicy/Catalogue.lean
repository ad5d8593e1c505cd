import AlgorithmPolicy.Expiration
import AlgorithmPolicy.Registry

namespace AlgorithmPolicy

/-! A catalogue is a policy with its identifiers resolved and its defaults made
explicit: one record for each entry, in the order of the policy. Nothing is
merged or left out. -/

namespace Catalogue

structure Evaluation where
  validityEnd : Expiration
  parameters : List Policy.Parameter
  usage : List String
  recommendation : Option String
  deriving DecidableEq

namespace Evaluation

/-- An evaluation that states nothing but that the algorithm is acceptable. -/
def unconditional : Evaluation :=
  ⟨.unbounded, [], [], none⟩

def ofPolicy (evaluation : Policy.Evaluation) : Evaluation where
  validityEnd := .ofEnd evaluation.validityEnd
  parameters := evaluation.parameters
  usage := evaluation.usage
  recommendation := evaluation.recommendation

/-- The first parameter of a name. -/
def parameter? (evaluation : Evaluation) (name : String) : Option Policy.Parameter :=
  evaluation.parameters.find? fun parameter => parameter.name == name

end Evaluation

structure Record where
  identifierName : String
  objectIdentifiers : List String
  uris : List String
  resolved : Resolved
  evaluations : List Evaluation
  information : List String
  deriving DecidableEq

/-- An entry that lists no evaluations has one that is unconditional. -/
def Record.ofEntry (registry : Registry) (entry : Policy.Entry) : Record where
  identifierName := entry.identifier.name
  objectIdentifiers := entry.identifier.objectIdentifiers
  uris := entry.identifier.uris
  resolved := registry.resolve entry.identifier
  evaluations :=
    if entry.evaluations.isEmpty then [.unconditional]
    else entry.evaluations.map .ofPolicy
  information := entry.information

structure Metadata where
  policyName : Option String
  policyObjectIdentifier : Option String
  policyUri : Option String
  publisherName : Option String
  publisherAddress : Option String
  publisherUri : Option String
  issueDate : Option Instant
  nextUpdate : Option Instant
  usage : Option String
  version : String
  language : String
  id : Option String
  deriving DecidableEq

/-- A policy is its first version, and in English, unless it says otherwise. -/
def Metadata.ofPolicy (policy : Policy) : Metadata where
  policyName := policy.title.map (·.name)
  policyObjectIdentifier := policy.title.bind (·.objectIdentifier)
  policyUri := policy.title.bind (·.uri)
  publisherName := policy.publisher.map (·.name)
  publisherAddress := policy.publisher.bind (·.address)
  publisherUri := policy.publisher.bind (·.uri)
  issueDate := policy.issueDate
  nextUpdate := policy.nextUpdate
  usage := policy.usage
  version := policy.version.getD "1"
  language := policy.language.getD "en"
  id := policy.id

end Catalogue

structure Catalogue where
  records : List Catalogue.Record
  metadata : Catalogue.Metadata
  deriving DecidableEq

def Catalogue.ofPolicy (registry : Registry) (policy : Policy) : Catalogue where
  records := policy.entries.map (.ofEntry registry)
  metadata := .ofPolicy policy

end AlgorithmPolicy

import AlgorithmPolicy.Expiration.Encoding
import AlgorithmPolicy.Json.Record
import AlgorithmPolicy.Policy

namespace AlgorithmPolicy.Policy

/-! Policies in JSON. All records of a policy are closed: a policy that states something
unforeseen is refused, not misread. -/

open Json.Reader

/-! ## Writing -/

def Identifier.toJson (identifier : Identifier) : Json :=
  .object [
    ("name", .string identifier.name),
    ("object_identifiers", .ofStrings identifier.objectIdentifiers),
    ("uris", .ofStrings identifier.uris)]

def Parameter.toJson (parameter : Parameter) : Json :=
  .object [
    ("name", .string parameter.name),
    ("min", .ofOption (fun bound => .integer bound.toInt) parameter.min),
    ("max", .ofOption (fun bound => .integer bound.toInt) parameter.max)]

def Evaluation.toJson (evaluation : Evaluation) : Except UnwritableInstant Json := do
  let validityEnd ← Instant.optionToJson evaluation.validityEnd
  return .object [
    ("validity_end", validityEnd),
    ("parameters", .array (evaluation.parameters.map (·.toJson))),
    ("usage", .ofStrings evaluation.usage),
    ("recommendation", .ofOption .string evaluation.recommendation)]

def Entry.toJson (entry : Entry) : Except UnwritableInstant Json := do
  let evaluations ← entry.evaluations.mapM (·.toJson)
  return .object [
    ("identifier", entry.identifier.toJson),
    ("evaluations", .array evaluations),
    ("information", .ofStrings entry.information)]

def Title.toJson (title : Title) : Json :=
  .object [
    ("name", .string title.name),
    ("object_identifier", .ofOption .string title.objectIdentifier),
    ("uri", .ofOption .string title.uri)]

def Publisher.toJson (publisher : Publisher) : Json :=
  .object [
    ("name", .string publisher.name),
    ("address", .ofOption .string publisher.address),
    ("uri", .ofOption .string publisher.uri)]

def toJson (policy : Policy) : Except UnwritableInstant Json := do
  let issueDate ← Instant.optionToJson policy.issueDate
  let nextUpdate ← Instant.optionToJson policy.nextUpdate
  let entries ← policy.entries.mapM (·.toJson)
  return .object [
    ("policy_name", .ofOption (·.toJson) policy.title),
    ("publisher", .ofOption (·.toJson) policy.publisher),
    ("policy_issue_date", issueDate),
    ("next_update", nextUpdate),
    ("usage", .ofOption .string policy.usage),
    ("version", .ofOption .string policy.version),
    ("lang", .ofOption .string policy.language),
    ("id", .ofOption .string policy.id),
    ("algorithms", .array entries)]

/-! ## Reading -/

def Identifier.declaration : Json.Declaration where
  title := "struct AlgorithmIdentifier"
  fields := ["name", "object_identifiers", "uris"]
  isClosed := true

def Identifier.reader : Json.Reader Identifier :=
  declaration.read fun record =>
    Identifier.mk
      <$> record.required "name" string
      <*> record.defaulted "object_identifiers" [] (list string)
      <*> record.defaulted "uris" [] (list string)

def Parameter.declaration : Json.Declaration where
  title := "struct ParameterEntry"
  fields := ["name", "min", "max"]
  isClosed := true

def Parameter.reader : Json.Reader Parameter :=
  declaration.read fun record =>
    Parameter.mk
      <$> record.required "name" string
      <*> record.defaulted "min" none (nullable int64)
      <*> record.defaulted "max" none (nullable int64)

def Evaluation.declaration : Json.Declaration where
  title := "struct EvaluationEntry"
  fields := ["validity_end", "parameters", "usage", "recommendation"]
  isClosed := true

def Evaluation.reader : Json.Reader Evaluation :=
  declaration.read fun record =>
    Evaluation.mk
      <$> record.defaulted "validity_end" none (nullable instant)
      <*> record.defaulted "parameters" [] (list Parameter.reader)
      <*> record.defaulted "usage" [] (list string)
      <*> record.defaulted "recommendation" none (nullable string)

def Entry.declaration : Json.Declaration where
  title := "struct AlgorithmEntry"
  fields := ["identifier", "evaluations", "information"]
  isClosed := true

def Entry.reader : Json.Reader Entry :=
  declaration.read fun record =>
    Entry.mk
      <$> record.required "identifier" Identifier.reader
      <*> record.defaulted "evaluations" [] (list Evaluation.reader)
      <*> record.defaulted "information" [] (list string)

def Title.declaration : Json.Declaration where
  title := "struct PolicyName"
  fields := ["name", "object_identifier", "uri"]
  isClosed := true

def Title.reader : Json.Reader Title :=
  declaration.read fun record =>
    Title.mk
      <$> record.required "name" string
      <*> record.defaulted "object_identifier" none (nullable string)
      <*> record.defaulted "uri" none (nullable string)

def Publisher.declaration : Json.Declaration where
  title := "struct Publisher"
  fields := ["name", "address", "uri"]
  isClosed := true

def Publisher.reader : Json.Reader Publisher :=
  declaration.read fun record =>
    Publisher.mk
      <$> record.required "name" string
      <*> record.defaulted "address" none (nullable string)
      <*> record.defaulted "uri" none (nullable string)

def declaration : Json.Declaration where
  title := "struct PolicyTree"
  fields := ["policy_name", "publisher", "policy_issue_date", "next_update", "usage",
    "version", "lang", "id", "algorithms"]
  isClosed := true

def reader : Json.Reader Policy :=
  declaration.read fun record =>
    Policy.mk
      <$> record.defaulted "policy_name" none (nullable Title.reader)
      <*> record.defaulted "publisher" none (nullable Publisher.reader)
      <*> record.defaulted "policy_issue_date" none (nullable instant)
      <*> record.defaulted "next_update" none (nullable instant)
      <*> record.defaulted "usage" none (nullable string)
      <*> record.defaulted "version" none (nullable string)
      <*> record.defaulted "lang" none (nullable string)
      <*> record.defaulted "id" none (nullable string)
      <*> record.defaulted "algorithms" [] (list Entry.reader)

def parse (text : String) : Except Json.Fault Policy :=
  Json.Reader.ofText reader text

end AlgorithmPolicy.Policy

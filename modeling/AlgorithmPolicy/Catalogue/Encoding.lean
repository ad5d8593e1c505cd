import AlgorithmPolicy.Algorithm.Encoding
import AlgorithmPolicy.Catalogue
import AlgorithmPolicy.Policy.Encoding

namespace AlgorithmPolicy.Catalogue

/-! Catalogues in JSON. Their records are open, and little may be left out of them. -/

open Json.Reader

/-! ## Writing -/

def Evaluation.toJson (evaluation : Evaluation) : Except UnwritableInstant Json := do
  let validityEnd ← evaluation.validityEnd.toJson
  return .object [
    ("validity_end", validityEnd),
    ("parameters", .array (evaluation.parameters.map (·.toJson))),
    ("usage", .ofStrings evaluation.usage),
    ("recommendation", .ofOption .string evaluation.recommendation)]

def Record.toJson (record : Record) : Except UnwritableInstant Json := do
  let evaluations ← record.evaluations.mapM (·.toJson)
  return .object [
    ("identifier_name", .string record.identifierName),
    ("object_identifiers", .ofStrings record.objectIdentifiers),
    ("uris", .ofStrings record.uris),
    ("resolved", record.resolved.toJson),
    ("evaluations", .array evaluations),
    ("information", .ofStrings record.information)]

def Metadata.toJson (metadata : Metadata) : Except UnwritableInstant Json := do
  let issueDate ← Instant.optionToJson metadata.issueDate
  let nextUpdate ← Instant.optionToJson metadata.nextUpdate
  return .object [
    ("policy_name", .ofOption .string metadata.policyName),
    ("policy_object_identifier", .ofOption .string metadata.policyObjectIdentifier),
    ("policy_uri", .ofOption .string metadata.policyUri),
    ("publisher_name", .ofOption .string metadata.publisherName),
    ("publisher_address", .ofOption .string metadata.publisherAddress),
    ("publisher_uri", .ofOption .string metadata.publisherUri),
    ("policy_issue_date", issueDate),
    ("next_update", nextUpdate),
    ("usage", .ofOption .string metadata.usage),
    ("version", .string metadata.version),
    ("lang", .string metadata.language),
    ("id", .ofOption .string metadata.id)]

def recordsToJson (records : List Record) : Except UnwritableInstant Json :=
  .array <$> records.mapM (·.toJson)

def toJson (catalogue : Catalogue) : Except UnwritableInstant Json := do
  let records ← recordsToJson catalogue.records
  let metadata ← catalogue.metadata.toJson
  return .object [("algorithms", records), ("metadata", metadata)]

/-! ## Reading -/

def parameterDeclaration : Json.Declaration where
  title := "struct CryptographicSuiteParameter"
  fields := ["name", "min", "max"]
  isClosed := false

def parameterReader : Json.Reader Policy.Parameter :=
  parameterDeclaration.read fun record =>
    Policy.Parameter.mk
      <$> record.required "name" string
      <*> record.implied "min" none (nullable int64)
      <*> record.implied "max" none (nullable int64)

def Evaluation.declaration : Json.Declaration where
  title := "struct CryptographicSuiteEvaluation"
  fields := ["validity_end", "parameters", "usage", "recommendation"]
  isClosed := false

def Evaluation.reader : Json.Reader Evaluation :=
  declaration.read fun record =>
    Evaluation.mk
      <$> record.implied "validity_end" .unbounded Expiration.reader
      <*> record.required "parameters" (list parameterReader)
      <*> record.required "usage" (list string)
      <*> record.implied "recommendation" none (nullable string)

def Record.declaration : Json.Declaration where
  title := "struct CryptographicSuiteAlgorithm"
  fields := ["identifier_name", "object_identifiers", "uris", "resolved", "evaluations",
    "information"]
  isClosed := false

def Record.reader : Json.Reader Record :=
  declaration.read fun record =>
    Record.mk
      <$> record.required "identifier_name" string
      <*> record.required "object_identifiers" (list string)
      <*> record.required "uris" (list string)
      <*> record.required "resolved" Resolved.reader
      <*> record.required "evaluations" (list Evaluation.reader)
      <*> record.required "information" (list string)

def Metadata.declaration : Json.Declaration where
  title := "struct Metadata"
  fields := ["policy_name", "policy_object_identifier", "policy_uri", "publisher_name",
    "publisher_address", "publisher_uri", "policy_issue_date", "next_update", "usage",
    "version", "lang", "id"]
  isClosed := false

/-- The dates of a policy have to be there, though they may be `null`. -/
def Metadata.reader : Json.Reader Metadata :=
  declaration.read fun record =>
    Metadata.mk
      <$> record.implied "policy_name" none (nullable string)
      <*> record.implied "policy_object_identifier" none (nullable string)
      <*> record.implied "policy_uri" none (nullable string)
      <*> record.implied "publisher_name" none (nullable string)
      <*> record.implied "publisher_address" none (nullable string)
      <*> record.implied "publisher_uri" none (nullable string)
      <*> record.required "policy_issue_date" (nullable instant)
      <*> record.required "next_update" (nullable instant)
      <*> record.implied "usage" none (nullable string)
      <*> record.required "version" string
      <*> record.required "lang" string
      <*> record.implied "id" none (nullable string)

def recordsReader : Json.Reader (List Record) :=
  list Record.reader

def declaration : Json.Declaration where
  title := "struct Catalogue"
  fields := ["algorithms", "metadata"]
  isClosed := false

def reader : Json.Reader Catalogue :=
  declaration.read fun record =>
    Catalogue.mk
      <$> record.required "algorithms" recordsReader
      <*> record.required "metadata" Metadata.reader

end AlgorithmPolicy.Catalogue

import AlgorithmPolicy.Catalogue.Encoding
import AlgorithmPolicy.Suite.Snapshot

namespace AlgorithmPolicy

/-! Reports and snapshots in JSON. -/

open Json.Reader

/-! ## Reports -/

namespace Violation

def toJson (violation : Violation) : Json :=
  .object [
    ("category", .string violation.category.label),
    ("level", .string violation.level.label),
    ("message", .string violation.message)]

def declaration : Json.Declaration where
  title := "struct SuiteViolation"
  fields := ["category", "level", "message"]
  isClosed := false

def reader : Json.Reader Violation :=
  declaration.read fun record =>
    Violation.mk
      <$> record.required "category" label
      <*> record.required "level" label
      <*> record.required "message" string

end Violation

namespace Report

def violationsToJson (report : Report) : Json :=
  .array (report.violations.map (·.toJson))

def toJson (report : Report) : Json :=
  .object [("violations", report.violationsToJson)]

def declaration : Json.Declaration where
  title := "struct CheckReport"
  fields := ["violations"]
  isClosed := false

def reader : Json.Reader Report :=
  declaration.read fun record =>
    Report.mk <$> record.required "violations" (list Violation.reader)

end Report

/-! ## Snapshots -/

namespace Snapshot

def DigestRow.toJson (row : DigestRow) : Except UnwritableInstant Json := do
  let expiration ← row.expiration.toJson
  return .object [
    ("algorithm", .string (Labelled.label row.algorithm)),
    ("expiration", expiration)]

def KeySizeRow.toJson (row : KeySizeRow) : Except UnwritableInstant Json := do
  let expiration ← row.expiration.toJson
  return .object [
    ("algorithm", .string (Labelled.label row.algorithm)),
    ("min_key_size", .integer row.minKeySize.toNat),
    ("expiration", expiration)]

def toJson (snapshot : Snapshot) : Except UnwritableInstant Json := do
  let metadata ← snapshot.metadata.toJson
  let digests ← snapshot.digests.mapM (·.toJson)
  let keySizes ← snapshot.keySizes.mapM (·.toJson)
  return .object [
    ("metadata", metadata),
    ("digests", .array digests),
    ("signatures", .ofStrings (snapshot.signatures.map Labelled.label)),
    ("signature_key_sizes", .array keySizes)]

def DigestRow.declaration : Json.Declaration where
  title := "struct DigestSnapshot"
  fields := ["algorithm", "expiration"]
  isClosed := false

def DigestRow.reader : Json.Reader DigestRow :=
  declaration.read fun record =>
    DigestRow.mk
      <$> record.required "algorithm" label
      <*> record.implied "expiration" .unbounded Expiration.reader

def KeySizeRow.declaration : Json.Declaration where
  title := "struct SignatureKeySizeSnapshot"
  fields := ["algorithm", "min_key_size", "expiration"]
  isClosed := false

def KeySizeRow.reader : Json.Reader KeySizeRow :=
  declaration.read fun record =>
    KeySizeRow.mk
      <$> record.required "algorithm" label
      <*> record.required "min_key_size" uint32
      <*> record.implied "expiration" .unbounded Expiration.reader

def declaration : Json.Declaration where
  title := "struct SuiteSnapshot"
  fields := ["metadata", "digests", "signatures", "signature_key_sizes"]
  isClosed := false

def reader : Json.Reader Snapshot :=
  declaration.read fun record =>
    Snapshot.mk
      <$> record.required "metadata" Catalogue.Metadata.reader
      <*> record.required "digests" (list DigestRow.reader)
      <*> record.required "signatures" (list label)
      <*> record.required "signature_key_sizes" (list KeySizeRow.reader)

end Snapshot

end AlgorithmPolicy

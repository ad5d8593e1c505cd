import AlgorithmPolicy.Diagnostic
import AlgorithmPolicy.Json
import AlgorithmPolicy.Json.Tagged

namespace AlgorithmPolicy

/-! Diagnostics in JSON. The name of an event stands in front of what it tells. -/

open Json.Reader

namespace Exclusion

inductive Reason
  | missingMinimum
  | keySizeOutOfRange
  deriving DecidableEq

def Reason.label : Reason → String
  | .missingMinimum => "missing_minimum"
  | .keySizeOutOfRange => "key_size_out_of_range"

instance : Labelled Reason where
  all := [.missingMinimum, .keySizeOutOfRange]
  label := Reason.label
  mem_all reason := by cases reason <;> decide
  labels_nodup := by decide

def toJson : Exclusion → Json
  | .missingMinimum parameter =>
      .object [("kind", .string Reason.missingMinimum.label), ("parameter", .string parameter)]
  | .keySizeOutOfRange parameter min =>
      .object [
        ("kind", .string Reason.keySizeOutOfRange.label),
        ("parameter", .string parameter),
        ("min", .integer min.toInt)]

def declaration : Reason → Json.Declaration
  | .missingMinimum =>
      ⟨"struct variant ExclusionReason::MissingMinimum", ["parameter"], false⟩
  | .keySizeOutOfRange =>
      ⟨"struct variant ExclusionReason::KeySizeOutOfRange", ["parameter", "min"], false⟩

def internal : Json.Internal Reason Exclusion where
  title := "internally tagged enum ExclusionReason"
  tag := "kind"
  readFields reason :=
    (declaration reason).readAhead fun record =>
      match reason with
      | .missingMinimum => .missingMinimum <$> record.required "parameter" string
      | .keySizeOutOfRange =>
          .keySizeOutOfRange <$> record.required "parameter" string
            <*> record.required "min" int64

end Exclusion

namespace Diagnostic

inductive Event
  | unresolved
  | excluded
  | shadowed
  deriving DecidableEq

def Event.label : Event → String
  | .unresolved => "unresolved_algorithm"
  | .excluded => "excluded_evaluation"
  | .shadowed => "shadowed_derived_entry"

instance : Labelled Event where
  all := [.unresolved, .excluded, .shadowed]
  label := Event.label
  mem_all event := by cases event <;> decide
  labels_nodup := by decide

def toJson : Diagnostic → Json
  | .unresolved index name =>
      .object [
        ("event", .string Event.unresolved.label),
        ("index", .integer index),
        ("name", .string name)]
  | .excluded index evaluation name reason =>
      .object [
        ("event", .string Event.excluded.label),
        ("index", .integer index),
        ("evaluation", .integer evaluation),
        ("name", .string name),
        ("reason", reason.toJson)]
  | .shadowed algorithm keySize =>
      .object [
        ("event", .string Event.shadowed.label),
        ("algorithm", .string (Labelled.label algorithm)),
        ("key_size", .integer keySize.toNat)]

def declaration : Event → Json.Declaration
  | .unresolved =>
      ⟨"struct variant SuiteDiagnostic::UnresolvedAlgorithm", ["index", "name"], false⟩
  | .excluded =>
      ⟨"struct variant SuiteDiagnostic::ExcludedEvaluation",
        ["index", "evaluation", "name", "reason"], false⟩
  | .shadowed =>
      ⟨"struct variant SuiteDiagnostic::ShadowedDerivedEntry", ["algorithm", "key_size"],
        false⟩

def internal : Json.Internal Event Diagnostic where
  title := "internally tagged enum SuiteDiagnostic"
  tag := "event"
  readFields event :=
    (declaration event).readAhead fun record =>
      match event with
      | .unresolved =>
          .unresolved <$> record.required "index" index <*> record.required "name" string
      | .excluded =>
          .excluded
            <$> record.required "index" index
            <*> record.required "evaluation" index
            <*> record.required "name" string
            <*> record.required "reason" Exclusion.internal.readHeld
      | .shadowed =>
          .shadowed
            <$> record.required "algorithm" heldLabel
            <*> record.required "key_size" uint32

def reader : Json.Reader Diagnostic :=
  internal.read

end Diagnostic

end AlgorithmPolicy

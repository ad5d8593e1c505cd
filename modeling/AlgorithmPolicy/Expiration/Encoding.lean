import AlgorithmPolicy.Expiration
import AlgorithmPolicy.Json
import AlgorithmPolicy.Json.Reader

namespace AlgorithmPolicy

/-! Instants in JSON are strings in the notation of RFC 3339, and `null` stands for
"without end". -/

def Instant.toJson (instant : Instant) : Except UnwritableInstant Json :=
  (Rfc3339.write instant).map .string

def Instant.optionToJson : Option Instant → Except UnwritableInstant Json
  | some instant => instant.toJson
  | none => .ok .null

namespace Expiration

def toJson (expiration : Expiration) : Except UnwritableInstant Json :=
  Instant.optionToJson expiration.end?

def reader : Json.Reader Expiration := fun draft => do
  match ← Json.Reader.nullable Json.Reader.string draft with
  | some text => return .at (← Json.Reader.instantOfText text)
  | none => return .unbounded

end Expiration

end AlgorithmPolicy

import AlgorithmPolicy.Algorithm.Identity
import AlgorithmPolicy.Algorithm.Resolved
import AlgorithmPolicy.Json
import AlgorithmPolicy.Json.Tagged

namespace AlgorithmPolicy

/-! Resolved identifiers and identities in JSON. -/

namespace Resolved

def tagged (kind : Kind) (label : String) : Json :=
  .object [("kind", .string kind.label), ("algorithm", .string label)]

def toJson : Resolved → Json
  | .digest algorithm => tagged .digest (Labelled.label algorithm)
  | .encryption family => tagged .encryption (Labelled.label family)
  | .signature algorithm => tagged .signature (Labelled.label algorithm)
  | .unknown => .object [("kind", .string Kind.unknown.label)]

def readUnknown : Json.Reader Resolved := fun draft =>
  (fun _ => .unknown) <$> Json.Reader.unit "unit variant ResolvedAlgorithm::Unknown" draft

def adjacent : Json.Adjacent Kind Resolved where
  title := "adjacently tagged enum ResolvedAlgorithm"
  tag := "kind"
  content := "algorithm"
  bare?
    | .unknown => some .unknown
    | _ => none
  readContent
    | .digest => fun draft => .digest <$> Json.Reader.label draft
    | .encryption => fun draft => .encryption <$> Json.Reader.label draft
    | .signature => fun draft => .signature <$> Json.Reader.label draft
    | .unknown => readUnknown
  readHeldContent
    | .digest => fun draft => .digest <$> Json.Reader.heldLabel draft
    | .encryption => fun draft => .encryption <$> Json.Reader.heldLabel draft
    | .signature => fun draft => .signature <$> Json.Reader.heldLabel draft
    | .unknown => readUnknown

def reader : Json.Reader Resolved :=
  adjacent.read

end Resolved

namespace Identity

def toJson {α : Type} [Labelled α] (identity : Identity α) : Json :=
  .object [
    ("algorithm", .string (Labelled.label identity.algorithm)),
    ("key_size", Json.ofOption (fun size => .integer size.toNat) identity.keySize)]

def declaration : Json.Declaration where
  title := "struct AlgorithmIdentity"
  fields := ["algorithm", "key_size"]
  isClosed := false

def reader {α : Type} [Labelled α] : Json.Reader (Identity α) :=
  declaration.read fun record =>
    Identity.mk
      <$> record.required "algorithm" Json.Reader.label
      <*> record.implied "key_size" none (Json.Reader.nullable Json.Reader.uint32)

end Identity

end AlgorithmPolicy

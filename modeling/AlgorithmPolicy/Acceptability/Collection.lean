import Std.Data.TreeSet
import AlgorithmPolicy.Algorithm.Identity
import AlgorithmPolicy.Catalogue
import AlgorithmPolicy.Diagnostic
import AlgorithmPolicy.Ends

namespace AlgorithmPolicy.Acceptability

/-! What a catalogue states, collected record by record. -/

/-! ## Key sizes of evaluations -/

/-- The key size that an evaluation states for a family. It is the lower bound of the
first parameter with the name the registry gives, and zero if there is none. -/
def keySize (registry : Registry) (family : EncryptionFamily)
    (evaluation : Catalogue.Evaluation) : Except Exclusion UInt32 :=
  match (registry.keySizeParameter? family).bind evaluation.parameter? with
  | none => .ok 0
  | some parameter =>
      match parameter.min with
      | none => .error (.missingMinimum parameter.name)
      | some min =>
          if 0 ≤ min.toInt ∧ min.toInt < 4294967296 then
            .ok (UInt32.ofNat min.toInt.toNat)
          else
            .error (.keySizeOutOfRange parameter.name min)

/-! ## Collecting -/

/-- What is known after some of the records: the ends of digests, the signatures that are
named and their ends, the families that are named and theirs, and what was reported. -/
structure Collection where
  digests : Ends Digest
  signatures : Std.TreeSet Signature
  signatureEnds : Ends (Identity Signature)
  families : Std.TreeSet EncryptionFamily
  familyEnds : Ends (Identity EncryptionFamily)
  diagnostics : Array Diagnostic

namespace Collection

def empty : Collection :=
  ⟨∅, ∅, ∅, ∅, ∅, #[]⟩

def addDigest (ends : Ends Digest) (digest : Digest)
    (evaluations : List Catalogue.Evaluation) : Ends Digest :=
  evaluations.foldl (fun ends evaluation => ends.add digest evaluation.validityEnd) ends

/-- Adds the end of an evaluation at its key size, or reports why it has none. -/
def addSized {α : Type} [Labelled α] [DecidableEq α] (registry : Registry)
    (family : EncryptionFamily) (algorithm : α) (index : Nat) (record : Catalogue.Record)
    (state : Ends (Identity α) × Array Diagnostic)
    (placed : Catalogue.Evaluation × Nat) : Ends (Identity α) × Array Diagnostic :=
  match keySize registry family placed.1 with
  | .ok size =>
      (state.1.add (.withKeySize algorithm size) placed.1.validityEnd, state.2)
  | .error reason =>
      (state.1, state.2.push (.excluded index placed.2 record.identifierName reason))

/-- Adds the ends of all evaluations of a record that names a family or a signature. -/
def addAllSized {α : Type} [Labelled α] [DecidableEq α] (registry : Registry)
    (family : EncryptionFamily) (algorithm : α) (index : Nat) (record : Catalogue.Record)
    (state : Ends (Identity α) × Array Diagnostic) : Ends (Identity α) × Array Diagnostic :=
  record.evaluations.zipIdx.foldl (addSized registry family algorithm index record) state

def addRecord (registry : Registry) (collection : Collection)
    (placed : Catalogue.Record × Nat) : Collection :=
  let (record, index) := placed
  match record.resolved with
  | .digest digest =>
      { collection with
        digests := addDigest collection.digests digest record.evaluations }
  | .signature signature =>
      let added := addAllSized registry signature.family signature index record
        (collection.signatureEnds, collection.diagnostics)
      { collection with
        signatures := collection.signatures.insert signature
        signatureEnds := added.1
        diagnostics := added.2 }
  | .encryption family =>
      let added := addAllSized registry family family index record
        (collection.familyEnds, collection.diagnostics)
      { collection with
        families := collection.families.insert family
        familyEnds := added.1
        diagnostics := added.2 }
  | .unknown =>
      { collection with
        diagnostics := collection.diagnostics.push
          (.unresolved index record.identifierName) }

/-- Records are numbered by their places, from zero. -/
def ofRecords (registry : Registry) (records : List Catalogue.Record) : Collection :=
  records.zipIdx.foldl (addRecord registry) empty

end Collection

end AlgorithmPolicy.Acceptability

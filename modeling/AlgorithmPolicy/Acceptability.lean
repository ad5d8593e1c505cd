import AlgorithmPolicy.Acceptability.Collection

namespace AlgorithmPolicy

/-! What a catalogue makes acceptable. Evaluations of one identity are merged to the
latest of their ends. A signature algorithm is acceptable at a key size either
directly, because a record names it, or because its family is acceptable at that
size and its digest is acceptable, and then until the earlier of both ends. Where
a signature has a direct evaluation at a key size, what is derived for that size
does not count.

All tables are sorted by the vocabularies, and within a signature by key size. -/

structure Acceptability where
  digests : List (Digest × Expiration)
  signatures : List Signature
  keySizes : List (Identity Signature × Expiration)
  deriving DecidableEq

namespace Acceptability

namespace Collection

/-! ## What follows -/

def addComposed (registry : Registry) (digests : Ends Digest)
    (signatures : Std.TreeSet Signature) (family : EncryptionFamily) :
    Std.TreeSet Signature :=
  digests.foldl
    (fun signatures digest _ =>
      match registry.compose? family digest with
      | some signature => signatures.insert signature
      | none => signatures)
    signatures

/-- The signatures that are named, and those that a named family and an acceptable
digest make. -/
def allSignatures (registry : Registry) (collection : Collection) : Std.TreeSet Signature :=
  collection.families.foldl (addComposed registry collection.digests) collection.signatures

/-- Adds the ends that follow from the end of a family with the end of each digest. -/
def addDerivedEnds (registry : Registry) (digests : Ends Digest)
    (derived : Ends (Identity Signature)) (identity : Identity EncryptionFamily)
    (familyEnd : Expiration) : Ends (Identity Signature) :=
  digests.foldl
    (fun derived digest digestEnd =>
      match registry.compose? identity.algorithm digest with
      | some signature =>
          Ends.add derived ⟨signature, identity.keySize⟩ (familyEnd.earliest digestEnd)
      | none => derived)
    derived

def derivedEnds (registry : Registry) (collection : Collection) : Ends (Identity Signature) :=
  collection.familyEnds.foldl (addDerivedEnds registry collection.digests) ∅

/-- Adds a derived end, unless there is a direct one for the same identity, which is
reported. -/
def addDerived (state : Ends (Identity Signature) × Array Diagnostic)
    (identity : Identity Signature) (expiration : Expiration) :
    Ends (Identity Signature) × Array Diagnostic :=
  if state.1.contains identity then
    (state.1, state.2.push (.shadowed identity.algorithm identity.minKeySize))
  else
    (state.1.insert identity expiration, state.2)

/-- All ends of signatures, and what is reported in all. -/
def allSignatureEnds (registry : Registry) (collection : Collection) :
    Ends (Identity Signature) × Array Diagnostic :=
  (collection.derivedEnds registry).foldl addDerived
    (collection.signatureEnds, collection.diagnostics)

end Collection

def ofRecords (registry : Registry) (records : List Catalogue.Record) : Acceptability :=
  let collection := Collection.ofRecords registry records
  { digests := collection.digests.toList
    signatures := (collection.allSignatures registry).toList
    keySizes := (collection.allSignatureEnds registry).1.toList }

/-- What is reported for a catalogue, record by record, and last what is shadowed. -/
def diagnostics (registry : Registry) (records : List Catalogue.Record) : List Diagnostic :=
  ((Collection.ofRecords registry records).allSignatureEnds registry).2.toList

/-! ## Queries -/

def digestExpiration? (acceptability : Acceptability) (digest : Digest) :
    Option Expiration :=
  acceptability.digests.lookup digest

/-- The rows from one identity to another, both included. -/
def between (acceptability : Acceptability) (lower upper : Identity Signature) :
    List (Identity Signature × Expiration) :=
  (acceptability.keySizes.dropWhile fun (identity, _) => identity.order lower = .lt).takeWhile
    fun (identity, _) => identity.order upper ≠ .gt

/-- The latest end of a signature at a key size: all least key sizes up to it apply. -/
def signatureExpiration? (acceptability : Acceptability) (signature : Signature)
    (keySize : UInt32) : Option Expiration :=
  Expiration.latest?
    ((acceptability.between (.withKeySize signature 0) (.withKeySize signature keySize)).map
      (·.2))

end Acceptability

end AlgorithmPolicy

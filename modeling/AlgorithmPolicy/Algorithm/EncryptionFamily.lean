import AlgorithmPolicy.Label

namespace AlgorithmPolicy

/-- A family of public-key algorithms, or of keyed authentication codes. -/
inductive EncryptionFamily
  | rsa
  | rsassaPss
  | dsa
  | ecdsa
  | plainEcdsa
  | eddsa
  | hmac
  deriving DecidableEq

namespace EncryptionFamily

/-! ## Labels -/

def name : EncryptionFamily → String
  | .rsa => "RSA"
  | .rsassaPss => "RSASSA_PSS"
  | .dsa => "DSA"
  | .ecdsa => "ECDSA"
  | .plainEcdsa => "PLAIN_ECDSA"
  | .eddsa => "EDDSA"
  | .hmac => "HMAC"

def all : List EncryptionFamily :=
  [.rsa, .rsassaPss, .dsa, .ecdsa, .plainEcdsa, .eddsa, .hmac]

instance : Labelled EncryptionFamily where
  all := all
  label := name
  mem_all family := by cases family <;> decide
  labels_nodup := by decide

instance : Ord EncryptionFamily :=
  Labelled.ord

instance : Std.TransOrd EncryptionFamily :=
  Labelled.transOrd

instance : Std.LawfulEqOrd EncryptionFamily :=
  Labelled.lawfulEqOrd

/-! ## Registered identifiers -/

/-- The object identifier of a family, where it has one. -/
def oid? : EncryptionFamily → Option String
  | .rsa => some "1.2.840.113549.1.1.1"
  | .rsassaPss => some "1.2.840.113549.1.1.10"
  | .dsa => some "1.2.840.10040.4.1"
  | .ecdsa => some "1.2.840.10045.2.1"
  | .plainEcdsa => some "0.4.0.127.0.7.1.1.4.1"
  | .eddsa | .hmac => none

/-! ## Key sizes

A policy states key sizes as named parameters. Which name carries the size
depends on the family; a family without such a name has keys of one size only,
which is written as zero. -/

/-- The name of the parameter that states the key size of a family. -/
def keySizeParameter? : EncryptionFamily → Option String
  | .rsa | .rsassaPss => some "moduluslength"
  | .dsa | .ecdsa | .plainEcdsa => some "plength"
  | .eddsa | .hmac => none

end EncryptionFamily

end AlgorithmPolicy

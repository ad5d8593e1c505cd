import AlgorithmPolicy.Hash.Sha256
import AlgorithmPolicy.Suite.Encoding

namespace AlgorithmPolicy

/-! The fingerprint of a snapshot is the hash of its canonical JSON text. Suites with the
same fingerprint give the same answers. -/

structure Fingerprint where
  bytes : List UInt8
  length_bytes : bytes.length = 32
  deriving DecidableEq

namespace Fingerprint

def ofText (text : String) : Fingerprint where
  bytes := Sha256.hash text.toUTF8.toList
  length_bytes := Sha256.length_hash _

def byteDigits (byte : UInt8) : List Char :=
  [Hexadecimal.digit (byte.toNat / 16), Hexadecimal.digit (byte.toNat % 16)]

def hex (fingerprint : Fingerprint) : String :=
  String.ofList (fingerprint.bytes.flatMap byteDigits)

def display (fingerprint : Fingerprint) : String :=
  "sha256:" ++ fingerprint.hex

end Fingerprint

namespace Snapshot

/-- The text that is hashed. -/
def canonicalText (snapshot : Snapshot) : Except UnwritableInstant String :=
  snapshot.toJson.map (·.canonical)

def fingerprint (snapshot : Snapshot) : Except UnwritableInstant Fingerprint :=
  snapshot.canonicalText.map Fingerprint.ofText

end Snapshot

def Suite.fingerprint (suite : Suite) : Except UnwritableInstant Fingerprint :=
  suite.snapshot.fingerprint

/-- The message of a snapshot that has no canonical text. -/
def Fingerprint.failureMessage (unwritable : UnwritableInstant) : String :=
  "failed to canonicalize suite snapshot: " ++ unwritable.message

end AlgorithmPolicy

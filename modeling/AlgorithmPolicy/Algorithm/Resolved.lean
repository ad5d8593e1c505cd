import AlgorithmPolicy.Algorithm.Signature

namespace AlgorithmPolicy

/-! What an identifier stands for: an algorithm of one of three kinds, or nothing
that is known. -/

/-- The kind of thing an identifier stands for. -/
inductive Kind
  | digest
  | encryption
  | signature
  | unknown
  deriving DecidableEq

namespace Kind

def label : Kind → String
  | .digest => "digest"
  | .encryption => "encryption"
  | .signature => "signature"
  | .unknown => "unknown"

instance : Labelled Kind where
  all := [.digest, .encryption, .signature, .unknown]
  label := label
  mem_all kind := by cases kind <;> decide
  labels_nodup := by decide

end Kind

/-- What an identifier stands for. -/
inductive Resolved
  | digest (algorithm : Digest)
  | encryption (family : EncryptionFamily)
  | signature (algorithm : Signature)
  | unknown
  deriving DecidableEq

def Resolved.kind : Resolved → Kind
  | .digest _ => .digest
  | .encryption _ => .encryption
  | .signature _ => .signature
  | .unknown => .unknown

end AlgorithmPolicy

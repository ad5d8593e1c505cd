import AlgorithmPolicy.Algorithm.Resolved
import AlgorithmPolicy.Policy

namespace AlgorithmPolicy

/-! A registry says what the identifiers of a policy stand for, which signature
algorithm a family and a digest make together, and which parameter states the key
size of a family. Everything that is derived from a policy is derived for a given
registry, whatever its answers are. -/

structure Registry where
  resolve : Policy.Identifier → Resolved
  compose? : EncryptionFamily → Digest → Option Signature
  keySizeParameter? : EncryptionFamily → Option String

end AlgorithmPolicy

import AlgorithmPolicy.Algorithm.Signature
import AlgorithmPolicy.Decimal

namespace AlgorithmPolicy

/-! What is reported about parts of a policy that have no effect. -/

/-- Why no key size can be read from an evaluation. -/
inductive Exclusion
  | missingMinimum (parameter : String)
  | keySizeOutOfRange (parameter : String) (min : Int64)
  deriving DecidableEq

def Exclusion.message : Exclusion → String
  | .missingMinimum parameter => "parameter " ++ parameter ++ " has no min"
  | .keySizeOutOfRange parameter min =>
      "parameter " ++ parameter ++ " min " ++ Decimal.ofInt min.toInt ++
        " is not a valid key size"

/-- Records are numbered by their place in the catalogue, and evaluations by their
place in the record, both from zero. -/
inductive Diagnostic
  | unresolved (index : Nat) (name : String)
  | excluded (index evaluation : Nat) (name : String) (reason : Exclusion)
  | shadowed (algorithm : Signature) (keySize : UInt32)
  deriving DecidableEq

def Diagnostic.message : Diagnostic → String
  | .unresolved index name =>
      "algorithm #" ++ Decimal.ofNat index ++ " (" ++ name ++ ") did not resolve"
  | .excluded index evaluation name reason =>
      "algorithm #" ++ Decimal.ofNat index ++ " (" ++ name ++ ") evaluation #" ++
        Decimal.ofNat evaluation ++ " excluded: " ++ reason.message
  | .shadowed algorithm keySize =>
      "derived " ++ algorithm.name ++ "/" ++ Decimal.ofNat keySize.toNat ++
        " shadowed by a direct entry"

end AlgorithmPolicy

import AlgorithmPolicy.Configuration
import AlgorithmPolicy.Registry.Directory
import AlgorithmPolicy.Time.Rfc3339

namespace AlgorithmPolicy.CommandLine

/-! Why a command comes to no result, and how algorithms are looked up for commands. -/

inductive Failure
  | configuration (error : LoadError)
  | policy (path : String) (error : LoadError)
  | noPolicy
  | unknownAlgorithm (reference : String)
  | wrongKind (reference expected : String) (kind : Kind)
  | familyNotSignature (reference : String) (family : EncryptionFamily)
  | moment (text : String)
  | unwritableMoment (unwritable : UnwritableInstant)
  | unwritableSnapshot (unwritable : UnwritableInstant)
  | fingerprint (unwritable : UnwritableInstant)
  deriving DecidableEq

/-- A signature algorithm of a family, as an example of one. -/
def exampleOfFamily (family : EncryptionFamily) : String :=
  match Signature.compose? family .sha256 with
  | some signature => " such as " ++ signature.name
  | none => ""

def Failure.message (explain : String → String) : Failure → String
  | .configuration error => "failed to load config: " ++ error.message explain
  | .policy path error => "failed to load policy " ++ path ++ ": " ++ error.message explain
  | .noPolicy => "no policy file configured; pass --policy or set [policy].path"
  | .unknownAlgorithm reference => "unknown algorithm: " ++ reference
  | .wrongKind reference expected kind =>
      reference ++ " is not a " ++ expected ++ " algorithm (resolved as " ++ kind.label ++ ")"
  | .familyNotSignature reference family =>
      reference ++ " is the " ++ family.name ++
        " encryption family, not a signature algorithm; name a signature" ++
        exampleOfFamily family ++ " or use <DIGEST>with<FAMILY> (e.g. SHA256withRSA)"
  | .moment text =>
      "invalid --at timestamp " ++ text ++ ": the text is no date and time of RFC 3339"
  | .unwritableMoment unwritable => "failed to format timestamp: " ++ unwritable.message
  | .unwritableSnapshot unwritable => "failed to serialize output: " ++ unwritable.message
  | .fingerprint unwritable =>
      "failed to fingerprint suite: failed to canonicalize suite snapshot: " ++
        unwritable.message

/-! ## Algorithms -/

def wrongKind (reference expected : String) : Resolved → Failure
  | .unknown => .unknownAlgorithm reference
  | resolved => .wrongKind reference expected resolved.kind

def resolveDigest (reference : String) : Except Failure Digest :=
  match Directory.standard.resolveReference reference with
  | .digest digest => .ok digest
  | resolved => .error (wrongKind reference "digest" resolved)

def resolveSignature (reference : String) : Except Failure Signature :=
  match Directory.standard.resolveReference reference with
  | .signature signature => .ok signature
  | .encryption family => .error (.familyNotSignature reference family)
  | resolved => .error (wrongKind reference "signature" resolved)

end AlgorithmPolicy.CommandLine

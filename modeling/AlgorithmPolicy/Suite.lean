import AlgorithmPolicy.Acceptability
import AlgorithmPolicy.Suite.Report

namespace AlgorithmPolicy

/-! A suite answers whether an algorithm is acceptable at a moment. It is built once
from a policy; only the levels at which checks report can be changed later. -/

structure Suite where
  catalogue : Catalogue
  acceptability : Acceptability
  levels : Levels

namespace Suite

def ofPolicy (registry : Registry) (policy : Policy) : Suite :=
  let catalogue := Catalogue.ofPolicy registry policy
  { catalogue
    acceptability := .ofRecords registry catalogue.records
    levels := .initial }

/-- What is reported while a suite is built. -/
def diagnostics (registry : Registry) (policy : Policy) : List Diagnostic :=
  Acceptability.diagnostics registry (Catalogue.ofPolicy registry policy).records

/-! ## Levels -/

def withLevels (suite : Suite) (levels : Levels) : Suite :=
  { suite with levels }

def modifyLevels (suite : Suite) (change : Levels → Levels) : Suite :=
  { suite with levels := change suite.levels }

def setRoot (suite : Suite) (level : Level) : Suite :=
  suite.modifyLevels (·.setRoot level)

def pin (suite : Suite) (category : Category) (level : Level) : Suite :=
  suite.modifyLevels (·.pin category level)

/-! ## Queries -/

def digestExpiration? (suite : Suite) (digest : Digest) : Option Expiration :=
  suite.acceptability.digestExpiration? digest

def signatureExpiration? (suite : Suite) (signature : Signature) (keySize : UInt32) :
    Option Expiration :=
  suite.acceptability.signatureExpiration? signature keySize

def isDigestAcceptable (suite : Suite) (digest : Digest) (moment : Instant) : Bool :=
  (suite.digestExpiration? digest).any (·.isAcceptableAt moment)

def isSignatureAcceptable (suite : Suite) (signature : Signature) (keySize : UInt32)
    (moment : Instant) : Bool :=
  (suite.signatureExpiration? signature keySize).any (·.isAcceptableAt moment)

/-- The signatures and least key sizes that are acceptable, with their ends. -/
def keySizeExpirations (suite : Suite) : List ((Signature × UInt32) × Expiration) :=
  suite.acceptability.keySizes.map fun (identity, expiration) =>
    ((identity.algorithm, identity.minKeySize), expiration)

instance : Ord (Signature × UInt32) :=
  lexOrd

/-- The same by signature and least key size, in this order. Of several ends for one signature
and key size the last one would stand. -/
def keySizeTable (suite : Suite) : Ends (Signature × UInt32) :=
  .ofList suite.keySizeExpirations

/-! ## Checks -/

/-- The category of an expiry, which depends on whether the policy was due for an
update before the moment. -/
def expiryCategory (suite : Suite) (moment : Instant) : Category :=
  match suite.catalogue.metadata.nextUpdate with
  | some nextUpdate =>
      if nextUpdate.moment < moment.moment then .expirationAfterPolicyUpdate
      else .algorithmExpiration
  | none => .algorithmExpiration

def checkExpiration (suite : Suite) (subject : String) (expiration : Expiration)
    (moment : Instant) : Report :=
  if expiration.isAcceptableAt moment then .empty
  else
    .ofFinding suite.levels (suite.expiryCategory moment)
      (subject ++ " expired at " ++ expiration.display)

def checkDigest (suite : Suite) (digest : Digest) (moment : Instant) : Report :=
  match suite.digestExpiration? digest with
  | none =>
      .ofFinding suite.levels .digestAlgorithms
        ("digest algorithm " ++ digest.name ++ " is not acceptable")
  | some expiration => suite.checkExpiration digest.name expiration moment

def checkSignature (suite : Suite) (signature : Signature) (keySize : UInt32)
    (moment : Instant) : Report :=
  let size := Decimal.ofNat keySize.toNat
  if signature ∉ suite.acceptability.signatures then
    .ofFinding suite.levels .signatureAlgorithms
      ("signature algorithm " ++ signature.name ++ " is not acceptable")
  else
    match suite.signatureExpiration? signature keySize with
    | none =>
        .ofFinding suite.levels .signatureMinKeySize
          ("key size " ++ size ++ " is below every acceptable minimum for " ++
            signature.name)
    | some expiration =>
        suite.checkExpiration (signature.name ++ " with key size " ++ size) expiration moment

end Suite

end AlgorithmPolicy

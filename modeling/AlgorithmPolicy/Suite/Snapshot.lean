import AlgorithmPolicy.Suite

namespace AlgorithmPolicy

/-! A snapshot is all of a suite that bears on its answers, as plain sorted tables. -/

namespace Snapshot

structure DigestRow where
  algorithm : Digest
  expiration : Expiration
  deriving DecidableEq

structure KeySizeRow where
  algorithm : Signature
  minKeySize : UInt32
  expiration : Expiration
  deriving DecidableEq

end Snapshot

structure Snapshot where
  metadata : Catalogue.Metadata
  digests : List Snapshot.DigestRow
  signatures : List Signature
  keySizes : List Snapshot.KeySizeRow
  deriving DecidableEq

def Suite.snapshot (suite : Suite) : Snapshot where
  metadata := suite.catalogue.metadata
  digests := suite.acceptability.digests.map fun (algorithm, expiration) =>
    ⟨algorithm, expiration⟩
  signatures := suite.acceptability.signatures
  keySizes := suite.keySizeExpirations.map fun ((algorithm, keySize), expiration) =>
    ⟨algorithm, keySize, expiration⟩

end AlgorithmPolicy

import AlgorithmPolicy.Label

namespace AlgorithmPolicy

/-- A message digest algorithm. -/
inductive Digest
  | md5
  | sha1
  | sha224
  | sha256
  | sha384
  | sha512
  | sha3_224
  | sha3_256
  | sha3_384
  | sha3_512
  | shake128
  | shake256
  | ripemd160
  | whirlpool
  deriving DecidableEq

namespace Digest

/-! ## Labels -/

def name : Digest → String
  | .md5 => "MD5"
  | .sha1 => "SHA1"
  | .sha224 => "SHA224"
  | .sha256 => "SHA256"
  | .sha384 => "SHA384"
  | .sha512 => "SHA512"
  | .sha3_224 => "SHA3_224"
  | .sha3_256 => "SHA3_256"
  | .sha3_384 => "SHA3_384"
  | .sha3_512 => "SHA3_512"
  | .shake128 => "SHAKE128"
  | .shake256 => "SHAKE256"
  | .ripemd160 => "RIPEMD160"
  | .whirlpool => "WHIRLPOOL"

def all : List Digest :=
  [.md5, .sha1, .sha224, .sha256, .sha384, .sha512, .sha3_224,
   .sha3_256, .sha3_384, .sha3_512, .shake128, .shake256, .ripemd160, .whirlpool]

instance : Labelled Digest where
  all := all
  label := name
  mem_all digest := by cases digest <;> decide
  labels_nodup := by decide

instance : Ord Digest :=
  Labelled.ord

instance : Std.TransOrd Digest :=
  Labelled.transOrd

instance : Std.LawfulEqOrd Digest :=
  Labelled.lawfulEqOrd

/-! ## Registered identifiers -/

/-- The object identifier of a digest. -/
def oid : Digest → String
  | .md5 => "1.2.840.113549.2.5"
  | .sha1 => "1.3.14.3.2.26"
  | .sha224 => "2.16.840.1.101.3.4.2.4"
  | .sha256 => "2.16.840.1.101.3.4.2.1"
  | .sha384 => "2.16.840.1.101.3.4.2.2"
  | .sha512 => "2.16.840.1.101.3.4.2.3"
  | .sha3_224 => "2.16.840.1.101.3.4.2.7"
  | .sha3_256 => "2.16.840.1.101.3.4.2.8"
  | .sha3_384 => "2.16.840.1.101.3.4.2.9"
  | .sha3_512 => "2.16.840.1.101.3.4.2.10"
  | .shake128 => "2.16.840.1.101.3.4.2.11"
  | .shake256 => "2.16.840.1.101.3.4.2.12"
  | .ripemd160 => "1.3.36.3.2.1"
  | .whirlpool => "1.0.10118.3.0.55"

/-- The URI of a digest in signed XML, where one is registered. -/
def uri? : Digest → Option String
  | .md5 => some "http://www.w3.org/2001/04/xmldsig-more#md5"
  | .sha1 => some "http://www.w3.org/2000/09/xmldsig#sha1"
  | .sha224 => some "http://www.w3.org/2001/04/xmldsig-more#sha224"
  | .sha256 => some "http://www.w3.org/2001/04/xmlenc#sha256"
  | .sha384 => some "http://www.w3.org/2001/04/xmldsig-more#sha384"
  | .sha512 => some "http://www.w3.org/2001/04/xmlenc#sha512"
  | .sha3_224 => some "http://www.w3.org/2007/05/xmldsig-more#sha3-224"
  | .sha3_256 => some "http://www.w3.org/2007/05/xmldsig-more#sha3-256"
  | .sha3_384 => some "http://www.w3.org/2007/05/xmldsig-more#sha3-384"
  | .sha3_512 => some "http://www.w3.org/2007/05/xmldsig-more#sha3-512"
  | .ripemd160 => some "http://www.w3.org/2001/04/xmlenc#ripemd160"
  | .whirlpool => some "http://www.w3.org/2007/05/xmldsig-more#whirlpool"
  | .shake128 | .shake256 => none

end Digest

end AlgorithmPolicy

import AlgorithmPolicy.Algorithm.Digest
import AlgorithmPolicy.Algorithm.EncryptionFamily

namespace AlgorithmPolicy

/-- A signature algorithm: one encryption family used with one digest. -/
inductive Signature
  | rsaMd5
  | rsaSha1
  | rsaSha224
  | rsaSha256
  | rsaSha384
  | rsaSha512
  | rsaSha3_224
  | rsaSha3_256
  | rsaSha3_384
  | rsaSha3_512
  | rsaRipemd160
  | rsaSsaPssSha1Mgf1
  | rsaSsaPssSha224Mgf1
  | rsaSsaPssSha256Mgf1
  | rsaSsaPssSha384Mgf1
  | rsaSsaPssSha512Mgf1
  | rsaSsaPssSha3_224Mgf1
  | rsaSsaPssSha3_256Mgf1
  | rsaSsaPssSha3_384Mgf1
  | rsaSsaPssSha3_512Mgf1
  | dsaSha1
  | dsaSha224
  | dsaSha256
  | dsaSha384
  | dsaSha512
  | dsaSha3_224
  | dsaSha3_256
  | dsaSha3_384
  | dsaSha3_512
  | ecdsaSha1
  | ecdsaSha224
  | ecdsaSha256
  | ecdsaSha384
  | ecdsaSha512
  | ecdsaSha3_224
  | ecdsaSha3_256
  | ecdsaSha3_384
  | ecdsaSha3_512
  | plainEcdsaSha1
  | plainEcdsaSha224
  | plainEcdsaSha256
  | plainEcdsaSha384
  | plainEcdsaSha512
  | plainEcdsaRipemd160
  | ed25519
  | ed448
  | hmacSha1
  | hmacSha224
  | hmacSha256
  | hmacSha384
  | hmacSha512
  deriving DecidableEq

namespace Signature

/-! ## Labels -/

def name : Signature → String
  | .rsaMd5 => "RSA_MD5"
  | .rsaSha1 => "RSA_SHA1"
  | .rsaSha224 => "RSA_SHA224"
  | .rsaSha256 => "RSA_SHA256"
  | .rsaSha384 => "RSA_SHA384"
  | .rsaSha512 => "RSA_SHA512"
  | .rsaSha3_224 => "RSA_SHA3_224"
  | .rsaSha3_256 => "RSA_SHA3_256"
  | .rsaSha3_384 => "RSA_SHA3_384"
  | .rsaSha3_512 => "RSA_SHA3_512"
  | .rsaRipemd160 => "RSA_RIPEMD160"
  | .rsaSsaPssSha1Mgf1 => "RSA_SSA_PSS_SHA1_MGF1"
  | .rsaSsaPssSha224Mgf1 => "RSA_SSA_PSS_SHA224_MGF1"
  | .rsaSsaPssSha256Mgf1 => "RSA_SSA_PSS_SHA256_MGF1"
  | .rsaSsaPssSha384Mgf1 => "RSA_SSA_PSS_SHA384_MGF1"
  | .rsaSsaPssSha512Mgf1 => "RSA_SSA_PSS_SHA512_MGF1"
  | .rsaSsaPssSha3_224Mgf1 => "RSA_SSA_PSS_SHA3_224_MGF1"
  | .rsaSsaPssSha3_256Mgf1 => "RSA_SSA_PSS_SHA3_256_MGF1"
  | .rsaSsaPssSha3_384Mgf1 => "RSA_SSA_PSS_SHA3_384_MGF1"
  | .rsaSsaPssSha3_512Mgf1 => "RSA_SSA_PSS_SHA3_512_MGF1"
  | .dsaSha1 => "DSA_SHA1"
  | .dsaSha224 => "DSA_SHA224"
  | .dsaSha256 => "DSA_SHA256"
  | .dsaSha384 => "DSA_SHA384"
  | .dsaSha512 => "DSA_SHA512"
  | .dsaSha3_224 => "DSA_SHA3_224"
  | .dsaSha3_256 => "DSA_SHA3_256"
  | .dsaSha3_384 => "DSA_SHA3_384"
  | .dsaSha3_512 => "DSA_SHA3_512"
  | .ecdsaSha1 => "ECDSA_SHA1"
  | .ecdsaSha224 => "ECDSA_SHA224"
  | .ecdsaSha256 => "ECDSA_SHA256"
  | .ecdsaSha384 => "ECDSA_SHA384"
  | .ecdsaSha512 => "ECDSA_SHA512"
  | .ecdsaSha3_224 => "ECDSA_SHA3_224"
  | .ecdsaSha3_256 => "ECDSA_SHA3_256"
  | .ecdsaSha3_384 => "ECDSA_SHA3_384"
  | .ecdsaSha3_512 => "ECDSA_SHA3_512"
  | .plainEcdsaSha1 => "PLAIN_ECDSA_SHA1"
  | .plainEcdsaSha224 => "PLAIN_ECDSA_SHA224"
  | .plainEcdsaSha256 => "PLAIN_ECDSA_SHA256"
  | .plainEcdsaSha384 => "PLAIN_ECDSA_SHA384"
  | .plainEcdsaSha512 => "PLAIN_ECDSA_SHA512"
  | .plainEcdsaRipemd160 => "PLAIN_ECDSA_RIPEMD160"
  | .ed25519 => "ED25519"
  | .ed448 => "ED448"
  | .hmacSha1 => "HMAC_SHA1"
  | .hmacSha224 => "HMAC_SHA224"
  | .hmacSha256 => "HMAC_SHA256"
  | .hmacSha384 => "HMAC_SHA384"
  | .hmacSha512 => "HMAC_SHA512"

def all : List Signature :=
  [.rsaMd5, .rsaSha1, .rsaSha224, .rsaSha256,
   .rsaSha384, .rsaSha512, .rsaSha3_224, .rsaSha3_256,
   .rsaSha3_384, .rsaSha3_512, .rsaRipemd160, .rsaSsaPssSha1Mgf1,
   .rsaSsaPssSha224Mgf1, .rsaSsaPssSha256Mgf1, .rsaSsaPssSha384Mgf1, .rsaSsaPssSha512Mgf1,
   .rsaSsaPssSha3_224Mgf1, .rsaSsaPssSha3_256Mgf1, .rsaSsaPssSha3_384Mgf1, .rsaSsaPssSha3_512Mgf1,
   .dsaSha1, .dsaSha224, .dsaSha256, .dsaSha384,
   .dsaSha512, .dsaSha3_224, .dsaSha3_256, .dsaSha3_384,
   .dsaSha3_512, .ecdsaSha1, .ecdsaSha224, .ecdsaSha256,
   .ecdsaSha384, .ecdsaSha512, .ecdsaSha3_224, .ecdsaSha3_256,
   .ecdsaSha3_384, .ecdsaSha3_512, .plainEcdsaSha1, .plainEcdsaSha224,
   .plainEcdsaSha256, .plainEcdsaSha384, .plainEcdsaSha512, .plainEcdsaRipemd160,
   .ed25519, .ed448, .hmacSha1, .hmacSha224,
   .hmacSha256, .hmacSha384, .hmacSha512]

instance : Labelled Signature where
  all := all
  label := name
  mem_all signature := by cases signature <;> decide
  labels_nodup := by decide

instance : Ord Signature :=
  Labelled.ord

instance : Std.TransOrd Signature :=
  Labelled.transOrd

instance : Std.LawfulEqOrd Signature :=
  Labelled.lawfulEqOrd

/-! ## Parts -/

def family : Signature → EncryptionFamily
  | .rsaMd5 | .rsaSha1 | .rsaSha224 | .rsaSha256 | .rsaSha384 | .rsaSha512 | .rsaSha3_224 |
    .rsaSha3_256 | .rsaSha3_384 | .rsaSha3_512 | .rsaRipemd160 => .rsa
  | .rsaSsaPssSha1Mgf1 | .rsaSsaPssSha224Mgf1 | .rsaSsaPssSha256Mgf1 | .rsaSsaPssSha384Mgf1 |
    .rsaSsaPssSha512Mgf1 | .rsaSsaPssSha3_224Mgf1 | .rsaSsaPssSha3_256Mgf1 |
    .rsaSsaPssSha3_384Mgf1 | .rsaSsaPssSha3_512Mgf1 => .rsassaPss
  | .dsaSha1 | .dsaSha224 | .dsaSha256 | .dsaSha384 | .dsaSha512 | .dsaSha3_224 |
    .dsaSha3_256 | .dsaSha3_384 | .dsaSha3_512 => .dsa
  | .ecdsaSha1 | .ecdsaSha224 | .ecdsaSha256 | .ecdsaSha384 | .ecdsaSha512 | .ecdsaSha3_224 |
    .ecdsaSha3_256 | .ecdsaSha3_384 | .ecdsaSha3_512 => .ecdsa
  | .plainEcdsaSha1 | .plainEcdsaSha224 | .plainEcdsaSha256 | .plainEcdsaSha384 |
    .plainEcdsaSha512 | .plainEcdsaRipemd160 => .plainEcdsa
  | .ed25519 | .ed448 => .eddsa
  | .hmacSha1 | .hmacSha224 | .hmacSha256 | .hmacSha384 | .hmacSha512 => .hmac

def digest : Signature → Digest
  | .rsaMd5 => .md5
  | .rsaSha1 | .rsaSsaPssSha1Mgf1 | .dsaSha1 | .ecdsaSha1 | .plainEcdsaSha1 | .hmacSha1 => .sha1
  | .rsaSha224 | .rsaSsaPssSha224Mgf1 | .dsaSha224 | .ecdsaSha224 | .plainEcdsaSha224 |
    .hmacSha224 => .sha224
  | .rsaSha256 | .rsaSsaPssSha256Mgf1 | .dsaSha256 | .ecdsaSha256 | .plainEcdsaSha256 |
    .hmacSha256 => .sha256
  | .rsaSha384 | .rsaSsaPssSha384Mgf1 | .dsaSha384 | .ecdsaSha384 | .plainEcdsaSha384 |
    .hmacSha384 => .sha384
  | .rsaSha512 | .rsaSsaPssSha512Mgf1 | .dsaSha512 | .ecdsaSha512 | .plainEcdsaSha512 |
    .ed25519 | .hmacSha512 => .sha512
  | .rsaSha3_224 | .rsaSsaPssSha3_224Mgf1 | .dsaSha3_224 | .ecdsaSha3_224 => .sha3_224
  | .rsaSha3_256 | .rsaSsaPssSha3_256Mgf1 | .dsaSha3_256 | .ecdsaSha3_256 => .sha3_256
  | .rsaSha3_384 | .rsaSsaPssSha3_384Mgf1 | .dsaSha3_384 | .ecdsaSha3_384 => .sha3_384
  | .rsaSha3_512 | .rsaSsaPssSha3_512Mgf1 | .dsaSha3_512 | .ecdsaSha3_512 => .sha3_512
  | .ed448 => .shake256
  | .rsaRipemd160 | .plainEcdsaRipemd160 => .ripemd160

/-- The signature algorithm made of a family and a digest, if there is one. -/
def compose? (family : EncryptionFamily) (digest : Digest) : Option Signature :=
  all.find? fun signature => signature.family = family ∧ signature.digest = digest

/-! ## Registered identifiers

The variants of RSASSA-PSS share the object identifier of their family and are
told apart by their URIs. -/

/-- The object identifier of a signature algorithm, where it has one of its own. -/
def oid? : Signature → Option String
  | .rsaMd5 => some "1.2.840.113549.1.1.4"
  | .rsaSha1 => some "1.2.840.113549.1.1.5"
  | .rsaSha224 => some "1.2.840.113549.1.1.14"
  | .rsaSha256 => some "1.2.840.113549.1.1.11"
  | .rsaSha384 => some "1.2.840.113549.1.1.12"
  | .rsaSha512 => some "1.2.840.113549.1.1.13"
  | .rsaSha3_224 => some "2.16.840.1.101.3.4.3.13"
  | .rsaSha3_256 => some "2.16.840.1.101.3.4.3.14"
  | .rsaSha3_384 => some "2.16.840.1.101.3.4.3.15"
  | .rsaSha3_512 => some "2.16.840.1.101.3.4.3.16"
  | .rsaRipemd160 => some "1.3.36.3.3.1.2"
  | .dsaSha1 => some "1.2.840.10040.4.3"
  | .dsaSha224 => some "2.16.840.1.101.3.4.3.1"
  | .dsaSha256 => some "2.16.840.1.101.3.4.3.2"
  | .dsaSha384 => some "2.16.840.1.101.3.4.3.3"
  | .dsaSha512 => some "2.16.840.1.101.3.4.3.4"
  | .dsaSha3_224 => some "2.16.840.1.101.3.4.3.5"
  | .dsaSha3_256 => some "2.16.840.1.101.3.4.3.6"
  | .dsaSha3_384 => some "2.16.840.1.101.3.4.3.7"
  | .dsaSha3_512 => some "2.16.840.1.101.3.4.3.8"
  | .ecdsaSha1 => some "1.2.840.10045.4.1"
  | .ecdsaSha224 => some "1.2.840.10045.4.3.1"
  | .ecdsaSha256 => some "1.2.840.10045.4.3.2"
  | .ecdsaSha384 => some "1.2.840.10045.4.3.3"
  | .ecdsaSha512 => some "1.2.840.10045.4.3.4"
  | .ecdsaSha3_224 => some "2.16.840.1.101.3.4.3.9"
  | .ecdsaSha3_256 => some "2.16.840.1.101.3.4.3.10"
  | .ecdsaSha3_384 => some "2.16.840.1.101.3.4.3.11"
  | .ecdsaSha3_512 => some "2.16.840.1.101.3.4.3.12"
  | .plainEcdsaSha1 => some "0.4.0.127.0.7.1.1.4.1.1"
  | .plainEcdsaSha224 => some "0.4.0.127.0.7.1.1.4.1.2"
  | .plainEcdsaSha256 => some "0.4.0.127.0.7.1.1.4.1.3"
  | .plainEcdsaSha384 => some "0.4.0.127.0.7.1.1.4.1.4"
  | .plainEcdsaSha512 => some "0.4.0.127.0.7.1.1.4.1.5"
  | .plainEcdsaRipemd160 => some "0.4.0.127.0.7.1.1.4.1.6"
  | .ed25519 => some "1.3.101.112"
  | .ed448 => some "1.3.101.113"
  | .hmacSha1 => some "1.2.840.113549.2.7"
  | .hmacSha224 => some "1.2.840.113549.2.8"
  | .hmacSha256 => some "1.2.840.113549.2.9"
  | .hmacSha384 => some "1.2.840.113549.2.10"
  | .hmacSha512 => some "1.2.840.113549.2.11"
  | .rsaSsaPssSha1Mgf1 | .rsaSsaPssSha224Mgf1 | .rsaSsaPssSha256Mgf1 | .rsaSsaPssSha384Mgf1 |
    .rsaSsaPssSha512Mgf1 | .rsaSsaPssSha3_224Mgf1 | .rsaSsaPssSha3_256Mgf1 |
    .rsaSsaPssSha3_384Mgf1 | .rsaSsaPssSha3_512Mgf1 => none

/-- The URI of a signature algorithm in signed XML, where one is registered. -/
def uri? : Signature → Option String
  | .rsaMd5 => some "http://www.w3.org/2001/04/xmldsig-more#rsa-md5"
  | .rsaSha1 => some "http://www.w3.org/2000/09/xmldsig#rsa-sha1"
  | .rsaSha224 => some "http://www.w3.org/2001/04/xmldsig-more#rsa-sha224"
  | .rsaSha256 => some "http://www.w3.org/2001/04/xmldsig-more#rsa-sha256"
  | .rsaSha384 => some "http://www.w3.org/2001/04/xmldsig-more#rsa-sha384"
  | .rsaSha512 => some "http://www.w3.org/2001/04/xmldsig-more#rsa-sha512"
  | .rsaRipemd160 => some "http://www.w3.org/2001/04/xmldsig-more#rsa-ripemd160"
  | .rsaSsaPssSha1Mgf1 => some "http://www.w3.org/2007/05/xmldsig-more#sha1-rsa-MGF1"
  | .rsaSsaPssSha224Mgf1 => some "http://www.w3.org/2007/05/xmldsig-more#sha224-rsa-MGF1"
  | .rsaSsaPssSha256Mgf1 => some "http://www.w3.org/2007/05/xmldsig-more#sha256-rsa-MGF1"
  | .rsaSsaPssSha384Mgf1 => some "http://www.w3.org/2007/05/xmldsig-more#sha384-rsa-MGF1"
  | .rsaSsaPssSha512Mgf1 => some "http://www.w3.org/2007/05/xmldsig-more#sha512-rsa-MGF1"
  | .rsaSsaPssSha3_224Mgf1 => some "http://www.w3.org/2007/05/xmldsig-more#sha3-224-rsa-MGF1"
  | .rsaSsaPssSha3_256Mgf1 => some "http://www.w3.org/2007/05/xmldsig-more#sha3-256-rsa-MGF1"
  | .rsaSsaPssSha3_384Mgf1 => some "http://www.w3.org/2007/05/xmldsig-more#sha3-384-rsa-MGF1"
  | .rsaSsaPssSha3_512Mgf1 => some "http://www.w3.org/2007/05/xmldsig-more#sha3-512-rsa-MGF1"
  | .dsaSha1 => some "http://www.w3.org/2000/09/xmldsig#dsa-sha1"
  | .dsaSha256 => some "http://www.w3.org/2009/xmldsig11#dsa-sha256"
  | .ecdsaSha1 => some "http://www.w3.org/2001/04/xmldsig-more#ecdsa-sha1"
  | .ecdsaSha224 => some "http://www.w3.org/2001/04/xmldsig-more#ecdsa-sha224"
  | .ecdsaSha256 => some "http://www.w3.org/2001/04/xmldsig-more#ecdsa-sha256"
  | .ecdsaSha384 => some "http://www.w3.org/2001/04/xmldsig-more#ecdsa-sha384"
  | .ecdsaSha512 => some "http://www.w3.org/2001/04/xmldsig-more#ecdsa-sha512"
  | .ecdsaSha3_224 => some "http://www.w3.org/2021/04/xmldsig-more#ecdsa-sha3-224"
  | .ecdsaSha3_256 => some "http://www.w3.org/2021/04/xmldsig-more#ecdsa-sha3-256"
  | .ecdsaSha3_384 => some "http://www.w3.org/2021/04/xmldsig-more#ecdsa-sha3-384"
  | .ecdsaSha3_512 => some "http://www.w3.org/2021/04/xmldsig-more#ecdsa-sha3-512"
  | .ed25519 => some "http://www.w3.org/2021/04/xmldsig-more#eddsa-ed25519"
  | .ed448 => some "http://www.w3.org/2021/04/xmldsig-more#eddsa-ed448"
  | .hmacSha1 => some "http://www.w3.org/2000/09/xmldsig#hmac-sha1"
  | .hmacSha224 => some "http://www.w3.org/2001/04/xmldsig-more#hmac-sha224"
  | .hmacSha256 => some "http://www.w3.org/2001/04/xmldsig-more#hmac-sha256"
  | .hmacSha384 => some "http://www.w3.org/2001/04/xmldsig-more#hmac-sha384"
  | .hmacSha512 => some "http://www.w3.org/2001/04/xmldsig-more#hmac-sha512"
  | .rsaSha3_224 | .rsaSha3_256 | .rsaSha3_384 | .rsaSha3_512 | .dsaSha224 | .dsaSha384 |
    .dsaSha512 | .dsaSha3_224 | .dsaSha3_256 | .dsaSha3_384 | .dsaSha3_512 | .plainEcdsaSha1 |
    .plainEcdsaSha224 | .plainEcdsaSha256 | .plainEcdsaSha384 | .plainEcdsaSha512 |
    .plainEcdsaRipemd160 => none

/-- The name that puts the digest first, as in `SHA256withRSA`. The Edwards-curve
and keyed algorithms have no such name. -/
def digestFirstName? (signature : Signature) : Option String :=
  let named (family : String) := some (signature.digest.name ++ "with" ++ family)
  match signature.family with
  | .rsa => named "RSA"
  | .rsassaPss => named "RSAandMGF1"
  | .dsa => named "DSA"
  | .ecdsa => named "ECDSA"
  | .plainEcdsa => named "PLAIN-ECDSA"
  | .eddsa | .hmac => none

end Signature

end AlgorithmPolicy

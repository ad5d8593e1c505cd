import AlgorithmPolicy.Algorithm.Name
import AlgorithmPolicy.Registry

namespace AlgorithmPolicy

/-! A directory knows algorithms by object identifier, by URI and by name. Within
each of the three lists a key belongs to whatever was entered under it first. -/

/-- What is entered under keys, in the order of entry. -/
abbrev Listing : Type := List (String × Resolved)

namespace Listing

def find? (listing : Listing) (key : String) : Option Resolved :=
  List.lookup key listing

/-- An entry under a key that is already taken has no effect. -/
def enter (listing : Listing) (key : String) (resolved : Resolved) : Listing :=
  match listing.find? key with
  | some _ => listing
  | none => listing ++ [(key, resolved)]

/-- Enters in order whatever has a key. -/
def enterAll (listing : Listing) (entries : List (Option String × Resolved)) : Listing :=
  entries.foldl
    (fun listing (key, resolved) =>
      match key with
      | some key => listing.enter key resolved
      | none => listing)
    listing

end Listing

structure Directory where
  objectIdentifiers : Listing
  uris : Listing
  names : Listing

namespace Directory

/-! ## Building -/

/-- Enters an algorithm under the normal form of a name. What is unknown cannot be
named. -/
def withAlias (directory : Directory) (name : String) (resolved : Resolved) : Directory :=
  if resolved = .unknown then directory
  else { directory with names := directory.names.enter (Name.normalize name) resolved }

def withAliases (directory : Directory) (aliases : List (String × Resolved)) : Directory :=
  aliases.foldl (fun directory (name, resolved) => directory.withAlias name resolved) directory

def standardObjectIdentifiers : List (Option String × Resolved) :=
  Digest.all.map (fun digest => (some digest.oid, .digest digest)) ++
    EncryptionFamily.all.map (fun family => (family.oid?, .encryption family)) ++
    Signature.all.map (fun signature => (signature.oid?, .signature signature))

def standardUris : List (Option String × Resolved) :=
  Digest.all.map (fun digest => (digest.uri?, .digest digest)) ++
    Signature.all.map (fun signature => (signature.uri?, .signature signature))

def standardNames : List (Option String × Resolved) :=
  Digest.all.map (fun digest => (some digest.name, .digest digest)) ++
    EncryptionFamily.all.map (fun family => (some family.name, .encryption family)) ++
    Signature.all.flatMap fun signature =>
      [(some signature.name, .signature signature),
       (signature.digestFirstName?, .signature signature)]

/-- Every algorithm of the three vocabularies under all its identifiers. -/
def standard : Directory where
  objectIdentifiers := Listing.enterAll [] standardObjectIdentifiers
  uris := Listing.enterAll [] standardUris
  names := Listing.enterAll [] (standardNames.map fun (name, resolved) =>
    (name.map Name.normalize, resolved))

/-- The number of names under which something is entered. -/
def nameCount (directory : Directory) : Nat :=
  directory.names.length

/-! ## Looking up -/

/-- Object identifiers may be written as URNs. -/
def urnLead : List Char :=
  "urn:oid:".toList

def withoutUrnLead (text : List Char) : List Char :=
  if urnLead.isPrefixOf text then text.drop urnLead.length else text

def resolveObjectIdentifier? (directory : Directory) (text : String) : Option Resolved :=
  directory.objectIdentifiers.find?
    (String.ofList (withoutUrnLead (Text.trim text).toList))

def resolveUri? (directory : Directory) (text : String) : Option Resolved :=
  directory.uris.find? (Text.trim text)

/-- A name without any significant character names nothing. -/
def resolveName? (directory : Directory) (text : String) : Option Resolved :=
  let key := Name.normalize text
  if key = "" then none else directory.names.find? key

/-- The first object identifier that is known decides, then the first such URI,
then the name. -/
def resolve (directory : Directory) (identifier : Policy.Identifier) : Resolved :=
  ((identifier.objectIdentifiers.findSome? directory.resolveObjectIdentifier?).or
    ((identifier.uris.findSome? directory.resolveUri?).or
      (directory.resolveName? identifier.name))).getD .unknown

/-- Resolves a text that may be an object identifier, a URI or a name. -/
def resolveReference (directory : Directory) (text : String) : Resolved :=
  let reference := Text.trim text
  ((directory.resolveObjectIdentifier? reference).or
    ((directory.resolveUri? reference).or
      (directory.resolveName? reference))).getD .unknown

/-- The registry that resolves by this directory and composes as usual. -/
def registry (directory : Directory) : Registry where
  resolve := directory.resolve
  compose? := Signature.compose?
  keySizeParameter? := EncryptionFamily.keySizeParameter?

end Directory

end AlgorithmPolicy

import AlgorithmPolicy.Proofs.Algorithm.Name
import AlgorithmPolicy.Proofs.Registry.Listing

/-! What the standard directory enters. Object identifiers consist of digits and dots, URIs are
links, and names consist of letters and digits with some hyphens and underscores, so that none
of these texts can be taken for one of another kind. -/

namespace AlgorithmPolicy.Directory

/-! ## Kinds of texts -/

def isDotted (text : List Char) : Bool :=
  text.all (fun character => character.isDigit || character == '.') &&
    text.any fun character => character == '.'

def isLink (text : List Char) : Bool :=
  ['h', 't', 't', 'p', ':'].isPrefixOf text

def isNameCharacter (character : Char) : Bool :=
  character.isAlphanum || character == '-' || character == '_'

/-- Not all of a name are separators. -/
def isName (text : List Char) : Bool :=
  text.all isNameCharacter && text.any fun character => !Name.isSeparator character

theorem isNameCharacter_upperAscii {character : Char}
    (isPlain : isNameCharacter character = true) :
    isNameCharacter (Name.upperAscii character) = true := by
  by_cases isAscii : character.toNat < 128
  · revert isPlain
    apply Name.holds_of_isAscii
      (fun other => isNameCharacter other = true → isNameCharacter (Name.upperAscii other) = true)
      _ isAscii
    decide
  · rw [Name.upperAscii_of_not_isAscii isAscii]
    exact isPlain

/-- Characters other than those of names do not get lost in normal forms. -/
theorem isNameCharacter_of_mem_normalizeCharacters {text : List Char} (isNamed : isName text)
    {character : Char} (member : character ∈ Name.normalizeCharacters text) :
    isNameCharacter character = true := by
  rw [isName, Bool.and_eq_true, List.all_eq_true] at isNamed
  rcases List.mem_map.mp member with ⟨source, isKept, rfl⟩
  exact isNameCharacter_upperAscii (isNamed.1 source (List.mem_filter.mp isKept).1)

theorem isName_append {left right : List Char} (isLeft : isName left) (isRight : isName right) :
    isName (left ++ right) := by
  rw [isName, Bool.and_eq_true] at isLeft isRight ⊢
  rw [List.all_append, List.any_append, isLeft.1, isLeft.2, isRight.1]
  exact ⟨rfl, rfl⟩

theorem normalize_ne_empty_of_isName {name : String} (isNamed : isName name.toList) :
    Name.normalize name ≠ "" := by
  intro isEmpty
  rw [isName, Bool.and_eq_true, List.any_eq_true] at isNamed
  rcases isNamed.2 with ⟨character, member, isSignificant⟩
  rw [Name.normalize_eq_empty_iff.mp isEmpty character member] at isSignificant
  cases isSignificant

/-! ## Algorithms

A literal is taken for the text of its characters; to decode it would take long. -/

private theorem holds_of_characters {Holds : List Char → Bool} {characters : List Char}
    (checked : Holds characters = true) : Holds (String.ofList characters).toList = true := by
  rw [String.toList_ofList]
  exact checked

theorem isName_digest (digest : Digest) : isName digest.name.toList := by
  cases digest <;> exact holds_of_characters rfl

theorem isName_family (family : EncryptionFamily) : isName family.name.toList := by
  cases family <;> exact holds_of_characters rfl

theorem isName_signature (signature : Signature) : isName signature.name.toList := by
  cases signature <;> exact holds_of_characters rfl

theorem isName_digestFirst {signature : Signature} {name : String}
    (isNamed : signature.digestFirstName? = some name) : isName name.toList := by
  have isName_named : ∀ family : String, isName family.toList →
      isName (signature.digest.name ++ "with" ++ family).toList := by
    intro family isFamily
    rw [String.toList_append, String.toList_append]
    have isWith : isName "with".toList := holds_of_characters rfl
    exact isName_append (isName_append (isName_digest signature.digest) isWith) isFamily
  rw [Signature.digestFirstName?] at isNamed
  split at isNamed <;> cases isNamed <;> exact isName_named _ (holds_of_characters rfl)

theorem isDotted_digest (digest : Digest) : isDotted digest.oid.toList := by
  cases digest <;> exact holds_of_characters rfl

theorem isDotted_family {family : EncryptionFamily} {oid : String}
    (isRegistered : family.oid? = some oid) : isDotted oid.toList := by
  cases family <;> cases isRegistered <;> exact holds_of_characters rfl

theorem isDotted_signature {signature : Signature} {oid : String}
    (isRegistered : signature.oid? = some oid) : isDotted oid.toList := by
  cases signature <;> cases isRegistered <;> exact holds_of_characters rfl

theorem isLink_digest {digest : Digest} {uri : String} (isRegistered : digest.uri? = some uri) :
    isLink uri.toList := by
  cases digest <;> cases isRegistered <;> exact holds_of_characters rfl

theorem isLink_signature {signature : Signature} {uri : String}
    (isRegistered : signature.uri? = some uri) : isLink uri.toList := by
  cases signature <;> cases isRegistered <;> exact holds_of_characters rfl

/-! ## Entries -/

/-- A known algorithm is entered under texts of one kind, if at all. -/
structure IsEntry (isKind : List Char → Bool) (entry : Option String × Resolved) : Prop where
  isKind : ∀ text ∈ entry.1, isKind text.toList
  isKnown : entry.2 ≠ .unknown

theorem isEntry_of_mem_standardObjectIdentifiers {entry : Option String × Resolved}
    (member : entry ∈ standardObjectIdentifiers) : IsEntry isDotted entry := by
  rw [standardObjectIdentifiers, List.mem_append, List.mem_append] at member
  rcases member with (isDigest | isFamily) | isSignature
  · rcases List.mem_map.mp isDigest with ⟨digest, -, rfl⟩
    constructor
    case isKind =>
      intro text isText
      rw [← Option.some_inj.mp isText]
      exact isDotted_digest digest
    case isKnown => nofun
  · rcases List.mem_map.mp isFamily with ⟨family, -, rfl⟩
    exact ⟨fun _ => isDotted_family, nofun⟩
  · rcases List.mem_map.mp isSignature with ⟨signature, -, rfl⟩
    exact ⟨fun _ => isDotted_signature, nofun⟩

theorem isEntry_of_mem_standardUris {entry : Option String × Resolved}
    (member : entry ∈ standardUris) : IsEntry isLink entry := by
  rw [standardUris, List.mem_append] at member
  rcases member with isDigest | isSignature
  · rcases List.mem_map.mp isDigest with ⟨digest, -, rfl⟩
    exact ⟨fun _ => isLink_digest, nofun⟩
  · rcases List.mem_map.mp isSignature with ⟨signature, -, rfl⟩
    exact ⟨fun _ => isLink_signature, nofun⟩

theorem isEntry_of_mem_standardNames {entry : Option String × Resolved}
    (member : entry ∈ standardNames) : IsEntry isName entry := by
  have isEntry_of_name : ∀ (name : String) (resolved : Resolved), isName name.toList →
      resolved ≠ .unknown → IsEntry isName (some name, resolved) := by
    intro name resolved isNamed isKnown
    constructor
    case isKind =>
      intro text isText
      rw [← Option.some_inj.mp isText]
      exact isNamed
    case isKnown => exact isKnown
  rw [standardNames, List.mem_append, List.mem_append] at member
  rcases member with (isDigest | isFamily) | isSignature
  · rcases List.mem_map.mp isDigest with ⟨digest, -, rfl⟩
    exact isEntry_of_name digest.name _ (isName_digest digest) nofun
  · rcases List.mem_map.mp isFamily with ⟨family, -, rfl⟩
    exact isEntry_of_name family.name _ (isName_family family) nofun
  · rcases List.mem_flatMap.mp isSignature with ⟨signature, -, isNamed⟩
    rcases List.mem_cons.mp isNamed with rfl | isDigestFirst
    · exact isEntry_of_name signature.name _ (isName_signature signature) nofun
    · rw [List.mem_singleton.mp isDigestFirst]
      exact ⟨fun _ => isName_digestFirst, nofun⟩

/-! ## Looking up -/

theorem isEntry_of_find?_objectIdentifiers {key : String} {resolved : Resolved}
    (found : standard.objectIdentifiers.find? key = some resolved) :
    IsEntry isDotted (some key, resolved) := by
  simp only [standard] at found
  exact isEntry_of_mem_standardObjectIdentifiers (Listing.mem_of_find?_enterAll_nil found)

theorem isEntry_of_find?_uris {key : String} {resolved : Resolved}
    (found : standard.uris.find? key = some resolved) : IsEntry isLink (some key, resolved) := by
  simp only [standard] at found
  exact isEntry_of_mem_standardUris (Listing.mem_of_find?_enterAll_nil found)

theorem exists_isEntry_of_find?_names {key : String} {resolved : Resolved}
    (found : standard.names.find? key = some resolved) :
    ∃ name, IsEntry isName (some name, resolved) ∧ Name.normalize name = key := by
  simp only [standard] at found
  rcases List.mem_map.mp (Listing.mem_of_find?_enterAll_nil found) with
    ⟨⟨text, known⟩, member, isEntry⟩
  rcases Option.map_eq_some_iff.mp (Prod.mk.inj isEntry).1 with ⟨name, rfl, isKey⟩
  rcases (Prod.mk.inj isEntry).2 with rfl
  exact ⟨name, isEntry_of_mem_standardNames member, isKey⟩

end AlgorithmPolicy.Directory

import AlgorithmPolicy.Proofs.Registry.Standard

/-! What a text identifies. It can only be one of an object identifier, a URI and a name, so that
references, for which all three are tried, name the same algorithms as identifiers, which tell
them apart. -/

namespace AlgorithmPolicy

/-- How a text may identify an algorithm. -/
inductive Scheme
  | objectIdentifier
  | uri
  | name
  deriving DecidableEq

namespace Scheme

def all : List Scheme :=
  [.objectIdentifier, .uri, .name]

theorem mem_all (scheme : Scheme) : scheme ∈ all := by
  cases scheme <;> decide

/-- An identifier that gives a text in one way only. -/
def identifier (text : String) : Scheme → Policy.Identifier
  | .objectIdentifier => ⟨"", [text], []⟩
  | .uri => ⟨"", [], [text]⟩
  | .name => .named text

end Scheme

namespace Directory

def answer? (directory : Directory) (text : String) : Scheme → Option Resolved
  | .objectIdentifier => directory.resolveObjectIdentifier? text
  | .uri => directory.resolveUri? text
  | .name => directory.resolveName? text

/-! ## Answers -/

theorem resolveName?_empty (directory : Directory) : directory.resolveName? "" = none := by
  rw [resolveName?]
  exact if_pos (by decide)

theorem resolve_identifier (directory : Directory) (text : String) (scheme : Scheme) :
    directory.resolve (scheme.identifier text) = (directory.answer? text scheme).getD .unknown := by
  cases scheme with
  | objectIdentifier =>
      simp [resolve, Scheme.identifier, answer?, resolveName?_empty]
  | uri => simp [resolve, Scheme.identifier, answer?, resolveName?_empty]
  | name => simp [resolve, Scheme.identifier, Policy.Identifier.named, answer?]

/-- Blanks at the ends of a text do not matter in any way of identifying. -/
theorem answer?_of_isPaddedFrom (directory : Directory) {text padded : String}
    (isPadded : Text.IsPaddedFrom text padded) :
    directory.answer? padded = directory.answer? text := by
  funext scheme
  cases scheme with
  | objectIdentifier =>
      simp only [answer?, resolveObjectIdentifier?, Text.trim_eq_of_isPaddedFrom isPadded]
  | uri => simp only [answer?, resolveUri?, Text.trim_eq_of_isPaddedFrom isPadded]
  | name => simp only [answer?, resolveName?, Name.normalize_eq_of_isPaddedFrom isPadded]

/-- A reference is tried in every way. -/
theorem resolveReference_eq (directory : Directory) (text : String) :
    directory.resolveReference text =
      (Scheme.all.findSome? (directory.answer? text)).getD .unknown := by
  have trimmed := answer?_of_isPaddedFrom directory (Text.isPaddedFrom_trim text)
  rw [trimmed, resolveReference]
  simp only [Scheme.all, List.findSome?_cons, List.findSome?_nil, answer?]
  cases directory.resolveObjectIdentifier? (Text.trim text) with
  | some resolved => rfl
  | none =>
      cases directory.resolveUri? (Text.trim text) with
      | some resolved => rfl
      | none => cases directory.resolveName? (Text.trim text) <;> rfl

/-! ## One scheme for each text -/

theorem isLink_iff {characters : List Char} :
    isLink characters ↔ ∃ rest, characters = 'h' :: 't' :: 't' :: 'p' :: ':' :: rest := by
  rw [isLink, List.isPrefixOf_iff_prefix]
  constructor
  · intro isLink
    rcases isLink with ⟨rest, rfl⟩
    exact ⟨rest, rfl⟩
  · intro isLink
    rcases isLink with ⟨rest, rfl⟩
    exact ⟨rest, rfl⟩

theorem mem_of_mem_withoutUrnLead {characters : List Char} {character : Char}
    (member : character ∈ withoutUrnLead characters) : character ∈ characters := by
  rw [withoutUrnLead] at member
  split at member
  · exact List.mem_of_mem_drop member
  · exact member

theorem withoutUrnLead_of_link {rest : List Char} :
    withoutUrnLead ('h' :: rest) = 'h' :: rest := by
  have isLead : urnLead = ['u', 'r', 'n', ':', 'o', 'i', 'd', ':'] := String.toList_ofList
  rw [withoutUrnLead, isLead]
  rfl

theorem not_isLink_of_isDotted {characters : List Char}
    (dotted : isDotted (withoutUrnLead characters)) : ¬ isLink characters := by
  intro link
  rcases isLink_iff.mp link with ⟨rest, rfl⟩
  rw [withoutUrnLead_of_link, isDotted, Bool.and_eq_true, List.all_eq_true] at dotted
  have impossible := dotted.1 'h' List.mem_cons_self
  revert impossible
  decide

/-- The only scheme by which the standard directory may know a text. -/
def onlyScheme (text : String) : Scheme :=
  let characters := (Text.trim text).toList
  if isLink characters then .uri
  else if '.' ∈ characters then .objectIdentifier
  else .name

section Standard

variable {text : String} {resolved : Resolved}

theorem onlyScheme_of_objectIdentifier
    (found : standard.resolveObjectIdentifier? text = some resolved) :
    onlyScheme text = .objectIdentifier ∧ resolved ≠ .unknown := by
  have isEntry := isEntry_of_find?_objectIdentifiers found
  have dotted := isEntry.isKind _ rfl
  rw [String.toList_ofList] at dotted
  have hasDot : '.' ∈ (Text.trim text).toList := by
    have someDot := dotted
    rw [isDotted, Bool.and_eq_true, List.any_eq_true] at someDot
    rcases someDot.2 with ⟨character, member, isDot⟩
    rw [beq_iff_eq.mp isDot] at member
    exact mem_of_mem_withoutUrnLead member
  refine ⟨?_, isEntry.isKnown⟩
  rw [onlyScheme]
  exact (if_neg (not_isLink_of_isDotted dotted)).trans (if_pos hasDot)

theorem onlyScheme_of_uri (found : standard.resolveUri? text = some resolved) :
    onlyScheme text = .uri ∧ resolved ≠ .unknown := by
  have isEntry := isEntry_of_find?_uris found
  have link := isEntry.isKind (Text.trim text) rfl
  refine ⟨?_, isEntry.isKnown⟩
  rw [onlyScheme]
  exact if_pos link

theorem onlyScheme_of_name (found : standard.resolveName? text = some resolved) :
    onlyScheme text = .name ∧ resolved ≠ .unknown := by
  rw [resolveName?] at found
  split at found
  · cases found
  rcases exists_isEntry_of_find?_names found with ⟨name, isEntry, sameNormal⟩
  have isNamed := isEntry.isKind name rfl
  -- What is no character of names would show in the normal form.
  have isAbsent : ∀ character, Name.isSeparator character = false →
      Name.upperAscii character = character → isNameCharacter character = false →
      character ∉ (Text.trim text).toList := by
    intro character isSignificant isUpper isForeign member
    have inNormal := Name.mem_normalizeCharacters member isSignificant isUpper
    rw [← Name.normalize_trim text, Name.normalize, Name.normalize, String.ofList_inj]
      at sameNormal
    rw [← sameNormal] at inNormal
    rw [isNameCharacter_of_mem_normalizeCharacters isNamed inNormal] at isForeign
    cases isForeign
  have hasNoDot := isAbsent '.' (by decide) (by decide) (by decide)
  have hasNoColon := isAbsent ':' (by decide) (by decide) (by decide)
  have isNoLink : ¬ isLink (Text.trim text).toList := by
    intro link
    rcases isLink_iff.mp link with ⟨rest, same⟩
    rw [same] at hasNoColon
    simp at hasNoColon
  refine ⟨?_, isEntry.isKnown⟩
  rw [onlyScheme]
  exact (if_neg isNoLink).trans (if_neg hasNoDot)

theorem onlyScheme_of_answer {scheme : Scheme}
    (answered : standard.answer? text scheme = some resolved) :
    onlyScheme text = scheme ∧ resolved ≠ .unknown := by
  cases scheme with
  | objectIdentifier => exact onlyScheme_of_objectIdentifier answered
  | uri => exact onlyScheme_of_uri answered
  | name => exact onlyScheme_of_name answered

theorem scheme_unique {scheme other : Scheme} {otherResolved : Resolved}
    (answered : standard.answer? text scheme = some resolved)
    (otherAnswered : standard.answer? text other = some otherResolved) : scheme = other :=
  (onlyScheme_of_answer answered).1.symm.trans (onlyScheme_of_answer otherAnswered).1

/-- Whatever order the schemes are tried in, the only answer that there is comes out. -/
theorem findSome?_answer?_eq_some_iff {order : List Scheme}
    (isComplete : ∀ scheme, scheme ∈ order) :
    order.findSome? (standard.answer? text) = some resolved ↔
      ∃ scheme, standard.answer? text scheme = some resolved := by
  constructor
  · intro found
    rcases List.exists_of_findSome?_eq_some found with ⟨scheme, -, answered⟩
    exact ⟨scheme, answered⟩
  · intro answers
    rcases answers with ⟨scheme, answered⟩
    have isFound : (order.findSome? (standard.answer? text)).isSome := by
      rw [List.findSome?_isSome_iff]
      exact ⟨scheme, isComplete scheme, by rw [answered]; rfl⟩
    rcases Option.isSome_iff_exists.mp isFound with ⟨found, isFirst⟩
    rcases List.exists_of_findSome?_eq_some isFirst with ⟨other, -, otherAnswered⟩
    rw [isFirst, ← otherAnswered, ← scheme_unique answered otherAnswered, answered]

theorem resolveReference_eq_iff (isKnown : resolved ≠ .unknown) :
    standard.resolveReference text = resolved ↔
      ∃ scheme, standard.answer? text scheme = some resolved := by
  rw [← findSome?_answer?_eq_some_iff Scheme.mem_all, resolveReference_eq]
  cases Scheme.all.findSome? (standard.answer? text) with
  | none => simp [isKnown.symm]
  | some found => simp

theorem resolve_identifier_eq_iff {scheme : Scheme} (isKnown : resolved ≠ .unknown) :
    standard.resolve (scheme.identifier text) = resolved ↔
      standard.answer? text scheme = some resolved := by
  rw [resolve_identifier]
  cases standard.answer? text scheme with
  | none => simp [isKnown.symm]
  | some found => simp

theorem resolve_identifier_of_answer {scheme other : Scheme}
    (answered : standard.answer? text scheme = some resolved) (isOther : other ≠ scheme) :
    standard.resolve (other.identifier text) = .unknown := by
  rw [resolve_identifier]
  cases otherAnswer : standard.answer? text other with
  | none => rfl
  | some found => exact absurd (scheme_unique otherAnswer answered) isOther

end Standard

/-! ## Unknown texts in identifiers -/

/-- One list of texts is another one with texts in between that get no answer. -/
inductive IsWidenedFrom (resolve? : String → Option Resolved) : List String → List String → Prop
  | nil : IsWidenedFrom resolve? [] []
  | keep {texts wider : List String} (text : String)
      (isWidened : IsWidenedFrom resolve? texts wider) :
      IsWidenedFrom resolve? (text :: texts) (text :: wider)
  | add {texts wider : List String} {text : String} (isUnknown : resolve? text = none)
      (isWidened : IsWidenedFrom resolve? texts wider) :
      IsWidenedFrom resolve? texts (text :: wider)

theorem findSome?_of_isWidenedFrom {resolve? : String → Option Resolved}
    {texts wider : List String} (isWidened : IsWidenedFrom resolve? texts wider) :
    wider.findSome? resolve? = texts.findSome? resolve? := by
  induction isWidened with
  | nil => rfl
  | keep text isWidened induction => rw [List.findSome?_cons, List.findSome?_cons, induction]
  | add isUnknown isWidened induction => rw [List.findSome?_cons, isUnknown, induction]

/-- An identifier has further object identifiers and URIs which the directory does not know. -/
structure Widens (directory : Directory) (identifier wider : Policy.Identifier) : Prop where
  name : wider.name = identifier.name
  objectIdentifiers : IsWidenedFrom directory.resolveObjectIdentifier?
    identifier.objectIdentifiers wider.objectIdentifiers
  uris : IsWidenedFrom directory.resolveUri? identifier.uris wider.uris

theorem resolve_of_widens {directory : Directory} {identifier wider : Policy.Identifier}
    (widens : directory.Widens identifier wider) :
    directory.resolve wider = directory.resolve identifier := by
  rw [resolve, resolve, widens.name, findSome?_of_isWidenedFrom widens.objectIdentifiers,
    findSome?_of_isWidenedFrom widens.uris]

/-! ## References and identifiers -/

/-- What a text identifies, it identifies in one way only, as a reference and in an identifier
alike, whatever blanks and unknown texts are around it. -/
structure IdentifiesOnce (directory : Directory) (text : String) : Prop where
  atMostOne : ∀ scheme other, (directory.answer? text scheme).isSome →
    (directory.answer? text other).isSome → scheme = other
  anyOrder : ∀ order : List Scheme, (∀ scheme, scheme ∈ order) →
    directory.resolveReference text = (order.findSome? (directory.answer? text)).getD .unknown
  isReference_iff : ∀ resolved, resolved ≠ .unknown →
    (directory.resolveReference text = resolved ↔
      ∃ scheme : Scheme, directory.resolve (scheme.identifier text) = resolved ∧
        ∀ other : Scheme, other ≠ scheme →
          directory.resolve (other.identifier text) = .unknown)
  paddedAnswers : ∀ padded, Text.IsPaddedFrom text padded →
    directory.answer? padded = directory.answer? text
  paddedReferences : ∀ padded, Text.IsPaddedFrom text padded →
    directory.resolveReference padded = directory.resolveReference text
  widenedIdentifiers : ∀ (scheme : Scheme) padded wider, Text.IsPaddedFrom text padded →
    directory.Widens (scheme.identifier padded) wider →
      directory.resolve wider = directory.resolve (scheme.identifier text)

theorem identifiesOnce (text : String) : standard.IdentifiesOnce text := by
  constructor
  case atMostOne =>
    intro scheme other isAnswered isOtherAnswered
    rcases Option.isSome_iff_exists.mp isAnswered with ⟨resolved, answered⟩
    rcases Option.isSome_iff_exists.mp isOtherAnswered with ⟨otherResolved, otherAnswered⟩
    exact scheme_unique answered otherAnswered
  case anyOrder =>
    intro order isComplete
    have sameAnswer : Scheme.all.findSome? (standard.answer? text) =
        order.findSome? (standard.answer? text) := by
      apply Option.ext
      intro resolved
      rw [findSome?_answer?_eq_some_iff Scheme.mem_all, findSome?_answer?_eq_some_iff isComplete]
    rw [resolveReference_eq, sameAnswer]
  case isReference_iff =>
    intro resolved isKnown
    rw [resolveReference_eq_iff isKnown]
    constructor
    · intro answers
      rcases answers with ⟨scheme, answered⟩
      refine ⟨scheme, (resolve_identifier_eq_iff isKnown).mpr answered, ?_⟩
      intro other
      exact resolve_identifier_of_answer answered
    · intro identified
      rcases identified with ⟨scheme, isResolved, -⟩
      exact ⟨scheme, (resolve_identifier_eq_iff isKnown).mp isResolved⟩
  case paddedAnswers =>
    intro padded
    exact answer?_of_isPaddedFrom standard
  case paddedReferences =>
    intro padded isPadded
    rw [resolveReference_eq, resolveReference_eq, answer?_of_isPaddedFrom standard isPadded]
  case widenedIdentifiers =>
    intro scheme padded wider isPadded widens
    rw [resolve_of_widens widens, resolve_identifier, resolve_identifier,
      answer?_of_isPaddedFrom standard isPadded]

/-- One algorithm, identified in each way. -/
example : standard.answer? "urn:oid:2.16.840.1.101.3.4.2.1" .objectIdentifier =
      some (.digest .sha256) ∧
    standard.answer? "http://www.w3.org/2001/04/xmlenc#sha256" .uri = some (.digest .sha256) ∧
    standard.answer? "SHA-256" .name = some (.digest .sha256) := by
  -- The entries are searched without building the listings.
  simp only [answer?, resolveObjectIdentifier?, resolveUri?, resolveName?, standard,
    Listing.find?_enterAll]
  decide +kernel

end Directory

end AlgorithmPolicy

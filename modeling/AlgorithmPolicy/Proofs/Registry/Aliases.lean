import AlgorithmPolicy.Proofs.Algorithm.Name
import AlgorithmPolicy.Proofs.Registry.Listing
import AlgorithmPolicy.Suite

/-! What aliases add to a directory. They are asked last, the earliest first, so that they
extend what is known by name and change no answer. -/

namespace AlgorithmPolicy

/-! ## Resolving the same -/

/-- Two registries resolve the identifiers of some entries alike, and derive alike from them. -/
structure Registry.ResolvesAlike (left right : Registry) (entries : List Policy.Entry) : Prop where
  resolve : ∀ entry ∈ entries, left.resolve entry.identifier = right.resolve entry.identifier
  compose : left.compose? = right.compose?
  keySizeParameter : left.keySizeParameter? = right.keySizeParameter?

section Alike

variable {left right : Registry} {policy : Policy}

theorem Catalogue.ofPolicy_eq_of_resolvesAlike
    (alike : left.ResolvesAlike right policy.entries) :
    Catalogue.ofPolicy left policy = Catalogue.ofPolicy right policy := by
  have sameRecords : policy.entries.map (Record.ofEntry left) =
      policy.entries.map (Record.ofEntry right) := by
    apply List.map_congr_left
    intro entry member
    rw [Record.ofEntry, Record.ofEntry, alike.resolve entry member]
  rw [Catalogue.ofPolicy, Catalogue.ofPolicy, sameRecords]

/-- How identifiers are resolved matters no more once there is a catalogue. -/
theorem Acceptability.ofRecords_withResolve (registry : Registry)
    (resolve : Policy.Identifier → Resolved) (records : List Catalogue.Record) :
    ofRecords { registry with resolve } records = ofRecords registry records :=
  rfl

theorem Suite.ofPolicy_eq_of_resolvesAlike (alike : left.ResolvesAlike right policy.entries) :
    Suite.ofPolicy left policy = Suite.ofPolicy right policy := by
  have sameRest : { right with resolve := left.resolve } = left := by
    rw [← alike.compose, ← alike.keySizeParameter]
  have sameViews : ∀ records,
      Acceptability.ofRecords left records = Acceptability.ofRecords right records := by
    intro records
    rw [← sameRest]
    exact Acceptability.ofRecords_withResolve right left.resolve records
  rw [Suite.ofPolicy, Suite.ofPolicy, Catalogue.ofPolicy_eq_of_resolvesAlike alike, sameViews]

end Alike

namespace Directory

/-! ## Names -/

/-- What an alias enters, and under which key; nothing if its algorithm is unknown. -/
def aliasEntry : String × Resolved → Option String × Resolved
  | (name, resolved) =>
      (if resolved = .unknown then none else some (Name.normalize name), resolved)

theorem withAlias_eq (directory : Directory) (name : String) (resolved : Resolved) :
    directory.withAlias name resolved =
      { directory with names := directory.names.enterAll [aliasEntry (name, resolved)] } := by
  rw [withAlias, aliasEntry]
  split <;> rfl

theorem withAliases_eq (directory : Directory) (aliases : List (String × Resolved)) :
    directory.withAliases aliases =
      { directory with names := directory.names.enterAll (aliases.map aliasEntry) } := by
  induction aliases generalizing directory with
  | nil => rfl
  | cons entry aliases induction =>
      have step : directory.withAliases (entry :: aliases) =
          (directory.withAlias entry.1 entry.2).withAliases aliases := rfl
      rw [step, induction, withAlias_eq]
      rfl

/-- What the first alias says whose normal form is a key and whose algorithm is known. -/
def aliasFor? (aliases : List (String × Resolved)) (key : String) : Option Resolved :=
  (aliases.find? fun (name, resolved) =>
    resolved ≠ .unknown ∧ Name.normalize name = key).map (·.2)

theorem firstUnder_aliasEntries (aliases : List (String × Resolved)) (key : String) :
    Listing.firstUnder (aliases.map aliasEntry) key = aliasFor? aliases key := by
  induction aliases with
  | nil => rfl
  | cons entry aliases induction =>
      rcases entry with ⟨name, resolved⟩
      rw [Listing.firstUnder, aliasFor?] at induction
      rw [Listing.firstUnder, aliasFor?, List.map_cons, List.findSome?_cons, List.find?_cons,
        aliasEntry]
      by_cases isUnknown : resolved = .unknown
      · simp [isUnknown, induction]
      · by_cases isKey : Name.normalize name = key <;> simp [isUnknown, isKey, induction]

theorem resolveName?_normalize (directory : Directory) (text : String) :
    directory.resolveName? (Name.normalize text) = directory.resolveName? text := by
  rw [resolveName?, resolveName?, Name.normalize_normalize]

theorem resolveName?_withAliases (directory : Directory) (aliases : List (String × Resolved))
    (text : String) :
    (directory.withAliases aliases).resolveName? text =
      if Name.normalize text = "" then none
      else (directory.resolveName? text).or (aliasFor? aliases (Name.normalize text)) := by
  rw [resolveName?, resolveName?, withAliases_eq]
  dsimp only
  split
  · rfl
  · rw [Listing.find?_enterAll, firstUnder_aliasEntries]

theorem resolveName?_withAliases_of_eq_some (directory : Directory)
    (aliases : List (String × Resolved)) {text : String} {resolved : Resolved}
    (isNamed : directory.resolveName? text = some resolved) :
    (directory.withAliases aliases).resolveName? text = some resolved := by
  have isSignificant : Name.normalize text ≠ "" := by
    intro isEmpty
    rw [resolveName?, if_pos isEmpty] at isNamed
    cases isNamed
  rw [resolveName?_withAliases, if_neg isSignificant, isNamed, Option.some_or]

/-! ## Identifiers -/

theorem resolveObjectIdentifier?_withAliases (directory : Directory)
    (aliases : List (String × Resolved)) :
    (directory.withAliases aliases).resolveObjectIdentifier? =
      directory.resolveObjectIdentifier? := by
  rw [withAliases_eq]
  rfl

theorem resolveUri?_withAliases (directory : Directory) (aliases : List (String × Resolved)) :
    (directory.withAliases aliases).resolveUri? = directory.resolveUri? := by
  rw [withAliases_eq]
  rfl

theorem resolve_withAliases (directory : Directory) (aliases : List (String × Resolved))
    {identifier : Policy.Identifier} (isKnown : directory.resolve identifier ≠ .unknown) :
    (directory.withAliases aliases).resolve identifier = directory.resolve identifier := by
  rw [resolve, resolveObjectIdentifier?_withAliases, resolveUri?_withAliases]
  rw [resolve] at isKnown ⊢
  cases isNamed : directory.resolveName? identifier.name with
  | some resolved =>
      rw [resolveName?_withAliases_of_eq_some directory aliases isNamed]
  | none =>
      -- Without a name it is one of the others that is known, and it goes before the aliases.
      rw [isNamed, Option.or_none] at isKnown
      cases byUri : identifier.uris.findSome? directory.resolveUri? with
      | some resolved => rw [Option.some_or, Option.some_or]
      | none =>
          rw [byUri, Option.or_none] at isKnown
          cases byObjectIdentifier :
              identifier.objectIdentifiers.findSome? directory.resolveObjectIdentifier? with
          | some resolved => rw [Option.some_or, Option.some_or]
          | none =>
              rw [byObjectIdentifier] at isKnown
              exact absurd rfl isKnown

/-! ## Extended directories -/

/-- Aliases name what has no name yet, each key after the first of them, and leave everything
alone that the directory knows. -/
structure IsExtendedBy (directory : Directory) (aliases : List (String × Resolved)) : Prop where
  names : ∀ text, (directory.withAliases aliases).resolveName? text =
    if Name.normalize text = "" then none
    else (directory.resolveName? (Name.normalize text)).or
      (aliasFor? aliases (Name.normalize text))
  objectIdentifiers : ∀ text,
    (directory.withAliases aliases).resolveObjectIdentifier? text =
      directory.resolveObjectIdentifier? text
  uris : ∀ text,
    (directory.withAliases aliases).resolveUri? text = directory.resolveUri? text
  identifiers : ∀ identifier, directory.resolve identifier ≠ .unknown →
    (directory.withAliases aliases).resolve identifier = directory.resolve identifier
  suites : ∀ policy : Policy,
    (∀ entry ∈ policy.entries, directory.resolve entry.identifier ≠ .unknown) →
      Suite.ofPolicy (directory.withAliases aliases).registry policy =
        Suite.ofPolicy directory.registry policy

theorem isExtendedBy (directory : Directory) (aliases : List (String × Resolved)) :
    directory.IsExtendedBy aliases := by
  constructor
  case names =>
    intro text
    rw [resolveName?_withAliases, resolveName?_normalize]
  case objectIdentifiers =>
    exact congrFun (resolveObjectIdentifier?_withAliases directory aliases)
  case uris => exact congrFun (resolveUri?_withAliases directory aliases)
  case identifiers =>
    intro identifier isKnown
    exact resolve_withAliases directory aliases isKnown
  case suites =>
    intro policy areKnown
    apply Suite.ofPolicy_eq_of_resolvesAlike
    constructor
    case resolve =>
      intro entry member
      exact resolve_withAliases directory aliases (areKnown entry member)
    case compose => rfl
    case keySizeParameter => rfl

end Directory

end AlgorithmPolicy

import AlgorithmPolicy.Fingerprint
import AlgorithmPolicy.Proofs.Catalogue.Evaluations

/-! A catalogue is lossless. Its policy can be read back from it, up to what goes without saying,
which is then said: that an entry without evaluations is acceptable, and that a policy is the
first version, and in English. -/

namespace AlgorithmPolicy

namespace Policy

/-! ## What goes without saying -/

def Entry.explicit (entry : Entry) : Entry :=
  { entry with evaluations := entry.effective }

def explicit (policy : Policy) : Policy :=
  { policy with
    version := some (policy.version.getD "1")
    language := some (policy.language.getD "en")
    entries := policy.entries.map (·.explicit) }

/-- Two statements are the same, or one is absent and the other one states the default. -/
inductive AgreesUpTo {α : Type} (absent default : α) : α → α → Prop
  | same (statement : α) : AgreesUpTo absent default statement statement
  | absentLeft : AgreesUpTo absent default absent default
  | absentRight : AgreesUpTo absent default default absent

/-- Two entries are the same, but one may list no evaluations where the other one lists an
unconditional one. -/
structure Entry.SaysSame (left right : Entry) : Prop where
  identifier : left.identifier = right.identifier
  evaluations : AgreesUpTo [] [.unconditional] left.evaluations right.evaluations
  information : left.information = right.information

/-- Two policies are the same, but what goes without saying may be said in one of them and not
in the other. -/
structure SaysSame (left right : Policy) : Prop where
  title : left.title = right.title
  publisher : left.publisher = right.publisher
  issueDate : left.issueDate = right.issueDate
  nextUpdate : left.nextUpdate = right.nextUpdate
  usage : left.usage = right.usage
  version : AgreesUpTo none (some "1") left.version right.version
  language : AgreesUpTo none (some "en") left.language right.language
  id : left.id = right.id
  entries : List.Forall₂ Entry.SaysSame left.entries right.entries

theorem getD_eq_iff {left right : Option String} {default : String} :
    left.getD default = right.getD default ↔ AgreesUpTo none (some default) left right := by
  constructor
  · intro same
    cases left with
    | none =>
        cases right with
        | none => exact .same none
        | some stated =>
            have isDefault : default = stated := same
            subst isDefault
            exact .absentLeft
    | some stated =>
        cases right with
        | none =>
            have isDefault : stated = default := same
            subst isDefault
            exact .absentRight
        | some other =>
            have isSame : stated = other := same
            subst isSame
            exact .same (some stated)
  · intro agrees
    cases agrees <;> rfl

theorem Entry.effective_eq_iff {left right : Entry} :
    left.effective = right.effective ↔
      AgreesUpTo [] [.unconditional] left.evaluations right.evaluations := by
  rw [effective, effective]
  -- The evaluations are variables from here on, so that agreement can be split.
  generalize left.evaluations = evaluations
  generalize right.evaluations = others
  constructor
  · intro same
    cases evaluations with
    | nil =>
        cases others with
        | nil => exact .same []
        | cons first rest =>
            have isUnconditional : [.unconditional] = first :: rest := same
            rw [← isUnconditional]
            exact .absentLeft
    | cons first rest =>
        cases others with
        | nil =>
            have isUnconditional : first :: rest = [.unconditional] := same
            rw [isUnconditional]
            exact .absentRight
        | cons other more =>
            have isSame : first :: rest = other :: more := same
            rw [isSame]
            exact .same (other :: more)
  · intro agrees
    cases agrees <;> rfl

theorem Entry.effective_explicit (entry : Entry) : entry.explicit.effective = entry.effective :=
  if_neg entry.effective_ne_nil

theorem Entry.explicit_eq_iff {left right : Entry} :
    left.explicit = right.explicit ↔ left.SaysSame right := by
  rw [explicit, explicit, mk.injEq, effective_eq_iff]
  constructor
  · intro same
    rcases same with ⟨sameIdentifier, agree, sameInformation⟩
    exact ⟨sameIdentifier, agree, sameInformation⟩
  · intro agree
    exact ⟨agree.identifier, agree.evaluations, agree.information⟩

theorem map_explicit_eq_iff {left right : List Entry} :
    left.map (·.explicit) = right.map (·.explicit) ↔ List.Forall₂ Entry.SaysSame left right := by
  rw [← List.forall₂_eq_eq_eq, List.forall₂_map_left_iff, List.forall₂_map_right_iff]
  simp only [Entry.explicit_eq_iff]

theorem explicit_eq_iff {left right : Policy} :
    left.explicit = right.explicit ↔ left.SaysSame right := by
  rw [explicit, explicit, mk.injEq, Option.some.injEq, Option.some.injEq, getD_eq_iff,
    getD_eq_iff, map_explicit_eq_iff]
  constructor
  · intro same
    rcases same with ⟨title, publisher, issueDate, nextUpdate, usage, version, language, id,
      entries⟩
    exact ⟨title, publisher, issueDate, nextUpdate, usage, version, language, id, entries⟩
  · intro agree
    exact ⟨agree.title, agree.publisher, agree.issueDate, agree.nextUpdate, agree.usage,
      agree.version, agree.language, agree.id, agree.entries⟩

end Policy

/-! ## Reading a catalogue back -/

theorem Expiration.end?_ofEnd (last : Option Instant) : (ofEnd last).end? = last := by
  cases last <;> rfl

namespace Catalogue

def Evaluation.toPolicy (evaluation : Evaluation) : Policy.Evaluation where
  validityEnd := evaluation.validityEnd.end?
  parameters := evaluation.parameters
  usage := evaluation.usage
  recommendation := evaluation.recommendation

def Record.toEntry (record : Record) : Policy.Entry where
  identifier := ⟨record.identifierName, record.objectIdentifiers, record.uris⟩
  evaluations := record.evaluations.map (·.toPolicy)
  information := record.information

/-- A title has a name, so without a name there is no title. -/
def Metadata.title? (metadata : Metadata) : Option Policy.Title :=
  metadata.policyName.map fun name =>
    ⟨name, metadata.policyObjectIdentifier, metadata.policyUri⟩

def Metadata.publisher? (metadata : Metadata) : Option Policy.Publisher :=
  metadata.publisherName.map fun name =>
    ⟨name, metadata.publisherAddress, metadata.publisherUri⟩

def toPolicy (catalogue : Catalogue) : Policy where
  title := catalogue.metadata.title?
  publisher := catalogue.metadata.publisher?
  issueDate := catalogue.metadata.issueDate
  nextUpdate := catalogue.metadata.nextUpdate
  usage := catalogue.metadata.usage
  version := some catalogue.metadata.version
  language := some catalogue.metadata.language
  id := catalogue.metadata.id
  entries := catalogue.records.map (·.toEntry)

theorem Evaluation.toPolicy_ofPolicy (evaluation : Policy.Evaluation) :
    (ofPolicy evaluation).toPolicy = evaluation := by
  rw [toPolicy, ofPolicy, Expiration.end?_ofEnd]

theorem Metadata.title?_ofPolicy (policy : Policy) : (ofPolicy policy).title? = policy.title := by
  rw [title?, ofPolicy]
  cases policy.title <;> rfl

theorem Metadata.publisher?_ofPolicy (policy : Policy) :
    (ofPolicy policy).publisher? = policy.publisher := by
  rw [publisher?, ofPolicy]
  cases policy.publisher <;> rfl

variable {registry : Registry}

theorem Record.toEntry_ofEntry (entry : Policy.Entry) :
    (ofEntry registry entry).toEntry = entry.explicit := by
  rw [toEntry, evaluations_ofEntry, List.map_map]
  have readBack : Evaluation.toPolicy ∘ Evaluation.ofPolicy = id :=
    funext Evaluation.toPolicy_ofPolicy
  rw [readBack, List.map_id]
  rfl

theorem toPolicy_ofPolicy (policy : Policy) :
    (ofPolicy registry policy).toPolicy = policy.explicit := by
  rw [toPolicy, ofPolicy, Metadata.title?_ofPolicy, Metadata.publisher?_ofPolicy, List.map_map]
  have readBack : Record.toEntry ∘ Record.ofEntry registry = Policy.Entry.explicit :=
    funext Record.toEntry_ofEntry
  rw [readBack]
  rfl

/-! ## What a catalogue leaves open -/

theorem Record.ofEntry_explicit (entry : Policy.Entry) :
    ofEntry registry entry.explicit = ofEntry registry entry := by
  have sameEvaluations :
      (ofEntry registry entry.explicit).evaluations = (ofEntry registry entry).evaluations := by
    rw [evaluations_ofEntry, evaluations_ofEntry, Policy.Entry.effective_explicit]
  rw [mk.injEq]
  exact ⟨rfl, rfl, rfl, rfl, sameEvaluations, rfl⟩

theorem ofPolicy_explicit (policy : Policy) :
    ofPolicy registry policy.explicit = ofPolicy registry policy := by
  rw [ofPolicy, Policy.explicit, List.map_map]
  have sameRecords : Record.ofEntry registry ∘ Policy.Entry.explicit = Record.ofEntry registry :=
    funext Record.ofEntry_explicit
  rw [sameRecords]
  rfl

theorem ofPolicy_eq_iff {left right : Policy} :
    ofPolicy registry left = ofPolicy registry right ↔ left.SaysSame right := by
  rw [← Policy.explicit_eq_iff]
  constructor
  · intro same
    rw [← toPolicy_ofPolicy, ← toPolicy_ofPolicy, same]
  · intro same
    rw [← ofPolicy_explicit left, same, ofPolicy_explicit]

/-! ## Lossless catalogues -/

/-- A record repeats an entry, with what it stands for, and with an evaluation at least. -/
structure Record.Transcribes (registry : Registry) (entry : Policy.Entry) (record : Record) :
    Prop where
  identifierName : record.identifierName = entry.identifier.name
  objectIdentifiers : record.objectIdentifiers = entry.identifier.objectIdentifiers
  uris : record.uris = entry.identifier.uris
  resolved : record.resolved = registry.resolve entry.identifier
  evaluations : record.evaluations = entry.effective.map .ofPolicy
  isEvaluated : record.evaluations ≠ []
  information : record.information = entry.information

theorem Record.transcribes_ofEntry (entry : Policy.Entry) :
    Transcribes registry entry (ofEntry registry entry) where
  identifierName := rfl
  objectIdentifiers := rfl
  uris := rfl
  resolved := rfl
  evaluations := evaluations_ofEntry registry entry
  isEvaluated := by
    rw [evaluations_ofEntry, ne_eq, List.map_eq_nil_iff]
    exact entry.effective_ne_nil
  information := rfl

/-- Everything that is built from a policy by way of its catalogue. -/
structure BuildsSame (registry : Registry) (left right : Policy) : Prop where
  catalogue : ofPolicy registry left = ofPolicy registry right
  diagnostics : Suite.diagnostics registry left = Suite.diagnostics registry right
  suite : Suite.ofPolicy registry left = Suite.ofPolicy registry right
  snapshot : (Suite.ofPolicy registry left).snapshot = (Suite.ofPolicy registry right).snapshot
  fingerprint :
    (Suite.ofPolicy registry left).fingerprint = (Suite.ofPolicy registry right).fingerprint

theorem BuildsSame.of_catalogue {left right : Policy}
    (same : ofPolicy registry left = ofPolicy registry right) : BuildsSame registry left right := by
  have sameSuite : Suite.ofPolicy registry left = Suite.ofPolicy registry right := by
    rw [Suite.ofPolicy, Suite.ofPolicy, same]
  constructor
  case catalogue => exact same
  case diagnostics => rw [Suite.diagnostics, Suite.diagnostics, same]
  case suite => exact sameSuite
  case snapshot => rw [sameSuite]
  case fingerprint => rw [sameSuite]

/-- The records are those of the entries, in their order, and policies differ only in what goes
without saying if and only if they have the same catalogue, from which all else follows. -/
structure IsLossless (registry : Registry) : Prop where
  transcribes : ∀ policy,
    List.Forall₂ (Record.Transcribes registry) policy.entries (ofPolicy registry policy).records
  tells : ∀ left right, ofPolicy registry left = ofPolicy registry right → left.SaysSame right
  leavesOpen : ∀ left right, left.SaysSame right → BuildsSame registry left right

theorem isLossless (registry : Registry) : IsLossless registry where
  transcribes policy := by
    rw [ofPolicy, List.forall₂_map_right_iff]
    exact List.forall₂_same.mpr fun entry _ => Record.transcribes_ofEntry entry
  tells _ _ := ofPolicy_eq_iff.mp
  leavesOpen _ _ agree := .of_catalogue (ofPolicy_eq_iff.mpr agree)

end Catalogue

end AlgorithmPolicy

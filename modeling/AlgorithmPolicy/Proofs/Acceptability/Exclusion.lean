import AlgorithmPolicy.Proofs.Acceptability.Diagnostics
import AlgorithmPolicy.Proofs.Acceptability.Insertion
import AlgorithmPolicy.Registry.Directory

/-! Evaluations that are left out. An evaluation whose lower bound is missing, or is no key
size, is reported and counts for nothing. Only the first parameter with the name of the key
size is asked for its lower bound, though: what others of that name say plays no part. -/

namespace AlgorithmPolicy

/-- The lower bound is missing, or it is not a number of thirty-two bits. -/
def Policy.Parameter.LacksKeySize (parameter : Policy.Parameter) : Prop :=
  ∀ min ∈ parameter.min, min.toInt < 0 ∨ 4294967295 < min.toInt

/-- A record without its evaluation at a place. -/
def Catalogue.Record.withoutEvaluation (place : Nat) (record : Catalogue.Record) :
    Catalogue.Record :=
  { record with evaluations := record.evaluations.eraseIdx place }

@[simp] theorem Catalogue.Record.resolved_withoutEvaluation (place : Nat)
    (record : Catalogue.Record) :
    (record.withoutEvaluation place).resolved = record.resolved := rfl

namespace Acceptability

/-! ## Key sizes that are lacking -/

theorem forall_ne_toNat_iff (min : Int) :
    (∀ size : UInt32, min ≠ size.toNat) ↔ min < 0 ∨ 4294967295 < min := by
  constructor
  · intro unfit
    by_contra within
    have bounds : 0 ≤ min ∧ min < 4294967296 := by omega
    exact unfit _ ((ofNat_toNat_eq_iff bounds _).mp rfl)
  · intro outside size same
    have small := size.toNat_lt
    omega

theorem exists_excludes_iff {registry : Registry} {family : EncryptionFamily} {name : String}
    (named : registry.keySizeParameter? family = some name)
    (parameters : List Policy.Parameter) :
    (∃ reason, Excludes registry family parameters reason) ↔
      ∃ parameter, IsFirstNamed name parameters parameter ∧ parameter.LacksKeySize := by
  constructor
  · intro excluded
    rcases excluded with ⟨reason, excludes⟩
    cases excludes with
    | @missingMinimum _ parameter isName first absent =>
        rcases Option.some_inj.mp (named.symm.trans isName) with rfl
        refine ⟨parameter, first, ?_⟩
        intro min bound
        rw [absent] at bound
        cases bound
    | @keySizeOutOfRange _ parameter _ isName first bound unfit =>
        rcases Option.some_inj.mp (named.symm.trans isName) with rfl
        refine ⟨parameter, first, ?_⟩
        intro min isMin
        rcases Option.some_inj.mp (bound.symm.trans isMin) with rfl
        exact (forall_ne_toNat_iff _).mp unfit
  · intro lacking
    rcases lacking with ⟨parameter, first, lacks⟩
    cases bound : parameter.min with
    | none => exact ⟨_, .missingMinimum named first bound⟩
    | some min =>
        have unfit := (forall_ne_toNat_iff min.toInt).mpr (lacks min bound)
        exact ⟨_, .keySizeOutOfRange named first bound unfit⟩

/-! ## Views without an evaluation -/

/-- An evaluation that states no key size is among the ends of none. -/
theorem sizedEnds_eraseIdx {registry : Registry} {family : EncryptionFamily} {place : Nat}
    {evaluations : List Catalogue.Evaluation} {evaluation : Catalogue.Evaluation}
    (isEvaluation : evaluations[place]? = some evaluation) {reason : Exclusion}
    (failed : keySize registry family evaluation = .error reason) (size : UInt32) :
    sizedEnds registry family size (evaluations.eraseIdx place) =
      sizedEnds registry family size evaluations := by
  induction evaluations generalizing place with
  | nil => cases isEvaluation
  | cons first rest induction =>
      cases place with
      | zero =>
          cases Option.some_inj.mp isEvaluation
          rw [List.eraseIdx_cons_zero, sizedEnds_cons, failed]
          exact (if_neg nofun).symm
      | succ place =>
          rw [List.eraseIdx_cons_succ, sizedEnds_cons, sizedEnds_cons, induction isEvaluation]

/-- A change of one record is not seen where it makes no difference. -/
theorem map_modify_eq {α : Type} {shown : Catalogue.Record → α}
    {change : Catalogue.Record → Catalogue.Record} {records : List Catalogue.Record}
    {index : Nat} {record : Catalogue.Record} (isRecord : records[index]? = some record)
    (same : shown (change record) = shown record) :
    (records.modify index change).map shown = records.map shown := by
  apply List.ext_getElem?
  intro other
  rw [List.getElem?_map, List.getElem?_map, List.getElem?_modify]
  by_cases isIndex : index = other
  · rw [← isIndex, isRecord]
    simp [same]
  · simp [isIndex]

section Deleted

variable {registry : Registry} {records : List Catalogue.Record} {index place : Nat}
  {record : Catalogue.Record} {family : EncryptionFamily} {evaluation : Catalogue.Evaluation}
  {reason : Exclusion} (isRecord : records[index]? = some record)

include isRecord

theorem names_modify_iff (resolved : Resolved) :
    Names (records.modify index (·.withoutEvaluation place)) resolved ↔
      Names records resolved := by
  have sameNames : (records.modify index (·.withoutEvaluation place)).map
      Catalogue.Record.resolved = records.map Catalogue.Record.resolved :=
    map_modify_eq isRecord rfl
  have names_iff : ∀ others : List Catalogue.Record,
      Names others resolved ↔ resolved ∈ others.map Catalogue.Record.resolved :=
    fun _ => List.mem_map.symm
  rw [names_iff, names_iff, sameNames]

variable (isFamily : record.resolved.keyFamily? = some family)

include isFamily

theorem digestEnds_modify (digest : Digest) :
    digestEnds (records.modify index (·.withoutEvaluation place)) digest =
      digestEnds records digest := by
  have noDigest : record.resolved ≠ .digest digest := by
    intro isDigest
    rw [isDigest] at isFamily
    cases isFamily
  rw [digestEnds, digestEnds, List.flatMap_def, List.flatMap_def, map_modify_eq isRecord]
  exact (if_neg noDigest).trans (if_neg noDigest).symm

variable (isEvaluation : record.evaluations[place]? = some evaluation)
  (failed : keySize registry family evaluation = .error reason)

include isEvaluation failed

/-- Only ends of the algorithm that the record stands for could be lost, and they are stated
for its family. -/
theorem statedEnds_modify {resolved : Resolved} {other : EncryptionFamily}
    (ofFamily : resolved.keyFamily? = some other) (size : UInt32) :
    statedEnds registry (records.modify index (·.withoutEvaluation place)) resolved other size =
      statedEnds registry records resolved other size := by
  rw [statedEnds, statedEnds, List.flatMap_def, List.flatMap_def, map_modify_eq isRecord]
  rw [Catalogue.Record.resolved_withoutEvaluation]
  by_cases isResolved : record.resolved = resolved
  · rw [← isResolved, isFamily] at ofFamily
    rcases Option.some_inj.mp ofFamily with rfl
    rw [if_pos isResolved, if_pos isResolved]
    exact sizedEnds_eraseIdx isEvaluation failed size
  · rw [if_neg isResolved, if_neg isResolved]

/-- An evaluation that states no key size can be deleted, and all views are the same. -/
theorem ofRecords_modify :
    ofRecords registry (records.modify index (·.withoutEvaluation place)) =
      ofRecords registry records := by
  have sameComponents : SameComponents registry
      (records.modify index (·.withoutEvaluation place)) records := {
    digests := digestEnds_modify isRecord isFamily
    families := fun _ => statedEnds_modify isRecord isFamily isEvaluation failed rfl }
  apply sameComponents.ofRecords_eq
  · intro signature
    exact names_modify_iff isRecord (.signature signature)
  · intro other
    exact names_modify_iff isRecord (.encryption other)
  · intro signature size
    exact statedEnds_modify isRecord isFamily isEvaluation failed rfl size

end Deleted

/-! ## Exclusion -/

/-- An evaluation is reported once, and nothing is lost from the key sizes without it. -/
structure IsExcluded (registry : Registry) (records : List Catalogue.Record)
    (index place : Nat) : Prop where
  reported : ∃ record reason, records[index]? = some record ∧
    (diagnostics registry records).filter (·.reportsExclusion index place) =
      [.excluded index place record.identifierName reason]
  idle : (ofRecords registry (records.modify index (·.withoutEvaluation place))).keySizes =
    (ofRecords registry records).keySizes

section Excluded

variable {registry : Registry} {records : List Catalogue.Record} {index place : Nat}
  {record : Catalogue.Record} {family : EncryptionFamily} {evaluation : Catalogue.Evaluation}
  (isRecord : records[index]? = some record)
  (isFamily : record.resolved.keyFamily? = some family)
  (isEvaluation : record.evaluations[place]? = some evaluation)

include isRecord isFamily isEvaluation

theorem isExcluded_iff_exists_excludes :
    IsExcluded registry records index place ↔
      ∃ reason, Excludes registry family evaluation.parameters reason := by
  have reports := filter_reportsExclusion_eq registry isRecord isEvaluation isFamily
  rw [Collection.exclusion?] at reports
  simp only [← keySize_eq_error_iff]
  cases stated : keySize registry family evaluation with
  | ok size =>
      rw [stated] at reports
      constructor
      · intro excluded
        rcases excluded.reported with ⟨_, _, -, reported⟩
        rw [reports] at reported
        cases reported
      · intro failed
        rcases failed with ⟨_, failed⟩
        cases failed
  | error reason =>
      rw [stated] at reports
      constructor
      · intro _
        exact ⟨reason, rfl⟩
      · intro _
        exact {
          reported := ⟨record, reason, isRecord, reports⟩
          idle := congrArg keySizes (ofRecords_modify isRecord isFamily isEvaluation stated) }

/-- An evaluation is excluded exactly when the first parameter with the name of the key size
lacks a key size. Further ones of that name make no difference. -/
theorem isExcluded_iff_of_named {name : String}
    (named : registry.keySizeParameter? family = some name) :
    IsExcluded registry records index place ↔
      ∃ parameter, IsFirstNamed name evaluation.parameters parameter ∧
        parameter.LacksKeySize := by
  rw [isExcluded_iff_exists_excludes isRecord isFamily isEvaluation,
    exists_excludes_iff named]

end Excluded

/-! ## A key size that is stated twice -/

/-- From 2048 bits on, and again without a lower bound. -/
def statedTwice : Catalogue.Evaluation where
  validityEnd := .unbounded
  parameters := [⟨"moduluslength", some 2048, none⟩, ⟨"moduluslength", none, none⟩]
  usage := []
  recommendation := none

def recordOfStatedTwice : Catalogue.Record where
  identifierName := "SHA256withRSA"
  objectIdentifiers := []
  uris := []
  resolved := .signature .rsaSha256
  evaluations := [statedTwice]
  information := []

theorem isExcluded_iff_of_statedTwice :
    [recordOfStatedTwice][0]? = some recordOfStatedTwice ∧
      recordOfStatedTwice.resolved.keyFamily? = some .rsa ∧
      recordOfStatedTwice.evaluations[0]? = some statedTwice ∧
      Directory.standard.registry.keySizeParameter? .rsa = some "moduluslength" ∧
      (IsExcluded Directory.standard.registry [recordOfStatedTwice] 0 0 ↔
        ∃ parameter, IsFirstNamed "moduluslength" statedTwice.parameters parameter ∧
          parameter.LacksKeySize) :=
  ⟨rfl, rfl, rfl, rfl, isExcluded_iff_of_named rfl rfl rfl rfl⟩

/-- The second parameter lacks a key size, and still the evaluation is not excluded. -/
theorem not_isExcluded_of_statedTwice :
    Directory.standard.registry.keySizeParameter? .rsa = some "moduluslength" ∧
      (∃ parameter ∈ statedTwice.parameters,
        parameter.name = "moduluslength" ∧ parameter.LacksKeySize) ∧
      ¬ IsExcluded Directory.standard.registry [recordOfStatedTwice] 0 0 := by
  refine ⟨rfl, ⟨⟨"moduluslength", none, none⟩, by decide, rfl, nofun⟩, ?_⟩
  have stated : keySize Directory.standard.registry .rsa statedTwice = .ok 2048 := by
    decide
  have excludes_of_isExcluded :
      IsExcluded Directory.standard.registry [recordOfStatedTwice] 0 0 →
        ∃ reason, Excludes Directory.standard.registry .rsa statedTwice.parameters reason :=
    (isExcluded_iff_exists_excludes rfl rfl rfl).mp
  intro excluded
  rcases excludes_of_isExcluded excluded with ⟨reason, excludes⟩
  rw [← keySize_eq_error_iff, stated] at excludes
  cases excludes

end Acceptability

end AlgorithmPolicy

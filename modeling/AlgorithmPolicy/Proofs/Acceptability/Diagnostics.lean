import AlgorithmPolicy.Proofs.Acceptability.Events
import AlgorithmPolicy.Proofs.Acceptability.Views

/-! What is reported about a catalogue, said without the pass that reports it: which
diagnostics there are, and in which order. No diagnostic comes twice, and what a signature
record states is either in the views or reported. -/

namespace AlgorithmPolicy

/-! ## The order of diagnostics -/

namespace Diagnostic

/-- The record that a diagnostic is about; what is shadowed is about none. -/
def index? : Diagnostic → Option Nat
  | .unresolved index _ => some index
  | .excluded index _ _ _ => some index
  | .shadowed _ _ => none

/-- By record, within a record by evaluation, and then all that is shadowed, in the order of
identities. -/
inductive Before : Diagnostic → Diagnostic → Prop
  | records {left right : Diagnostic} {leftIndex rightIndex : Nat} :
      left.index? = some leftIndex → right.index? = some rightIndex → leftIndex < rightIndex →
        Before left right
  | evaluations {index leftPlace rightPlace : Nat} {leftName rightName : String}
      {leftReason rightReason : Exclusion} : leftPlace < rightPlace →
        Before (.excluded index leftPlace leftName leftReason)
          (.excluded index rightPlace rightName rightReason)
  | recordsFirst {left : Diagnostic} {index : Nat} {signature : Signature} {size : UInt32} :
      left.index? = some index → Before left (.shadowed signature size)
  | identities {left right : Signature} {leftSize rightSize : UInt32} :
      compare (Identity.withKeySize left leftSize) (.withKeySize right rightSize) = .lt →
        Before (.shadowed left leftSize) (.shadowed right rightSize)

theorem Before.asymmetric {left right : Diagnostic} (before : left.Before right) :
    ¬ right.Before left := by
  intro after
  cases before with
  | records leftIndex rightIndex less =>
      cases after with
      | records rightAgain leftAgain greater =>
          rw [leftIndex, Option.some_inj] at leftAgain
          rw [rightIndex, Option.some_inj] at rightAgain
          omega
      | evaluations =>
          rw [index?, Option.some_inj] at leftIndex rightIndex
          omega
      | recordsFirst => cases leftIndex
      | identities => cases leftIndex
  | evaluations less =>
      cases after with
      | records rightIndex leftIndex greater =>
          rw [index?, Option.some_inj] at leftIndex rightIndex
          omega
      | evaluations greater => omega
  | recordsFirst isIndex =>
      cases after with
      | records impossible => cases impossible
      | recordsFirst impossible => cases impossible
      | identities => cases isIndex
  | identities less =>
      cases after with
      | records impossible => cases impossible
      | recordsFirst impossible => cases impossible
      | identities greater =>
          rw [Std.OrientedOrd.eq_swap, less] at greater
          cases greater

/-- Diagnostics in order are determined by their members. -/
theorem ordered_eq_of_mem_iff {left right : List Diagnostic}
    (leftOrdered : left.Pairwise Before) (rightOrdered : right.Pairwise Before)
    (same : ∀ diagnostic, diagnostic ∈ left ↔ diagnostic ∈ right) : left = right := by
  have asymmetric : Std.Asymm Before := ⟨fun _ _ before => before.asymmetric⟩
  exact leftOrdered.eq_of_mem_iff rightOrdered same

/-- Whether a diagnostic reports that an evaluation was left out. -/
def reportsExclusion (index place : Nat) : Diagnostic → Bool
  | .excluded otherIndex otherPlace _ _ => otherIndex = index ∧ otherPlace = place
  | .unresolved _ _ => false
  | .shadowed _ _ => false

end Diagnostic

/-- The family whose key sizes count for what an identifier stands for. -/
def Resolved.keyFamily? : Resolved → Option EncryptionFamily
  | .signature algorithm => some algorithm.family
  | .encryption family => some family
  | .digest _ => none
  | .unknown => none

namespace Acceptability

variable (registry : Registry) (records : List Catalogue.Record)

/-- A signature can be derived at a key size: it is made by a family with an evaluation that
states the size and a digest in the view. -/
def IsDerivable (signature : Signature) (size : UInt32) : Prop :=
  ∃ family digest, StatesSize registry records (.encryption family) family size ∧
    (∃ expiration, (digest, expiration) ∈ (ofRecords registry records).digests) ∧
    registry.compose? family digest = some signature

/-- What there is to report: records that stand for nothing, evaluations that state no key
size where one counts, and identities that have a direct evaluation and could be derived. -/
inductive Reported : Diagnostic → Prop
  | unresolved {index : Nat} {record : Catalogue.Record} :
      records[index]? = some record → record.resolved = .unknown →
        Reported (.unresolved index record.identifierName)
  | excluded {index place : Nat} {record : Catalogue.Record} {family : EncryptionFamily}
      {evaluation : Catalogue.Evaluation} {reason : Exclusion} :
      records[index]? = some record → record.resolved.keyFamily? = some family →
      record.evaluations[place]? = some evaluation →
      Excludes registry family evaluation.parameters reason →
        Reported (.excluded index place record.identifierName reason)
  | shadowed {signature : Signature} {size : UInt32} :
      StatesSize registry records (.signature signature) signature.family size →
      IsDerivable registry records signature size →
        Reported (.shadowed signature size)

/-- An evaluation counts: the view has a row for its signature and key size that ends no
earlier than the evaluation does. -/
def IsCovered (signature : Signature) (evaluation : Catalogue.Evaluation) : Prop :=
  ∃ size expiration, StatesKeySize registry signature.family evaluation.parameters size ∧
    (Identity.withKeySize signature size, expiration) ∈ (ofRecords registry records).keySizes ∧
    evaluation.validityEnd.moment ≤ expiration.moment

/-- Diagnostics account for what is left out: they are what there is to report, once each and
in order. Each evaluation of a signature either counts and is not reported, or it states no
key size and is reported once. -/
structure Accounts (diagnostics : List Diagnostic) : Prop where
  ordered : diagnostics.Pairwise Diagnostic.Before
  reported : ∀ diagnostic, diagnostic ∈ diagnostics ↔ Reported registry records diagnostic
  determined : ∀ others : List Diagnostic, others.Pairwise Diagnostic.Before →
    (∀ diagnostic, diagnostic ∈ others ↔ Reported registry records diagnostic) →
      others = diagnostics
  covered : ∀ index place record signature evaluation,
    records[index]? = some record → record.resolved = .signature signature →
    record.evaluations[place]? = some evaluation →
      IsCovered registry records signature evaluation ∧
          diagnostics.filter (·.reportsExclusion index place) = [] ∨
        (∀ size, ¬ StatesKeySize registry signature.family evaluation.parameters size) ∧
          ∃ reason, diagnostics.filter (·.reportsExclusion index place) =
            [.excluded index place record.identifierName reason]

/-! ## Record by record -/

/-- Numbers that are given to items in a row ascend. -/
theorem zipIdx_ascending {α : Type} (items : List α) :
    items.zipIdx.Pairwise fun left right => left.2 < right.2 := by
  have ascending : (items.zipIdx.map Prod.snd).Pairwise (· < ·) := by
    rw [List.zipIdx_map_snd]
    exact List.pairwise_lt_range'
  exact List.pairwise_map.mp ascending

namespace Collection

variable {registry} {records}

theorem mem_exclusions_iff {family : EncryptionFamily} {index : Nat}
    {record : Catalogue.Record} {diagnostic : Diagnostic} :
    diagnostic ∈ exclusions registry family index record ↔
      ∃ place evaluation reason, record.evaluations[place]? = some evaluation ∧
        Excludes registry family evaluation.parameters reason ∧
        diagnostic = .excluded index place record.identifierName reason := by
  simp only [exclusions, List.mem_filterMap, exclusion?_eq_some_iff]
  constructor
  · intro reported
    rcases reported with ⟨⟨evaluation, place⟩, member, reason, excludes, isReported⟩
    exact ⟨place, evaluation, reason, List.mem_zipIdx_iff_getElem?.mp member, excludes, isReported⟩
  · intro excluded
    rcases excluded with ⟨place, evaluation, reason, isPlaced, excludes, isReported⟩
    exact ⟨(evaluation, place), List.mem_zipIdx_iff_getElem?.mpr isPlaced, reason, excludes,
      isReported⟩

theorem exclusions_ordered (family : EncryptionFamily) (index : Nat)
    (record : Catalogue.Record) :
    (exclusions registry family index record).Pairwise Diagnostic.Before := by
  rw [exclusions, List.pairwise_filterMap]
  apply (zipIdx_ascending record.evaluations).imp
  intro left right less first isFirst second isSecond
  rcases exclusion?_eq_some_iff.mp isFirst with ⟨_, -, rfl⟩
  rcases exclusion?_eq_some_iff.mp isSecond with ⟨_, -, rfl⟩
  exact .evaluations less

theorem mem_recordDiagnostics_iff {index : Nat} {record : Catalogue.Record}
    {diagnostic : Diagnostic} :
    diagnostic ∈ recordDiagnostics registry (record, index) ↔
      record.resolved = .unknown ∧ diagnostic = .unresolved index record.identifierName ∨
        ∃ family, record.resolved.keyFamily? = some family ∧
          diagnostic ∈ exclusions registry family index record := by
  rw [recordDiagnostics]
  cases record.resolved <;> simp [Resolved.keyFamily?]

theorem index?_of_mem_recordDiagnostics {placed : Catalogue.Record × Nat}
    {diagnostic : Diagnostic} (member : diagnostic ∈ recordDiagnostics registry placed) :
    diagnostic.index? = some placed.2 := by
  rcases mem_recordDiagnostics_iff.mp member with ⟨-, rfl⟩ | ⟨family, -, excluded⟩
  · rfl
  · rcases mem_exclusions_iff.mp excluded with ⟨place, evaluation, reason, -, -, rfl⟩
    rfl

theorem recordDiagnostics_ordered (placed : Catalogue.Record × Nat) :
    (recordDiagnostics registry placed).Pairwise Diagnostic.Before := by
  rw [recordDiagnostics]
  cases placed.1.resolved with
  | digest digest => exact .nil
  | signature signature => exact exclusions_ordered signature.family placed.2 placed.1
  | encryption family => exact exclusions_ordered family placed.2 placed.1
  | unknown => exact List.pairwise_singleton _ _

/-- Over the records the order is kept, as their numbers ascend. -/
theorem flatMap_recordDiagnostics_ordered :
    (records.zipIdx.flatMap (recordDiagnostics registry)).Pairwise Diagnostic.Before := by
  rw [List.pairwise_flatMap]
  constructor
  · intro placed _
    exact recordDiagnostics_ordered placed
  · apply (zipIdx_ascending records).imp
    intro left right less first firstMember second secondMember
    exact .records (index?_of_mem_recordDiagnostics firstMember)
      (index?_of_mem_recordDiagnostics secondMember) less

/-! ## What is shadowed -/

theorem exists_mem_derivedEnds_iff {signature : Signature} {size : UInt32} :
    (∃ expiration, (Identity.withKeySize signature size, expiration) ∈
        ((ofRecords registry records).derivedEnds registry).toList) ↔
      IsDerivable registry records signature size := by
  have collects := collects_ofRecords registry records
  simp only [Std.TreeMap.mem_toList_iff_getElem?_eq_some,
    collects.getElem?_derivedEnds_eq_some_iff, IsDerivable, exists_mem_digests_iff,
    ← exists_holds_iff, ← collects.exists_decides_iff]
  constructor
  · intro derived
    rcases derived with ⟨expiration, derivation, decides, -⟩
    exact ⟨derivation, decides⟩
  · intro decided
    rcases decided with ⟨derivation, decides⟩
    exact ⟨derivation.expiration, derivation, decides, rfl⟩

theorem keySize_of_mem_derivedEnds {identity : Identity Signature} {expiration : Expiration}
    (member : (identity, expiration) ∈
      ((ofRecords registry records).derivedEnds registry).toList) :
    identity = .withKeySize identity.algorithm identity.minKeySize := by
  have collects := collects_ofRecords registry records
  rcases identity with ⟨signature, keySize⟩
  cases keySize with
  | some size => rfl
  | none =>
      have absent := collects.getElem?_derivedEnds_keyless signature
      rw [Identity.keyless] at absent
      rw [Std.TreeMap.mem_toList_iff_getElem?_eq_some, absent] at member
      cases member

theorem contains_signatureEnds_iff {signature : Signature} {size : UInt32} :
    (ofRecords registry records).signatureEnds.contains (.withKeySize signature size) = true ↔
      StatesSize registry records (.signature signature) signature.family size := by
  rw [Std.TreeMap.contains_eq_isSome_getElem?,
    (collects_ofRecords registry records).signatureEnds_eq, Option.isSome_iff_ne_none, ne_eq,
    Expiration.latest?_eq_none_iff]
  exact statedEnds_ne_nil_iff

theorem mem_shadowDiagnostics_iff {diagnostic : Diagnostic} :
    diagnostic ∈ shadowDiagnostics (ofRecords registry records).signatureEnds
        ((ofRecords registry records).derivedEnds registry).toList ↔
      ∃ signature size,
        StatesSize registry records (.signature signature) signature.family size ∧
          IsDerivable registry records signature size ∧
          diagnostic = .shadowed signature size := by
  rw [shadowDiagnostics, List.mem_map]
  constructor
  · intro shadowed
    rcases shadowed with ⟨⟨identity, expiration⟩, kept, rfl⟩
    rcases List.mem_filter.mp kept with ⟨member, direct⟩
    have isIdentity := keySize_of_mem_derivedEnds member
    refine ⟨identity.algorithm, identity.minKeySize, ?_, ?_, rfl⟩
    · rw [← contains_signatureEnds_iff, ← isIdentity]
      exact direct
    · rw [← exists_mem_derivedEnds_iff, ← isIdentity]
      exact ⟨expiration, member⟩
  · intro shadowed
    rcases shadowed with ⟨signature, size, direct, derivable, rfl⟩
    rcases exists_mem_derivedEnds_iff.mpr derivable with ⟨expiration, member⟩
    exact ⟨(.withKeySize signature size, expiration),
      List.mem_filter.mpr ⟨member, contains_signatureEnds_iff.mpr direct⟩, rfl⟩

theorem shadowDiagnostics_ordered :
    (shadowDiagnostics (ofRecords registry records).signatureEnds
      ((ofRecords registry records).derivedEnds registry).toList).Pairwise
        Diagnostic.Before := by
  rw [shadowDiagnostics, List.pairwise_map]
  have ascending := ((ofRecords registry records).derivedEnds registry).ordered_keys_toList
  apply (ascending.imp_of_mem _).filter
  intro left right leftMember rightMember before
  apply Diagnostic.Before.identities
  rw [← keySize_of_mem_derivedEnds leftMember, ← keySize_of_mem_derivedEnds rightMember]
  exact before

end Collection

/-! ## All diagnostics -/

variable {registry} {records}

theorem mem_diagnostics_iff {diagnostic : Diagnostic} :
    diagnostic ∈ diagnostics registry records ↔ Reported registry records diagnostic := by
  rw [diagnostics_eq, List.mem_append, Collection.mem_shadowDiagnostics_iff, List.mem_flatMap]
  constructor
  · intro member
    rcases member with ⟨⟨record, index⟩, isPlaced, member⟩ |
      ⟨signature, size, direct, derivable, rfl⟩
    · have isRecord := List.mem_zipIdx_iff_getElem?.mp isPlaced
      rcases Collection.mem_recordDiagnostics_iff.mp member with ⟨isUnknown, rfl⟩ |
        ⟨family, isFamily, excluded⟩
      · exact .unresolved isRecord isUnknown
      · rcases Collection.mem_exclusions_iff.mp excluded with
          ⟨place, evaluation, reason, isEvaluation, excludes, rfl⟩
        exact .excluded isRecord isFamily isEvaluation excludes
    · exact .shadowed direct derivable
  · intro reported
    cases reported with
    | @unresolved index record isRecord isUnknown =>
        exact Or.inl ⟨(record, index), List.mem_zipIdx_iff_getElem?.mpr isRecord,
          Collection.mem_recordDiagnostics_iff.mpr (Or.inl ⟨isUnknown, rfl⟩)⟩
    | @excluded index place record family evaluation reason isRecord isFamily isEvaluation
        excludes =>
        have excluded : .excluded index place record.identifierName reason ∈
            Collection.exclusions registry family index record :=
          Collection.mem_exclusions_iff.mpr
            ⟨place, evaluation, reason, isEvaluation, excludes, rfl⟩
        exact Or.inl ⟨(record, index), List.mem_zipIdx_iff_getElem?.mpr isRecord,
          Collection.mem_recordDiagnostics_iff.mpr (Or.inr ⟨family, isFamily, excluded⟩)⟩
    | shadowed direct derivable => exact Or.inr ⟨_, _, direct, derivable, rfl⟩

theorem diagnostics_ordered : (diagnostics registry records).Pairwise Diagnostic.Before := by
  rw [diagnostics_eq, List.pairwise_append]
  refine ⟨Collection.flatMap_recordDiagnostics_ordered, Collection.shadowDiagnostics_ordered, ?_⟩
  intro left leftMember right rightMember
  rcases List.mem_flatMap.mp leftMember with ⟨placed, -, member⟩
  rcases Collection.mem_shadowDiagnostics_iff.mp rightMember with ⟨signature, size, -, -, rfl⟩
  exact .recordsFirst (Collection.index?_of_mem_recordDiagnostics member)

/-! ## Evaluations of signatures -/

section Evaluation

variable (registry) {index place : Nat} {record : Catalogue.Record}
  {evaluation : Catalogue.Evaluation} (isRecord : records[index]? = some record)
  (isEvaluation : record.evaluations[place]? = some evaluation)

include isRecord isEvaluation

/-- Of an evaluation for which key sizes count there is a report for every reason to exclude
it. -/
theorem reportsExclusion_iff {family : EncryptionFamily}
    (isFamily : record.resolved.keyFamily? = some family) (diagnostic : Diagnostic) :
    diagnostic ∈ (diagnostics registry records).filter (·.reportsExclusion index place) ↔
      ∃ reason, keySize registry family evaluation = .error reason ∧
        diagnostic = .excluded index place record.identifierName reason := by
  rw [List.mem_filter, mem_diagnostics_iff]
  constructor
  · intro both
    rcases both with ⟨reported, about⟩
    cases reported with
    | unresolved => cases about
    | shadowed => cases about
    | excluded otherRecord otherFamily otherEvaluation excludes =>
        rcases of_decide_eq_true about with ⟨rfl, rfl⟩
        rcases Option.some_inj.mp (isRecord.symm.trans otherRecord) with rfl
        rcases Option.some_inj.mp (isEvaluation.symm.trans otherEvaluation) with rfl
        rcases Option.some_inj.mp (isFamily.symm.trans otherFamily) with rfl
        exact ⟨_, keySize_eq_error_iff.mpr excludes, rfl⟩
  · intro excluded
    rcases excluded with ⟨reason, failed, rfl⟩
    refine ⟨.excluded isRecord isFamily isEvaluation (keySize_eq_error_iff.mp failed), ?_⟩
    simp [Diagnostic.reportsExclusion]

/-- There is no more than the one report that the evaluation itself gives rise to. -/
theorem filter_reportsExclusion_eq {family : EncryptionFamily}
    (isFamily : record.resolved.keyFamily? = some family) :
    (diagnostics registry records).filter (·.reportsExclusion index place) =
      (Collection.exclusion? registry family index record (evaluation, place)).toList := by
  have reports_iff := reportsExclusion_iff registry isRecord isEvaluation isFamily
  rw [Collection.exclusion?]
  cases stated : keySize registry family evaluation with
  | ok size =>
      apply List.eq_nil_iff_forall_not_mem.mpr
      intro diagnostic member
      rcases (reports_iff diagnostic).mp member with ⟨reason, failed, -⟩
      rw [stated] at failed
      cases failed
  | error reason =>
      apply Diagnostic.ordered_eq_of_mem_iff (diagnostics_ordered.filter _)
        (List.pairwise_singleton _ _)
      intro diagnostic
      simp only [reports_iff, stated, Except.error.injEq, exists_eq_left',
        List.mem_singleton]

variable {signature : Signature} (isSignature : record.resolved = .signature signature)

include isSignature

/-- An evaluation that states a key size counts. -/
theorem isCovered_of_keySize_eq_ok {size : UInt32}
    (stated : keySize registry signature.family evaluation = .ok size) :
    IsCovered registry records signature evaluation := by
  have member : evaluation.validityEnd ∈ directEndsAt registry records signature size :=
    mem_statedEnds_iff.mpr ⟨record, List.mem_of_getElem? isRecord, isSignature, evaluation,
      List.mem_of_getElem? isEvaluation, stated, rfl⟩
  rcases Expiration.exists_isLatest_iff.mpr (List.ne_nil_of_mem member) with ⟨latest, isLatest⟩
  exact ⟨size, latest, keySize_eq_ok_iff.mp stated,
    (mem_keySizes_iff registry records signature size latest).mpr (Or.inl isLatest),
    isLatest.moment_le member⟩

theorem isCovered_or_reported :
    IsCovered registry records signature evaluation ∧
        (diagnostics registry records).filter (·.reportsExclusion index place) = [] ∨
      (∀ size, ¬ StatesKeySize registry signature.family evaluation.parameters size) ∧
        ∃ reason, (diagnostics registry records).filter (·.reportsExclusion index place) =
          [.excluded index place record.identifierName reason] := by
  have isFamily : record.resolved.keyFamily? = some signature.family := by
    rw [isSignature]
    rfl
  have reports := filter_reportsExclusion_eq registry isRecord isEvaluation isFamily
  rw [Collection.exclusion?] at reports
  cases stated : keySize registry signature.family evaluation with
  | ok size =>
      rw [stated] at reports
      exact Or.inl
        ⟨isCovered_of_keySize_eq_ok registry isRecord isEvaluation isSignature stated, reports⟩
  | error reason =>
      rw [stated] at reports
      refine Or.inr ⟨?_, reason, reports⟩
      intro size states
      rw [← keySize_eq_ok_iff, stated] at states
      cases states

end Evaluation

variable (registry records)

theorem diagnostics_account : Accounts registry records (diagnostics registry records) where
  ordered := diagnostics_ordered
  reported _ := mem_diagnostics_iff
  determined _ othersOrdered othersReported :=
    Diagnostic.ordered_eq_of_mem_iff othersOrdered diagnostics_ordered fun diagnostic =>
      (othersReported diagnostic).trans mem_diagnostics_iff.symm
  covered _ _ _ _ _ isRecord isSignature isEvaluation :=
    isCovered_or_reported registry isRecord isEvaluation isSignature

end Acceptability

end AlgorithmPolicy

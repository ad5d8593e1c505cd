import AlgorithmPolicy.Proofs.Acceptability.Derived

/-! The list of what is reported: first record by record, and then what is shadowed. Each
record adds to the end of what was reported before it, whatever was collected. -/

namespace AlgorithmPolicy

namespace Acceptability

/-! ## Exclusions -/

/-- Parameters state no key size for a family: the first one with the name the registry
gives has no lower bound, or one that does not fit into thirty-two bits. -/
inductive Excludes (registry : Registry) (family : EncryptionFamily)
    (parameters : List Policy.Parameter) : Exclusion → Prop
  | missingMinimum {name : String} {parameter : Policy.Parameter} :
      registry.keySizeParameter? family = some name →
      IsFirstNamed name parameters parameter → parameter.min = none →
        Excludes registry family parameters (.missingMinimum name)
  | keySizeOutOfRange {name : String} {parameter : Policy.Parameter} {min : Int64} :
      registry.keySizeParameter? family = some name →
      IsFirstNamed name parameters parameter → parameter.min = some min →
      (∀ size : UInt32, min.toInt ≠ size.toNat) →
        Excludes registry family parameters (.keySizeOutOfRange name min)

theorem IsFirstNamed.name_eq {name : String} {parameters : List Policy.Parameter}
    {parameter : Policy.Parameter} (first : IsFirstNamed name parameters parameter) :
    parameter.name = name := by
  rcases first with ⟨earlier, later, split, named, unnamed⟩
  exact named

theorem excludes_of_keySize_eq_error {registry : Registry} {family : EncryptionFamily}
    {evaluation : Catalogue.Evaluation} {reason : Exclusion}
    (failed : keySize registry family evaluation = .error reason) :
    Excludes registry family evaluation.parameters reason := by
  rw [keySize] at failed
  cases named : registry.keySizeParameter? family with
  | none => simp [named] at failed
  | some name =>
      rw [named, Option.bind_some] at failed
      cases found : evaluation.parameter? name with
      | none => simp [found] at failed
      | some parameter =>
          have first := parameter?_eq_some_iff.mp found
          rw [found] at failed
          dsimp only at failed
          rw [first.name_eq] at failed
          cases bound : parameter.min with
          | none =>
              rw [bound] at failed
              rw [← Except.error.inj failed]
              exact .missingMinimum named first bound
          | some min =>
              rw [bound] at failed
              dsimp only at failed
              split at failed
              · cases failed
              · next outside =>
                  rw [← Except.error.inj failed]
                  apply Excludes.keySizeOutOfRange named first bound
                  intro size same
                  have small := size.toNat_lt
                  exact outside ⟨by omega, by omega⟩

theorem keySize_eq_error_iff {registry : Registry} {family : EncryptionFamily}
    {evaluation : Catalogue.Evaluation} {reason : Exclusion} :
    keySize registry family evaluation = .error reason ↔
      Excludes registry family evaluation.parameters reason := by
  constructor
  · exact excludes_of_keySize_eq_error
  · intro excludes
    cases excludes with
    | missingMinimum named first bound =>
        simp [keySize, named, parameter?_eq_some_iff.mpr first, bound, first.name_eq]
    | keySizeOutOfRange named first bound unfit =>
        have outside : ¬ (0 ≤ Int64.toInt _ ∧ Int64.toInt _ < 4294967296) := fun bounds =>
          unfit _ ((ofNat_toNat_eq_iff bounds _).mp rfl)
        simp [keySize, named, parameter?_eq_some_iff.mpr first, bound, first.name_eq, outside]

/-! ## One record -/

namespace Collection

/-- What is reported about an evaluation of a record, if it states no key size. -/
def exclusion? (registry : Registry) (family : EncryptionFamily) (index : Nat)
    (record : Catalogue.Record) (placed : Catalogue.Evaluation × Nat) : Option Diagnostic :=
  match keySize registry family placed.1 with
  | .ok _ => none
  | .error reason => some (.excluded index placed.2 record.identifierName reason)

theorem exclusion?_eq_some_iff {registry : Registry} {family : EncryptionFamily} {index : Nat}
    {record : Catalogue.Record} {placed : Catalogue.Evaluation × Nat}
    {diagnostic : Diagnostic} :
    exclusion? registry family index record placed = some diagnostic ↔
      ∃ reason, Excludes registry family placed.1.parameters reason ∧
        diagnostic = .excluded index placed.2 record.identifierName reason := by
  simp only [← keySize_eq_error_iff, exclusion?]
  cases keySize registry family placed.1 with
  | ok size => simp
  | error reason => simp [eq_comm]

def exclusions (registry : Registry) (family : EncryptionFamily) (index : Nat)
    (record : Catalogue.Record) : List Diagnostic :=
  record.evaluations.zipIdx.filterMap (exclusion? registry family index record)

/-- What is reported about a record. -/
def recordDiagnostics (registry : Registry) (placed : Catalogue.Record × Nat) :
    List Diagnostic :=
  match placed.1.resolved with
  | .digest _ => []
  | .signature signature => exclusions registry signature.family placed.2 placed.1
  | .encryption family => exclusions registry family placed.2 placed.1
  | .unknown => [.unresolved placed.2 placed.1.identifierName]

theorem toList_addAllSized_snd {α : Type} [Labelled α] [DecidableEq α] (registry : Registry)
    (family : EncryptionFamily) (algorithm : α) (index : Nat) (record : Catalogue.Record)
    (state : Ends (Identity α) × Array Diagnostic) :
    (addAllSized registry family algorithm index record state).2.toList =
      state.2.toList ++ exclusions registry family index record := by
  rw [addAllSized, exclusions]
  generalize record.evaluations.zipIdx = placed
  induction placed generalizing state with
  | nil => simp
  | cons first rest induction =>
      rw [List.foldl_cons, induction, List.filterMap_cons, addSized, exclusion?]
      cases keySize registry family first.1 <;> simp

theorem toList_diagnostics_addRecord (registry : Registry) (collection : Collection)
    (placed : Catalogue.Record × Nat) :
    (collection.addRecord registry placed).diagnostics.toList =
      collection.diagnostics.toList ++ recordDiagnostics registry placed := by
  rcases placed with ⟨record, index⟩
  rw [addRecord, recordDiagnostics]
  cases record.resolved with
  | digest digest => simp
  | signature signature => exact toList_addAllSized_snd registry _ signature index record _
  | encryption family => exact toList_addAllSized_snd registry family family index record _
  | unknown => simp

/-! ## All records -/

/-- One pass reports about the records in their order. -/
theorem toList_diagnostics_ofRecords (registry : Registry) (records : List Catalogue.Record) :
    (ofRecords registry records).diagnostics.toList =
      records.zipIdx.flatMap (recordDiagnostics registry) := by
  have pass : ∀ (placed : List (Catalogue.Record × Nat)) (collection : Collection),
      (placed.foldl (addRecord registry) collection).diagnostics.toList =
        collection.diagnostics.toList ++ placed.flatMap (recordDiagnostics registry) := by
    intro placed
    induction placed with
    | nil => simp
    | cons first rest induction =>
        intro collection
        rw [List.foldl_cons, induction, toList_diagnostics_addRecord, List.flatMap_cons,
          List.append_assoc]
  exact pass records.zipIdx empty

/-! ## Shadowed ends -/

/-- What is reported about derived ends where there are direct ones. -/
def shadowDiagnostics (direct : Ends (Identity Signature))
    (rows : List (Identity Signature × Expiration)) : List Diagnostic :=
  (rows.filter fun row => direct.contains row.1).map fun row =>
    .shadowed row.1.algorithm row.1.minKeySize

/-- Derived ends that are added do not shadow one another, as each has its own identity. -/
theorem toList_foldl_addDerived_snd {rows : List (Identity Signature × Expiration)}
    (ascending : rows.Pairwise fun left right => compare left.1 right.1 = .lt)
    (state : Ends (Identity Signature) × Array Diagnostic) :
    (rows.foldl (fun state row => addDerived state row.1 row.2) state).2.toList =
      state.2.toList ++ shadowDiagnostics state.1 rows := by
  induction rows generalizing state with
  | nil => simp [shadowDiagnostics]
  | cons row rest induction =>
      rw [List.pairwise_cons] at ascending
      rw [List.foldl_cons, induction ascending.2, addDerived]
      cases shadowed : state.1.contains row.1 with
      | true => simp [shadowDiagnostics, shadowed]
      | false =>
          have kept : ∀ other ∈ rest,
              (state.1.insert row.1 row.2).contains other.1 = state.1.contains other.1 := by
            intro other member
            simp [Std.TreeMap.contains_insert, ascending.1 other member]
          simp only [Bool.false_eq_true, if_false, shadowDiagnostics,
            List.filter_cons_of_neg, shadowed, not_false_eq_true]
          rw [List.filter_congr kept]

end Collection

theorem diagnostics_eq (registry : Registry) (records : List Catalogue.Record) :
    diagnostics registry records =
      records.zipIdx.flatMap (Collection.recordDiagnostics registry) ++
        Collection.shadowDiagnostics (Collection.ofRecords registry records).signatureEnds
          ((Collection.ofRecords registry records).derivedEnds registry).toList := by
  rw [diagnostics, Collection.allSignatureEnds, Std.TreeMap.foldl_eq_foldl_toList,
    Collection.toList_foldl_addDerived_snd Std.TreeMap.ordered_keys_toList,
    Collection.toList_diagnostics_ofRecords]

end Acceptability

end AlgorithmPolicy

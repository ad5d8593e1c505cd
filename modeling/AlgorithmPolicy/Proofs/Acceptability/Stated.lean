import AlgorithmPolicy.Acceptability.Collection
import AlgorithmPolicy.Proofs.Ends

/-! What the records of a catalogue state, as lists of ends in the order of the catalogue,
and what one pass over the records collects of it. -/

namespace AlgorithmPolicy.Acceptability

/-! ## Key sizes -/

/-- The first parameter of a name. -/
def IsFirstNamed (name : String) (parameters : List Policy.Parameter)
    (parameter : Policy.Parameter) : Prop :=
  ∃ earlier later, parameters = earlier ++ parameter :: later ∧ parameter.name = name ∧
    ∀ other ∈ earlier, other.name ≠ name

/-- Parameters state a key size for a family: it is the lower bound of the first parameter
with the name the registry gives, and zero if there is no such name or parameter. -/
def StatesKeySize (registry : Registry) (family : EncryptionFamily)
    (parameters : List Policy.Parameter) (size : UInt32) : Prop :=
  match registry.keySizeParameter? family with
  | none => size = 0
  | some name =>
      ((∀ parameter ∈ parameters, parameter.name ≠ name) ∧ size = 0) ∨
        ∃ parameter min, IsFirstNamed name parameters parameter ∧
          parameter.min = some min ∧ Int64.toInt min = (size.toNat : Int)

theorem parameter?_eq_some_iff {evaluation : Catalogue.Evaluation} {name : String}
    {parameter : Policy.Parameter} :
    evaluation.parameter? name = some parameter ↔
      IsFirstNamed name evaluation.parameters parameter := by
  simp only [Catalogue.Evaluation.parameter?, List.find?_eq_some_iff_append, IsFirstNamed,
    beq_iff_eq, Bool.not_eq_true', beq_eq_false_iff_ne]
  constructor
  · rintro ⟨named, earlier, later, split, unnamed⟩
    exact ⟨earlier, later, split, named, unnamed⟩
  · rintro ⟨earlier, later, split, named, unnamed⟩
    exact ⟨named, earlier, later, split, unnamed⟩

theorem parameter?_eq_none_iff {evaluation : Catalogue.Evaluation} {name : String} :
    evaluation.parameter? name = none ↔
      ∀ parameter ∈ evaluation.parameters, parameter.name ≠ name := by
  simp [Catalogue.Evaluation.parameter?]

/-- A lower bound is a key size if it fits into thirty-two bits. -/
theorem ofNat_toNat_eq_iff {min : Int} (bounds : 0 ≤ min ∧ min < 4294967296)
    (size : UInt32) : UInt32.ofNat min.toNat = size ↔ min = (size.toNat : Int) := by
  rcases Int.eq_ofNat_of_zero_le bounds.1 with ⟨natural, rfl⟩
  have fits : natural < UInt32.size := by
    have := bounds.2
    simp only [UInt32.size]
    omega
  rw [← UInt32.toNat_inj, Int.toNat_natCast, UInt32.toNat_ofNat_of_lt' fits]
  exact Int.natCast_inj.symm

theorem keySize_eq_ok_iff {registry : Registry} {family : EncryptionFamily}
    {evaluation : Catalogue.Evaluation} {size : UInt32} :
    keySize registry family evaluation = .ok size ↔
      StatesKeySize registry family evaluation.parameters size := by
  unfold keySize StatesKeySize
  cases registry.keySizeParameter? family with
  | none => simp [eq_comm]
  | some name =>
      rw [Option.bind_some]
      cases found : evaluation.parameter? name with
      | none =>
          have absent := parameter?_eq_none_iff.mp found
          constructor
          · intro stated
            exact Or.inl ⟨absent, (Except.ok.inj stated).symm⟩
          · rintro (⟨-, rfl⟩ | ⟨parameter, min, first, -⟩)
            · rfl
            · rw [parameter?_eq_some_iff.mpr first] at found
              cases found
      | some parameter =>
          have first := parameter?_eq_some_iff.mp found
          have isFirst_iff : ∀ other,
              IsFirstNamed name evaluation.parameters other ↔ other = parameter := by
            intro other
            rw [← parameter?_eq_some_iff, found, Option.some_inj, eq_comm]
          have named : ¬ ∀ other ∈ evaluation.parameters, other.name ≠ name := by
            rw [← parameter?_eq_none_iff, found]
            exact Option.some_ne_none parameter
          simp only [named, false_and, false_or, isFirst_iff, exists_and_left, exists_eq_left]
          cases parameter.min with
          | none => simp
          | some min =>
              simp only [Option.some_inj, exists_eq_left']
              split
              · next bounds => rw [Except.ok.injEq, ofNat_toNat_eq_iff bounds]
              · next outside =>
                  have small := size.toNat_lt
                  refine ⟨fun stated => (nomatch stated), fun same => ?_⟩
                  exact absurd ⟨by omega, by omega⟩ outside

/-! ## Statements -/

/-- Whether some record stands for this, whatever its evaluations. -/
def Names (records : List Catalogue.Record) (resolved : Resolved) : Prop :=
  ∃ record ∈ records, record.resolved = resolved

/-- The ends of all evaluations of a digest. -/
def digestEnds (records : List Catalogue.Record) (digest : Digest) : List Expiration :=
  records.flatMap fun record =>
    if record.resolved = .digest digest then record.evaluations.map (·.validityEnd) else []

/-- The ends of those evaluations that state a key size. -/
def sizedEnds (registry : Registry) (family : EncryptionFamily) (size : UInt32)
    (evaluations : List Catalogue.Evaluation) : List Expiration :=
  (evaluations.filter fun evaluation => keySize registry family evaluation = .ok size).map
    (·.validityEnd)

/-- The ends of all evaluations of one algorithm that state a key size. -/
def statedEnds (registry : Registry) (records : List Catalogue.Record) (resolved : Resolved)
    (family : EncryptionFamily) (size : UInt32) : List Expiration :=
  records.flatMap fun record =>
    if record.resolved = resolved then sizedEnds registry family size record.evaluations
    else []

def directEndsAt (registry : Registry) (records : List Catalogue.Record) (signature : Signature)
    (size : UInt32) : List Expiration :=
  statedEnds registry records (.signature signature) signature.family size

def familyEndsAt (registry : Registry) (records : List Catalogue.Record)
    (family : EncryptionFamily) (size : UInt32) : List Expiration :=
  statedEnds registry records (.encryption family) family size

theorem mem_digestEnds_iff {records : List Catalogue.Record} {digest : Digest}
    {expiration : Expiration} :
    expiration ∈ digestEnds records digest ↔
      ∃ record ∈ records, record.resolved = .digest digest ∧
        ∃ evaluation ∈ record.evaluations, evaluation.validityEnd = expiration := by
  simp only [digestEnds, List.mem_flatMap]
  refine exists_congr fun record => and_congr_right fun _ => ?_
  by_cases same : record.resolved = .digest digest <;> simp [same]

theorem mem_sizedEnds_iff {registry : Registry} {family : EncryptionFamily} {size : UInt32}
    {evaluations : List Catalogue.Evaluation} {expiration : Expiration} :
    expiration ∈ sizedEnds registry family size evaluations ↔
      ∃ evaluation ∈ evaluations, keySize registry family evaluation = .ok size ∧
        evaluation.validityEnd = expiration := by
  simp [sizedEnds, and_assoc]

theorem sizedEnds_cons (registry : Registry) (family : EncryptionFamily) (size : UInt32)
    (evaluation : Catalogue.Evaluation) (rest : List Catalogue.Evaluation) :
    sizedEnds registry family size (evaluation :: rest) =
      if keySize registry family evaluation = .ok size then
        evaluation.validityEnd :: sizedEnds registry family size rest
      else sizedEnds registry family size rest := by
  by_cases stated : keySize registry family evaluation = .ok size <;> simp [sizedEnds, stated]

theorem mem_statedEnds_iff {registry : Registry} {records : List Catalogue.Record}
    {resolved : Resolved} {family : EncryptionFamily} {size : UInt32}
    {expiration : Expiration} :
    expiration ∈ statedEnds registry records resolved family size ↔
      ∃ record ∈ records, record.resolved = resolved ∧
        ∃ evaluation ∈ record.evaluations, keySize registry family evaluation = .ok size ∧
          evaluation.validityEnd = expiration := by
  simp only [statedEnds, List.mem_flatMap]
  refine exists_congr fun record => and_congr_right fun _ => ?_
  by_cases same : record.resolved = resolved <;> simp [same, mem_sizedEnds_iff]

section Append

variable (records : List Catalogue.Record) (record : Catalogue.Record)

@[simp] theorem names_append_singleton (resolved : Resolved) :
    Names (records ++ [record]) resolved ↔
      Names records resolved ∨ record.resolved = resolved := by
  simp [Names, or_and_right, exists_or]

@[simp] theorem digestEnds_append_singleton (digest : Digest) :
    digestEnds (records ++ [record]) digest =
      digestEnds records digest ++
        if record.resolved = .digest digest then record.evaluations.map (·.validityEnd)
        else [] := by
  simp [digestEnds]

@[simp] theorem statedEnds_append_singleton (registry : Registry) (resolved : Resolved)
    (family : EncryptionFamily) (size : UInt32) :
    statedEnds registry (records ++ [record]) resolved family size =
      statedEnds registry records resolved family size ++
        if record.resolved = resolved then
          sizedEnds registry family size record.evaluations
        else [] := by
  simp [statedEnds]

end Append

/-! ## One record -/

namespace Collection

theorem addDigest_eq (ends : Ends Digest) (digest : Digest)
    (evaluations : List Catalogue.Evaluation) :
    addDigest ends digest evaluations =
      ends.addAll
        ((evaluations.map (·.validityEnd)).map fun expiration => (digest, expiration)) := by
  rw [Ends.addAll, List.foldl_map, List.foldl_map]
  rfl

theorem getElem?_addDigest (ends : Ends Digest) (digest : Digest)
    (evaluations : List Catalogue.Evaluation) (other : Digest) :
    (addDigest ends digest evaluations)[other]? =
      Expiration.latest? (ends[other]?.toList ++
        if digest = other then evaluations.map (·.validityEnd) else []) := by
  rw [addDigest_eq, Ends.getElem?_addAll, endsOf_map_of_key]

section Sized

variable {α : Type}

/-- The ends of evaluations, each for the algorithm at the key size it states. -/
def sized (registry : Registry) (family : EncryptionFamily) (algorithm : α)
    (evaluations : List Catalogue.Evaluation) : List (Identity α × Expiration) :=
  evaluations.filterMap fun evaluation =>
    match keySize registry family evaluation with
    | .ok size => some (.withKeySize algorithm size, evaluation.validityEnd)
    | .error _ => none

theorem sized_cons (registry : Registry) (family : EncryptionFamily) (algorithm : α)
    (evaluation : Catalogue.Evaluation) (rest : List Catalogue.Evaluation) :
    sized registry family algorithm (evaluation :: rest) =
      match keySize registry family evaluation with
      | .ok size =>
          (.withKeySize algorithm size, evaluation.validityEnd) ::
            sized registry family algorithm rest
      | .error _ => sized registry family algorithm rest := by
  cases stated : keySize registry family evaluation <;> simp [sized, stated]

variable [DecidableEq α]

theorem endsOf_sized_withKeySize (registry : Registry) (family : EncryptionFamily)
    (algorithm other : α) (size : UInt32) (evaluations : List Catalogue.Evaluation) :
    endsOf (sized registry family algorithm evaluations) (.withKeySize other size) =
      if algorithm = other then sizedEnds registry family size evaluations else [] := by
  induction evaluations with
  | nil => simp [sized, sizedEnds]
  | cons evaluation rest induction =>
      rw [sized_cons, sizedEnds_cons]
      cases keySize registry family evaluation with
      | error reason => simpa using induction
      | ok found =>
          dsimp only
          rw [endsOf_cons, induction]
          by_cases sameSize : found = size <;> by_cases sameAlgorithm : algorithm = other <;>
            simp [Identity.withKeySize, sameSize, sameAlgorithm]

theorem endsOf_sized_keyless (registry : Registry) (family : EncryptionFamily)
    (algorithm other : α) (evaluations : List Catalogue.Evaluation) :
    endsOf (sized registry family algorithm evaluations) (.keyless other) = [] := by
  induction evaluations with
  | nil => rfl
  | cons evaluation rest induction =>
      rw [sized_cons]
      cases keySize registry family evaluation with
      | error reason => exact induction
      | ok found =>
          dsimp only
          rw [endsOf_cons, induction]
          simp [Identity.withKeySize, Identity.keyless]

theorem addAllSized_fst [Labelled α] (registry : Registry) (family : EncryptionFamily) (algorithm : α)
    (index : Nat) (record : Catalogue.Record)
    (state : Ends (Identity α) × Array Diagnostic) :
    (addAllSized registry family algorithm index record state).1 =
      Ends.addAll state.1 (sized registry family algorithm record.evaluations) := by
  have placed : ∀ (evaluations : List Catalogue.Evaluation) (start : Nat)
      (state : Ends (Identity α) × Array Diagnostic),
      ((evaluations.zipIdx start).foldl
          (addSized registry family algorithm index record) state).1 =
        Ends.addAll state.1 (sized registry family algorithm evaluations) := by
    intro evaluations
    induction evaluations with
    | nil => intros; rfl
    | cons evaluation rest induction =>
        intro start state
        rw [List.zipIdx_cons, List.foldl_cons, induction, sized_cons, addSized]
        cases keySize registry family evaluation <;> rfl
  exact placed record.evaluations 0 state

end Sized

end Collection

end AlgorithmPolicy.Acceptability

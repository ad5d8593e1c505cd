import Mathlib.Data.List.Nodup
import AlgorithmPolicy.Json.Record
import AlgorithmPolicy.Proofs.Json.Reader

/-! What readers of records take. A closed record is an object of its fields, each of which stands
there once at most, or an array of values in the order of the fields; a field that may be left
out has its default where it is. -/

namespace AlgorithmPolicy.Json

/-! ## Attempts -/

namespace Attempt

variable {α β : Type}

theorem toExcept_eq_ok_iff {attempt : Attempt α} {result : α} :
    attempt.toExcept = .ok result ↔ attempt = .success result := by
  cases attempt <;> simp [toExcept]

theorem ofExcept_eq_success_iff {place : Nat} {computation : Except Fault α} {result : α} :
    ofExcept place computation = .success result ↔ computation = .ok result := by
  cases computation <;> simp [ofExcept]

theorem seq_eq_success_iff {function : Attempt (α → β)} {argument : Attempt α} {result : β} :
    function <*> argument = .success result ↔
      ∃ transform value, function = .success transform ∧ argument = .success value ∧
        transform value = result := by
  change function.apply argument = _ ↔ _
  cases function <;> cases argument <;> simp only [apply]
  case failure.failure => split <;> simp
  all_goals simp

theorem map_eq_success_iff {transform : α → β} {argument : Attempt α} {result : β} :
    transform <$> argument = .success result ↔
      ∃ value, argument = .success value ∧ transform value = result := by
  change (Attempt.success transform).apply argument = _ ↔ _
  cases argument <;> simp [apply]

theorem seqLeft_eq_success_iff {first : Attempt α} {second : Attempt Unit} {result : α} :
    first <* second = .success result ↔ first = .success result ∧ second = .success () := by
  change ((Attempt.success (Function.const Unit)).apply first).apply second = _ ↔ _
  cases first <;> cases second <;> simp only [apply]
  case failure.failure => split <;> simp
  all_goals simp

end Attempt

/-! ## Fields of values -/

/-- Where names are distinct, each member is found by its name. -/
theorem lookup_of_mem {α : Type} {members : List (MemberName × α)}
    (distinct : (members.map (·.1)).Nodup) {name : MemberName} {value : α}
    (member : (name, value) ∈ members) : members.lookup name = some value := by
  induction members with
  | nil => cases member
  | cons first members induction =>
      rcases first with ⟨other, otherValue⟩
      rw [List.map_cons, List.nodup_cons] at distinct
      rcases List.mem_cons.mp member with isFirst | isLater
      · rcases Prod.mk.inj isFirst with ⟨rfl, rfl⟩
        exact List.lookup_cons_self
      · have different : (name == other) = false := by
          rw [beq_eq_false_iff_ne]
          rintro rfl
          exact distinct.1 (List.mem_map.mpr ⟨_, isLater, rfl⟩)
        rw [List.lookup_cons, different]
        exact induction distinct.2 isLater

namespace Value

variable {α : Type}

/-- The value of a field, which an array has at the place of the field. -/
def field? (fields : List String) (name : String) : Value → Option Value
  | .object members => members.lookup (some name)
  | .array items => items[fields.idxOf name]?
  | _ => none

/-- A record of some fields at most. -/
def IsRecord (fields : List String) : Value → Prop
  | .object members =>
      (members.map (·.1)).Nodup ∧
        ∀ name ∈ members.map (·.1), ∃ field ∈ fields, name = some field
  | .array items => items.length ≤ fields.length
  | _ => False

/-- A field that is there. -/
def Requires (fields : List String) (name : String) (meaning : Value → α → Prop)
    (value : Value) (result : α) : Prop :=
  ∃ written, value.field? fields name = some written ∧ meaning written result

/-- A field that may be left out. -/
def Defaults (fields : List String) (name : String) (default : α) (meaning : Value → α → Prop)
    (value : Value) (result : α) : Prop :=
  value.field? fields name = none ∧ result = default ∨
    value.Requires fields name meaning result

theorem IsRecord.field?_of_mem {fields : List String} {name : String} {field : Value}
    {members : List (MemberName × Value)} (isRecord : (object members).IsRecord fields)
    (member : (some name, field) ∈ members) :
    (object members).field? fields name = some field :=
  lookup_of_mem isRecord.1 member

theorem field?_array {fields : List String} {name : String} {field : Value}
    {front back : List Value} (distinct : fields.Nodup)
    (isField : fields[front.length]? = some name) :
    (array (front ++ field :: back)).field? fields name = some field := by
  rcases List.getElem?_eq_some_iff.mp isField with ⟨isIndex, rfl⟩
  rw [field?, distinct.idxOf_getElem, List.getElem?_append_right (Nat.le_refl _), Nat.sub_self,
    List.getElem?_cons_zero]

theorem Requires.of_field? {fields : List String} {name : String} {meaning : Value → α → Prop}
    {value field : Value} {result : α} (means : value.Requires fields name meaning result)
    (isField : value.field? fields name = some field) : meaning field result := by
  rcases means with ⟨written, isWritten, means⟩
  rw [isField] at isWritten
  rcases Option.some_inj.mp isWritten with rfl
  exact means

theorem Defaults.of_field? {fields : List String} {name : String} {default : α}
    {meaning : Value → α → Prop} {value field : Value} {result : α}
    (means : value.Defaults fields name default meaning result)
    (isField : value.field? fields name = some field) : meaning field result := by
  rcases means with ⟨isAbsent, -⟩ | means
  · rw [isField] at isAbsent
    cases isAbsent
  · exact means.of_field? isField

/-- A record as readers are given it. -/
def record (declaration : Declaration) (room : Nat) : Value → Record
  | .object members => .object (memberDrafts room members)
  | .array items => .array declaration (itemDrafts room items)
  | _ => .object []

end Value

namespace Record

variable {α : Type} {declaration : Declaration} {room : Nat} {name : String}
  {read : Reader α} {meaning : Value → α → Prop}

theorem map_find?_zipIdx (members : List (MemberName × Draft)) (start : Nat) :
    ((members.zipIdx start).find? fun ((other, _), _) => other == some name).map (·.1.2) =
      members.lookup (some name) := by
  induction members generalizing start with
  | nil => rfl
  | cons member members induction =>
      rcases member with ⟨other, value⟩
      rw [List.zipIdx_cons, List.find?_cons, List.lookup_cons]
      by_cases same : other = some name
      · subst same
        simp
      · have different : (other == some name) = false := by simpa using same
        have differentToo : (some name == other) = false := by simpa using Ne.symm same
        simp only [different, differentToo]
        exact induction (start + 1)

/-- The value of a field of an object is the member of its name. -/
theorem map_value?_object (members : List (MemberName × Draft)) (name : String) :
    ((Record.object members).value? name).map (·.2) = members.lookup (some name) := by
  rw [value?, Option.map_map, ← map_find?_zipIdx members 0]
  rfl

theorem lookup_memberDrafts (members : List (MemberName × Value)) :
    (Value.memberDrafts room members).lookup (some name) =
      (members.lookup (some name)).map (Value.draft room) := by
  induction members with
  | nil => rfl
  | cons member members induction =>
      rcases member with ⟨other, value⟩
      rw [Value.memberDrafts, List.lookup_cons, List.lookup_cons, induction]
      cases some name == other <;> rfl

/-- A record has a field where its value does. -/
theorem map_value?_record (declaration : Declaration) (room : Nat) (name : String)
    (value : Value) :
    ((value.record declaration room).value? name).map (·.2) =
      (value.field? declaration.fields name).map (Value.draft room) := by
  cases value with
  | object members =>
      rw [Value.record, map_value?_object, Value.field?, lookup_memberDrafts]
  | array items =>
      rw [Value.record, value?, Option.map_map, Value.field?, Value.itemDrafts_eq_map,
        List.getElem?_map, Option.map_map]
      rfl
  | _ => rfl

theorem required_eq_success_iff (takes : read.Takes room meaning) {value : Value} {result : α} :
    (value.record declaration room).required name read = .success result ↔
      value.Requires declaration.fields name meaning result := by
  have sameField := map_value?_record declaration room name value
  rw [required, Value.Requires]
  cases written : value.field? declaration.fields name with
  | none =>
      rw [written, Option.map_none, Option.map_eq_none_iff] at sameField
      rw [sameField]
      cases value <;> simp [Value.record, absence]
  | some field =>
      rw [written, Option.map_some, Option.map_eq_some_iff] at sameField
      rcases sameField with ⟨⟨place, draft⟩, found, rfl⟩
      simp [found, Attempt.ofExcept_eq_success_iff, takes field]

theorem defaulted_eq_success_iff (takes : read.Takes room meaning) {value : Value}
    {default result : α} :
    (value.record declaration room).defaulted name default read = .success result ↔
      value.Defaults declaration.fields name default meaning result := by
  have sameField := map_value?_record declaration room name value
  rw [defaulted, Value.Defaults, Value.Requires]
  cases written : value.field? declaration.fields name with
  | none =>
      rw [written, Option.map_none, Option.map_eq_none_iff] at sameField
      simp [sameField, eq_comm]
  | some field =>
      rw [written, Option.map_some, Option.map_eq_some_iff] at sameField
      rcases sameField with ⟨⟨place, draft⟩, found, rfl⟩
      simp [found, Attempt.ofExcept_eq_success_iff, takes field]

end Record

/-! ## Members -/

namespace Declaration

variable {α : Type} {declaration : Declaration}

/-- Members are the fields of a record, apart from those that were seen before. -/
def AreFields (fields seen : List String) (names : List MemberName) : Prop :=
  names.Nodup ∧ ∀ name ∈ names, ∃ field ∈ fields, name = some field ∧ field ∉ seen

theorem areFields_cons_iff {fields seen : List String} {field : String}
    {names : List MemberName} :
    AreFields fields seen (some field :: names) ↔
      field ∈ fields ∧ field ∉ seen ∧ AreFields fields (field :: seen) names := by
  rw [AreFields, AreFields, List.nodup_cons, List.forall_mem_cons]
  simp only [List.mem_cons, not_or]
  constructor
  · rintro ⟨⟨notLater, nodup⟩, ⟨first, isField, same, notSeen⟩, later⟩
    rcases Option.some_inj.mp same with rfl
    refine ⟨isField, notSeen, nodup, ?_⟩
    intro name member
    rcases later name member with ⟨other, isOther, rfl, otherNotSeen⟩
    refine ⟨other, isOther, rfl, ?_, otherNotSeen⟩
    rintro rfl
    exact notLater member
  · rintro ⟨isField, notSeen, nodup, later⟩
    refine ⟨⟨?_, nodup⟩, ⟨field, isField, rfl, notSeen⟩, ?_⟩
    · intro member
      rcases later _ member with ⟨other, -, same, different, -⟩
      exact different (Option.some_inj.mp same).symm
    · intro name member
      rcases later name member with ⟨other, isOther, isName, -, otherNotSeen⟩
      exact ⟨other, isOther, isName, otherNotSeen⟩

theorem checkMembers_of_areFields {seen : List String} {index : Nat}
    {members : List (MemberName × Draft)}
    (areFields : AreFields declaration.fields seen (members.map (·.1))) :
    declaration.checkMembers true seen index members = .success () := by
  induction members generalizing seen index with
  | nil => rfl
  | cons member members induction =>
      rcases member with ⟨name, value⟩
      rcases areFields.2 name List.mem_cons_self with ⟨field, -, rfl, -⟩
      rcases areFields_cons_iff.mp areFields with ⟨isField, notSeen, later⟩
      rw [checkMembers, if_pos isField, if_neg notSeen]
      exact induction later

/-- What is no field of a closed record is not passed over. -/
theorem checkMembers_eq_success_iff (closed : declaration.isClosed = true) {seen : List String}
    {index : Nat} {members : List (MemberName × Draft)} :
    declaration.checkMembers true seen index members = .success () ↔
      AreFields declaration.fields seen (members.map (·.1)) := by
  refine ⟨?_, checkMembers_of_areFields⟩
  induction members generalizing seen index with
  | nil => exact fun _ => ⟨List.nodup_nil, by simp⟩
  | cons member members induction =>
      rcases member with ⟨_ | name, value⟩
      · exact nofun
      · intro passes
        rw [checkMembers, if_pos closed] at passes
        split at passes
        · next isField =>
            split at passes
            · cases passes
            · next notSeen =>
                exact areFields_cons_iff.mpr ⟨isField, notSeen, induction passes⟩
        · cases passes

theorem checkItems_eq_success_iff {surplus : Fault} {items : List Draft} :
    declaration.checkItems surplus items = .success () ↔
      items.length ≤ declaration.fields.length := by
  rw [checkItems]
  split
  · next more => simp [Nat.not_le.mpr more]
  · next notMore => simpa using notMore

theorem read_eq_ok_iff (closed : declaration.isClosed = true) {build : Record → Attempt α}
    {value : Value} {room : Nat} {result : α} :
    declaration.read build (value.draft (room + 1)) = .ok result ↔
      value.IsRecord declaration.fields ∧
        build (value.record declaration room) = .success result := by
  rw [read, and_comm]
  cases value with
  | object members =>
      simp only [Value.draft, Value.enclosed, Nat.add_sub_cancel, readWith,
        Attempt.toExcept_eq_ok_iff, Attempt.seqLeft_eq_success_iff,
        checkMembers_eq_success_iff closed, Value.record, Value.IsRecord, AreFields,
        Value.memberDrafts_eq_map, List.map_map, Function.comp_def, List.not_mem_nil,
        not_false_eq_true, and_true]
  | array items =>
      simp only [Value.draft, Value.enclosed, Nat.add_sub_cancel, readWith,
        Attempt.toExcept_eq_ok_iff, Attempt.seqLeft_eq_success_iff, checkItems_eq_success_iff,
        Value.record, Value.IsRecord, Value.itemDrafts_eq_map, List.length_map]
  | string text => cases text <;> simp [Value.draft, Value.stringDraft, readWith, Value.IsRecord]
  | _ => simp [Value.draft, readWith, Value.IsRecord]

end Declaration

end AlgorithmPolicy.Json

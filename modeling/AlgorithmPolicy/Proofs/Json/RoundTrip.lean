import AlgorithmPolicy.Json.Tagged
import AlgorithmPolicy.Proofs.Json.Canonical
import AlgorithmPolicy.Proofs.Json.Record
import AlgorithmPolicy.Proofs.Json.Writing

/-! Reading what was written. What is written in JSON is read back from its text, whether its
members stand in the order in which they are written or are sorted. -/

namespace AlgorithmPolicy.Json

/-- What is read of a written value, with its members sorted or not. -/
def draftOf (isSorted : Bool) (room : Nat) (json : Json) : Draft :=
  (if isSorted then json.sorted else json).toValue.draft room

def draftsOf (isSorted : Bool) (room : Nat) (members : List (String × Json)) :
    List (MemberName × Draft) :=
  members.map fun (name, value) => (some name, value.draftOf isSorted room)

/-- A reader takes what was written for what it was written for. -/
def ReadsBack {α : Type} (read : Reader α) (room : Nat) (json : Json) (value : α) : Prop :=
  ∀ isSorted, read (json.draftOf isSorted room) = .ok value

theorem ReadsBack.compact {α : Type} {read : Reader α} {json : Json} {value : α}
    (readsBack : ReadsBack read State.depthLimit json value) :
    Reader.ofText read json.compact = .ok value :=
  (Reader.ofText_of_isSpelledBy json.isSpelledBy_compact).mpr (readsBack false)

theorem ReadsBack.indented {α : Type} {read : Reader α} {json : Json} {value : α}
    (readsBack : ReadsBack read State.depthLimit json value) :
    Reader.ofText read json.indented = .ok value :=
  (Reader.ofText_of_isSpelledBy json.isSpelledBy_indented).mpr (readsBack false)

theorem ReadsBack.canonical {α : Type} {read : Reader α} {json : Json} {value : α}
    (readsBack : ReadsBack read State.depthLimit json value) :
    Reader.ofText read json.canonical = .ok value :=
  (Reader.ofText_of_isSpelledBy json.sorted.isSpelledBy_compact).mpr (readsBack true)

/-! ## Written values as they are read -/

theorem draftOf_string (isSorted : Bool) (room : Nat) (text : String) :
    (Json.string text).draftOf isSorted room = .string text := by
  cases isSorted <;> rfl

theorem draftOf_integer (isSorted : Bool) (room : Nat) (number : Int) :
    (Json.integer number).draftOf isSorted room = .number (literal number) := by
  cases isSorted <;> rfl

theorem draftOf_null (isSorted : Bool) (room : Nat) :
    Json.null.draftOf isSorted room = .null := by
  cases isSorted <;> rfl

theorem draftOf_array (isSorted : Bool) (room : Nat) (items : List Json) :
    (Json.array items).draftOf isSorted (room + 1) =
      .array (items.map (draftOf isSorted room)) := by
  cases isSorted with
  | false =>
      simp [draftOf, toValue, Value.draft, Value.enclosed, itemValues_eq_map,
        Value.itemDrafts_eq_map]
  | true =>
      simp [draftOf, sorted, sortedItems_eq_map, toValue, Value.draft, Value.enclosed,
        itemValues_eq_map, Value.itemDrafts_eq_map]

theorem insertMember_perm (member : String × Json) (members : List (String × Json)) :
    (insertMember member members).Perm (member :: members) := by
  induction members with
  | nil => exact .refl _
  | cons head tail induction =>
      rw [insertMember]
      split
      · exact (induction.cons head).trans (.swap member head tail)
      · exact .refl _

theorem sortMembers_perm (members : List (String × Json)) :
    (sortMembers members).Perm members := by
  induction members with
  | nil => exact .refl _
  | cons head tail induction => exact (insertMember_perm head _).trans (induction.cons head)

/-- The members of an object may change places, but none is lost. -/
theorem exists_draftOf_object (isSorted : Bool) (room : Nat) (members : List (String × Json)) :
    ∃ drafts, (Json.object members).draftOf isSorted (room + 1) = .object drafts true ∧
      drafts.Perm (draftsOf isSorted room members) := by
  cases isSorted with
  | false =>
      refine ⟨_, rfl, .of_eq ?_⟩
      simp [draftsOf, draftOf, memberValues_eq_map, Value.memberDrafts_eq_map,
        Function.comp_def]
  | true =>
      refine ⟨_, rfl, ?_⟩
      rw [memberValues_eq_map, Value.memberDrafts_eq_map, List.map_map]
      refine ((sortMembers_perm _).map _).trans (.of_eq ?_)
      simp [draftsOf, draftOf, sortedMembers_eq_map, Function.comp_def]

/-! ## Simple values -/

section Simple

variable {α : Type} {read : Reader α} {room : Nat}

theorem readsBack_string (text : String) : ReadsBack Reader.string room (.string text) text := by
  intro isSorted
  rw [draftOf_string]
  rfl

theorem readsBack_label [Labelled α] (value : α) :
    ReadsBack Reader.label room (.string (Labelled.label value)) value := by
  intro isSorted
  rw [draftOf_string, Reader.label, Reader.labelOfText, Labelled.ofLabel?_label]

theorem readsBack_heldLabel [Labelled α] (value : α) :
    ReadsBack Reader.heldLabel room (.string (Labelled.label value)) value := by
  intro isSorted
  rw [draftOf_string, Reader.heldLabel, Reader.labelOfText, Labelled.ofLabel?_label]

theorem fieldLabel_label [Labelled α] (value : α) :
    Reader.fieldLabel (.string (Labelled.label value)) = .ok value := by
  rw [Reader.fieldLabel, Reader.labelOfText, Labelled.ofLabel?_label]

theorem heldFieldLabel_label [Labelled α] (value : α) :
    Reader.heldFieldLabel (.string (Labelled.label value)) = .ok value :=
  fieldLabel_label value

theorem ReadsBack.map {β : Type} {json : Json} {value : α}
    (readsBack : ReadsBack read room json value) (transform : α → β) :
    ReadsBack (fun draft => transform <$> read draft) room json (transform value) :=
  fun isSorted => Except.map_eq_ok_iff.mpr ⟨value, readsBack isSorted, rfl⟩

theorem integerWithin_literal {first last number : Int} (expected : String)
    (notBelow : first ≤ number) (notAbove : number ≤ last)
    (small : -9223372036854775808 ≤ number ∧ number ≤ 18446744073709551615) :
    Reader.integerWithin first last expected (.number (literal number)) = .ok number :=
  Reader.integerWithin_eq_ok_iff.mpr ⟨_, rfl,
    (NumberLiteral.integer?_eq_some_iff (Token.isProper_literal number) number).mpr ⟨rfl, small⟩,
    notBelow, notAbove⟩

theorem readsBack_int64 (number : Int64) :
    ReadsBack Reader.int64 room (.integer number.toInt) number := by
  intro isSorted
  have notBelow := number.le_toInt
  have notAbove := number.toInt_lt
  rw [draftOf_integer, Reader.int64, integerWithin_literal "i64" (by omega) (by omega) (by omega)]
  exact congrArg Except.ok number.ofInt_toInt

theorem readsBack_uint32 (number : UInt32) :
    ReadsBack Reader.uint32 room (.integer number.toNat) number := by
  intro isSorted
  have notAbove := number.toNat_lt
  rw [draftOf_integer, Reader.uint32,
    integerWithin_literal "u32" (by omega) (by omega) (by omega)]
  exact congrArg Except.ok number.ofNat_toNat

theorem readsBack_index {number : Nat} (small : number < 18446744073709551616) :
    ReadsBack Reader.index room (.integer number) number := by
  intro isSorted
  rw [draftOf_integer, Reader.index,
    integerWithin_literal "usize" (by omega) (by omega) (by omega)]
  rfl

theorem readsBack_null : ReadsBack (Reader.nullable read) room .null none := by
  intro isSorted
  rw [draftOf_null]
  rfl

theorem ReadsBack.nullable {json : Json} {value : α} (readsBack : ReadsBack read room json value)
    (notNull : json ≠ .null) : ReadsBack (Reader.nullable read) room json (some value) := by
  intro isSorted
  refine Reader.nullable_eq_ok_iff.mpr (Or.inr ⟨?_, value, readsBack isSorted, rfl⟩)
  rw [draftOf, ne_eq, Reader.draft_eq_null_iff]
  cases isSorted <;> cases json <;> first
    | exact absurd rfl notNull
    | exact nofun

theorem readsBack_ofOption {write : α → Json}
    (readsBack : ∀ value, ReadsBack read room (write value) value)
    (notNull : ∀ value, write value ≠ .null) (value : Option α) :
    ReadsBack (Reader.nullable read) room (ofOption write value) value := by
  cases value with
  | none => exact readsBack_null
  | some value => exact (readsBack value).nullable (notNull value)

theorem readsBack_array {jsons : List Json} {values : List α}
    (readBack : List.Forall₂ (ReadsBack read room) jsons values) :
    ReadsBack (Reader.list read) (room + 1) (.array jsons) values := by
  intro isSorted
  rw [draftOf_array, Reader.list, Except.mapM_eq_ok_iff, List.forall₂_map_left_iff]
  exact readBack.imp fun _ _ readsBack => readsBack isSorted

theorem readsBack_map {write : α → Json}
    (readsBack : ∀ value, ReadsBack read room (write value) value) (values : List α) :
    ReadsBack (Reader.list read) (room + 1) (.array (values.map write)) values := by
  refine readsBack_array (List.forall₂_map_left_iff.mpr (List.forall₂_same.mpr ?_))
  exact fun value _ => readsBack value

/-- The same for items that need not have a notation. -/
theorem readsBack_mapM {ε : Type} {write : α → Except ε Json}
    (readsBack : ∀ value json, write value = .ok json → ReadsBack read room json value)
    {values : List α} {jsons : List Json} (written : values.mapM write = .ok jsons) :
    ReadsBack (Reader.list read) (room + 1) (.array jsons) values :=
  readsBack_array ((Except.mapM_eq_ok_iff.mp written).imp readsBack).flip

end Simple

/-! ## Records -/

/-- A record has a field that is read as something. -/
def Record.Reads {α : Type} (record : Record) (name : String) (read : Reader α) (value : α) :
    Prop :=
  ∃ place draft, record.value? name = some (place, draft) ∧ read draft = .ok value

namespace Record.Reads

variable {α : Type} {record : Record} {name : String} {read : Reader α} {value default : α}

theorem required (reads : record.Reads name read value) :
    record.required name read = .success value := by
  rcases reads with ⟨place, draft, found, isRead⟩
  rw [Record.required, found]
  exact Attempt.ofExcept_eq_success_iff.mpr isRead

theorem defaulted (reads : record.Reads name read value) :
    record.defaulted name default read = .success value := by
  rcases reads with ⟨place, draft, found, isRead⟩
  rw [Record.defaulted, found]
  exact Attempt.ofExcept_eq_success_iff.mpr isRead

theorem implied (reads : record.Reads name read value) :
    record.implied name default read = .success value := by
  cases record with
  | object members => exact reads.defaulted
  | array declaration items => exact reads.required

end Record.Reads

theorem Record.reads_of_mem {α : Type} {members : List (MemberName × Draft)}
    (distinct : (members.map (·.1)).Nodup) {name : String} {draft : Draft} {read : Reader α}
    {value : α} (member : (some name, draft) ∈ members) (isRead : read draft = .ok value) :
    (Record.object members).Reads name read value := by
  have found := Record.map_value?_object members name
  rw [lookup_of_mem distinct member, Option.map_eq_some_iff] at found
  rcases found with ⟨⟨place, other⟩, found, rfl⟩
  exact ⟨place, other, found, isRead⟩

/-- A record is read if its fields are all there, whatever their order. -/
theorem Declaration.readWith_of_perm {α : Type} {declaration : Declaration}
    {surplus : List Draft → Fault} {build : Record → Attempt α} {members : List (String × Json)}
    {drafts : List (MemberName × Draft)} {value : α} {isSorted : Bool} {room : Nat}
    (areFields : names members = declaration.fields) (distinct : declaration.fields.Nodup)
    (rearranged : drafts.Perm (draftsOf isSorted room members))
    (builds : ∀ record : Record,
      (∀ {β : Type} {name : String} {json : Json} {read : Reader β} {field : β},
        (name, json) ∈ members → ReadsBack read room json field →
          record.Reads name read field) →
      build record = .success value) :
    declaration.readWith surplus build (.object drafts true) = .ok value := by
  have sameNames : (drafts.map (·.1)).Perm (declaration.fields.map some) := by
    refine (rearranged.map _).trans (.of_eq ?_)
    simp [← areFields, names, draftsOf, Function.comp_def]
  have distinctNames : (drafts.map (·.1)).Nodup :=
    sameNames.nodup_iff.mpr (distinct.map fun _ _ => Option.some.inj)
  have known : AreFields declaration.fields [] (drafts.map (·.1)) := by
    refine ⟨distinctNames, fun name member => ?_⟩
    rcases List.mem_map.mp (sameNames.mem_iff.mp member) with ⟨field, isField, rfl⟩
    exact ⟨field, isField, rfl, List.not_mem_nil⟩
  refine Attempt.toExcept_eq_ok_iff.mpr (Attempt.seqLeft_eq_success_iff.mpr
    ⟨builds _ ?_, checkMembers_of_areFields known⟩)
  intro β name json read field member readsBack
  refine Record.reads_of_mem distinctNames (rearranged.mem_iff.mpr ?_) (readsBack isSorted)
  exact List.mem_map.mpr ⟨_, member, rfl⟩

theorem Declaration.readsBack {α : Type} {declaration : Declaration}
    {build : Record → Attempt α} {members : List (String × Json)} {value : α} {room : Nat}
    (areFields : names members = declaration.fields) (distinct : declaration.fields.Nodup)
    (builds : ∀ record : Record,
      (∀ {β : Type} {name : String} {json : Json} {read : Reader β} {field : β},
        (name, json) ∈ members → ReadsBack read room json field →
          record.Reads name read field) →
      build record = .success value) :
    ReadsBack (declaration.read build) (room + 1) (.object members) value := by
  intro isSorted
  rcases exists_draftOf_object isSorted room members with ⟨drafts, isDraft, rearranged⟩
  rw [isDraft]
  exact declaration.readWith_of_perm areFields distinct rearranged builds

/-! ## Held values -/

theorem canMembersBeHeld_iff {members : List (MemberName × Draft)} :
    Draft.canMembersBeHeld members = true ↔
      ∀ member ∈ members, member.1.isSome = true ∧ member.2.canBeHeld = true := by
  induction members with
  | nil => simp [Draft.canMembersBeHeld]
  | cons member members induction =>
      rcases member with ⟨name, value⟩
      simp [Draft.canMembersBeHeld, induction]

/-- What is written can be held until it is known what it is. -/
def CanBeHeld (room : Nat) (json : Json) : Prop :=
  ∀ isSorted, (json.draftOf isSorted room).canBeHeld = true

theorem canBeHeld_string (room : Nat) (text : String) : CanBeHeld room (.string text) := by
  intro isSorted
  rw [draftOf_string]
  rfl

theorem canBeHeld_integer (room : Nat) {number : Int}
    (small : -9223372036854775808 ≤ number ∧ number ≤ 18446744073709551615) :
    CanBeHeld room (.integer number) := by
  intro isSorted
  have isInteger :=
    (NumberLiteral.integer?_eq_some_iff (Token.isProper_literal number) number).mpr ⟨rfl, small⟩
  rw [draftOf_integer, Draft.canBeHeld, isInteger]
  rfl

theorem canBeHeld_int64 (room : Nat) (number : Int64) :
    CanBeHeld room (.integer number.toInt) := by
  have notBelow := number.le_toInt
  have notAbove := number.toInt_lt
  exact canBeHeld_integer room (by omega)

theorem canBeHeld_index (room : Nat) {number : Nat} (small : number < 18446744073709551616) :
    CanBeHeld room (.integer number) :=
  canBeHeld_integer room (by omega)

theorem canBeHeld_object {room : Nat} {members : List (String × Json)}
    (each : ∀ member ∈ members, CanBeHeld room member.2) :
    CanBeHeld (room + 1) (.object members) := by
  intro isSorted
  rcases exists_draftOf_object isSorted room members with ⟨drafts, isDraft, rearranged⟩
  rw [isDraft, Draft.canBeHeld, Bool.true_and, canMembersBeHeld_iff]
  intro member isMember
  rcases List.mem_map.mp (rearranged.mem_iff.mp isMember) with ⟨written, isWritten, rfl⟩
  exact ⟨rfl, each written isWritten isSorted⟩

/-! ## Tagged values -/

/-- One member has its place among the others. -/
theorem exists_append_of_perm_cons {α : Type} {first : α} {items others : List α}
    (rearranged : items.Perm (first :: others)) :
    ∃ front back, items = front ++ first :: back ∧ (front ++ back).Perm others := by
  rcases List.append_of_mem (rearranged.mem_iff.mpr List.mem_cons_self) with ⟨front, back, rfl⟩
  exact ⟨front, back, rfl, (List.perm_middle.symm.trans rearranged).cons_inv⟩

namespace Adjacent

variable {τ α : Type} [Labelled τ] {adjacent : Adjacent τ α} {tag : τ} {value : α} {room : Nat}

theorem read_pair {first second : MemberName × Draft} (progress : Progress τ α)
    (takesFirst : adjacent.step .start first = .ok progress)
    (takesSecond : adjacent.step progress second = .ok (.complete value)) :
    adjacent.read (.object [first, second] true) = .ok value :=
  Except.bind_eq_ok_iff.mpr ⟨.complete value,
    Except.bind_eq_ok_iff.mpr ⟨progress, takesFirst,
      Except.bind_eq_ok_iff.mpr ⟨_, takesSecond, rfl⟩⟩, rfl⟩

/-- The tag is read in whichever order it stands with the content. -/
theorem readsBack {content : Json} (different : adjacent.content ≠ adjacent.tag)
    (readsContent : ReadsBack (adjacent.readContent tag) room content value)
    (readsHeld : ReadsBack (adjacent.readHeldContent tag) room content value)
    (canBeHeld : CanBeHeld room content) :
    ReadsBack adjacent.read (room + 1)
      (.object [(adjacent.tag, .string (Labelled.label tag)), (adjacent.content, content)])
      value := by
  intro isSorted
  rcases exists_draftOf_object isSorted room
    [(adjacent.tag, .string (Labelled.label tag)), (adjacent.content, content)] with
    ⟨drafts, isDraft, rearranged⟩
  rcases exists_append_of_perm_cons rearranged with ⟨front, back, rfl, isContent⟩
  have readsTag : Reader.label ((Json.string (Labelled.label tag)).draftOf isSorted room) =
      .ok tag := readsBack_label tag isSorted
  rw [isDraft]
  rcases List.append_eq_singleton_iff.mp (List.perm_singleton.mp isContent) with
    ⟨rfl, rfl⟩ | ⟨rfl, rfl⟩
  · refine read_pair (.tagged tag) ?_ ?_
    · rw [step, stepNamed, if_pos rfl]
      exact Except.bind_eq_ok_iff.mpr ⟨tag, readsTag, rfl⟩
    · rw [step, stepNamed, if_neg different, if_pos rfl]
      exact Except.bind_eq_ok_iff.mpr ⟨value, readsContent isSorted, rfl⟩
  · refine read_pair (.held (content.draftOf isSorted room)) ?_ ?_
    · rw [step, stepNamed, if_neg different, if_pos rfl]
      exact Except.bind_eq_ok_iff.mpr ⟨_, if_pos (canBeHeld isSorted), rfl⟩
    · rw [step, stepNamed, if_pos rfl]
      exact Except.bind_eq_ok_iff.mpr ⟨tag, readsTag,
        Except.bind_eq_ok_iff.mpr ⟨value, readsHeld isSorted, rfl⟩⟩

theorem readsBack_bare (isBare : adjacent.bare? tag = some value) :
    ReadsBack adjacent.read (room + 1)
      (.object [(adjacent.tag, .string (Labelled.label tag))]) value := by
  intro isSorted
  rcases exists_draftOf_object isSorted room
    [(adjacent.tag, .string (Labelled.label tag))] with ⟨drafts, isDraft, rearranged⟩
  rcases List.perm_singleton.mp rearranged with rfl
  have takesTag : adjacent.step .start
      (some adjacent.tag, (Json.string (Labelled.label tag)).draftOf isSorted room) =
        .ok (.tagged tag) := by
    rw [step, stepNamed, if_pos rfl]
    exact Except.bind_eq_ok_iff.mpr ⟨tag, readsBack_label tag isSorted, rfl⟩
  rw [isDraft]
  refine Except.bind_eq_ok_iff.mpr ⟨.tagged tag,
    Except.bind_eq_ok_iff.mpr ⟨_, takesTag, rfl⟩, ?_⟩
  rw [if_pos rfl, finish, isBare]

end Adjacent

namespace Internal

variable {τ α : Type} {internal : Internal τ α} {readTag : Reader τ} {tag : τ} {value : α}
  {room : Nat}

/-- Members beside the tag are held in reverse. -/
theorem foldlM_step (readTag : Reader τ) {members : List (MemberName × Draft)}
    (others : ∀ member ∈ members, ∃ name, member.1 = some name ∧ name ≠ internal.tag ∧
      member.2.canBeHeld = true) (found : Option τ) (reversed : List (MemberName × Draft)) :
    members.foldlM (internal.step readTag) (found, reversed) =
      .ok (found, members.reverse ++ reversed) := by
  induction members generalizing reversed with
  | nil => rfl
  | cons member members induction =>
      rcases member with ⟨_, draft⟩
      rcases others _ List.mem_cons_self with ⟨name, rfl, notTag, canBeHeld⟩
      have takes : internal.step readTag (found, reversed) (some name, draft) =
          .ok (found, (some name, draft) :: reversed) := by
        refine (if_neg notTag).trans ?_
        exact Except.bind_eq_ok_iff.mpr ⟨draft, if_pos canBeHeld, rfl⟩
      have later := induction
        (fun member isMember => others member (List.mem_cons_of_mem _ isMember))
        ((some name, draft) :: reversed)
      rw [List.reverse_cons, List.append_assoc]
      exact Except.bind_eq_ok_iff.mpr ⟨_, takes, later⟩

/-- The tag is taken out of the members, and the fields are read from the others. -/
theorem readsBack (declaration : Declaration) {text : String} {build : Record → Attempt α}
    {fields : List (String × Json)} (readsTag : readTag (.string text) = .ok tag)
    (isRecord : internal.readFields tag = declaration.readAhead build)
    (areFields : names fields = declaration.fields)
    (distinct : (internal.tag :: declaration.fields).Nodup)
    (canBeHeld : ∀ field ∈ fields, CanBeHeld room field.2)
    (builds : ∀ record : Record,
      (∀ {β : Type} {name : String} {json : Json} {read : Reader β} {field : β},
        (name, json) ∈ fields → ReadsBack read room json field → record.Reads name read field) →
      build record = .success value) :
    ReadsBack (internal.readWith readTag) (room + 1)
      (.object ((internal.tag, .string text) :: fields)) value := by
  intro isSorted
  rcases exists_draftOf_object isSorted room ((internal.tag, .string text) :: fields) with
    ⟨drafts, isDraft, rearranged⟩
  rcases exists_append_of_perm_cons rearranged with ⟨front, back, rfl, others⟩
  rcases List.nodup_cons.mp distinct with ⟨notField, distinctFields⟩
  have held : ∀ member ∈ front ++ back, ∃ name, member.1 = some name ∧ name ≠ internal.tag ∧
      member.2.canBeHeld = true := by
    intro member isMember
    rcases List.mem_map.mp (others.mem_iff.mp isMember) with ⟨field, isField, rfl⟩
    refine ⟨field.1, rfl, ?_, canBeHeld field isField isSorted⟩
    intro isTag
    rw [← areFields, ← isTag] at notField
    exact notField (List.mem_map.mpr ⟨field, isField, rfl⟩)
  have takesFront := foldlM_step readTag
    (fun member isMember => held member (List.mem_append_left _ isMember)) none []
  have takesBack := foldlM_step readTag
    (fun member isMember => held member (List.mem_append_right _ isMember)) (some tag)
    (front.reverse ++ [])
  have takesTag : internal.step readTag (none, front.reverse ++ [])
      (some internal.tag, (Json.string text).draftOf isSorted room) =
        .ok (some tag, front.reverse ++ []) := by
    rw [step, if_pos rfl, draftOf_string]
    exact Except.bind_eq_ok_iff.mpr ⟨tag, readsTag, rfl⟩
  rw [isDraft]
  refine Except.bind_eq_ok_iff.mpr ⟨(some tag, back.reverse ++ (front.reverse ++ [])), ?_, ?_⟩
  · rw [List.foldlM_append]
    exact Except.bind_eq_ok_iff.mpr ⟨_, takesFront,
      Except.bind_eq_ok_iff.mpr ⟨_, takesTag, takesBack⟩⟩
  · dsimp only
    rw [if_pos rfl, isRecord, List.append_nil, List.reverse_append, List.reverse_reverse,
      List.reverse_reverse]
    exact declaration.readWith_of_perm areFields distinctFields others builds

end Internal

end AlgorithmPolicy.Json

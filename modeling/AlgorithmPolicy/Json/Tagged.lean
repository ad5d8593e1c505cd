import AlgorithmPolicy.Json.Record

namespace AlgorithmPolicy.Json

/-! Values of several variants. A tag says which variant a value is of. The tag stands
either beside the content of the variant or among its fields.

As long as the tag is not known, what is read is held: it has to be good JSON to the
end, whatever it will be taken for. -/

/-! ## Held values -/

namespace Draft

mutual
/-- Whether a draft can be held. -/
def canBeHeld : Draft → Bool
  | .null | .bool _ | .string _ => true
  | .number literal => literal.integer?.isSome || literal.rounded?.isSome
  | .halfPair | .deep _ | .broken => false
  | .array items => canAllBeHeld items
  | .object members isComplete => isComplete && canMembersBeHeld members

def canAllBeHeld : List Draft → Bool
  | [] => true
  | item :: items => item.canBeHeld && canAllBeHeld items

def canMembersBeHeld : List (MemberName × Draft) → Bool
  | [] => true
  | (name, value) :: members =>
      name.isSome && value.canBeHeld && canMembersBeHeld members
end

end Draft

namespace Reader

def held : Reader Draft := fun draft =>
  if draft.canBeHeld then .ok draft else .error .malformed

/-! ### Labels in held values -/

/-- Nothing: an empty object will do as well. -/
def heldUnit : Reader Unit
  | .object [] _ => .ok ()
  | draft => unit "unit" draft

def heldLabel {α : Type} [Labelled α] : Reader α
  | .string text => labelOfText text
  | .object [(some name, value)] _ => do
      let found ← labelOfText name
      heldUnit value
      return found
  | .object _ _ => .error (.invalidValue .object "map with a single key")
  | draft => .error (.ofUnexpected draft "string or map")

/-- The label of a variant whose fields stand beside it. -/
def fieldLabel {α : Type} [Labelled α] : Reader α
  | .string text => labelOfText text
  | draft => .error (.ofUnexpected draft "variant identifier")

/-- In a held value such a label may be given by its place among the labels. -/
def heldFieldLabel {α : Type} [Labelled α] : Reader α
  | .number literal =>
      match literal.integer? with
      | some value =>
          if value < 0 then .error (.invalidType (.integer value) "variant identifier")
          else
            match (Labelled.all : List α)[value.toNat]? with
            | some found => .ok found
            | none =>
                .error (.invalidValue (.integer value)
                  ("variant index 0 <= i < " ++ Decimal.ofNat (labels α).length))
      | none => .error (.ofUnexpected (.number literal) "variant identifier")
  | draft => fieldLabel draft

end Reader

/-! ## Tag and content side by side

Such a value is an object with a member for the tag and one for the content, or an array
of both. -/

structure Adjacent (τ α : Type) where
  title : String
  tag : String
  content : String
  /-- The variants that need no content. -/
  bare? : τ → Option α
  readContent : τ → Reader α
  readHeldContent : τ → Reader α

namespace Adjacent

variable {τ α : Type}

inductive Progress (τ α : Type)
  | start
  | tagged (tag : τ)
  | held (content : Draft)
  | complete (value : α)

def stepNamed [Labelled τ] (adjacent : Adjacent τ α) (progress : Progress τ α)
    (name : String) (value : Draft) : Except Fault (Progress τ α) :=
  if name = adjacent.tag then
    match progress with
    | .start => do return .tagged (← Reader.label value)
    | .held content => do
        let tag ← Reader.label value
        return .complete (← adjacent.readHeldContent tag content)
    | _ => .error (.duplicateField name)
  else if name = adjacent.content then
    match progress with
    | .start => do return .held (← Reader.held value)
    | .tagged tag => do return .complete (← adjacent.readContent tag value)
    | _ => .error (.duplicateField name)
  else if value.isWhole then .ok progress
  else .error .malformed

def step [Labelled τ] (adjacent : Adjacent τ α) (progress : Progress τ α) :
    MemberName × Draft → Except Fault (Progress τ α)
  | (some name, value) => adjacent.stepNamed progress name value
  | (none, _) => .error .malformed

def finish (adjacent : Adjacent τ α) : Progress τ α → Except Fault α
  | .complete value => .ok value
  | .tagged tag =>
      match adjacent.bare? tag with
      | some value => .ok value
      | none => .error (.missingField adjacent.content)
  | _ => .error (.missingField adjacent.tag)

def read [Labelled τ] (adjacent : Adjacent τ α) : Reader α
  | .object members isComplete => do
      let progress ← members.foldlM adjacent.step .start
      if isComplete then adjacent.finish progress else .error .malformed
  | .array [] => .error (.invalidLength 0 adjacent.title)
  | .array [tag] => do
      let _ ← (Reader.fieldLabel tag : Except Fault τ)
      .error (.invalidLength 1 adjacent.title)
  | .array (tag :: content :: surplus) => do
      let value ← adjacent.readContent (← Reader.fieldLabel tag) content
      if surplus.isEmpty then .ok value else .error .malformed
  | draft => .error (.ofUnexpected draft adjacent.title)

end Adjacent

/-! ## Tag among the fields

Such a value is an object of the tag and the fields of the variant, or an array that
starts with the tag. It is held to its end before the fields are read. -/

structure Internal (τ α : Type) where
  title : String
  tag : String
  readFields : τ → Reader α

namespace Internal

variable {τ α : Type}

/-- Takes the tag out of the members of an object; the others are held in reverse. -/
def step (internal : Internal τ α) (readTag : Reader τ)
    (progress : Option τ × List (MemberName × Draft)) :
    MemberName × Draft → Except Fault (Option τ × List (MemberName × Draft))
  | (none, _) => .error .malformed
  | (some name, value) =>
      let (tag, reversed) := progress
      if name = internal.tag then
        match tag with
        | none => do return (some (← readTag value), reversed)
        | some _ => .error (.duplicateField name)
      else do return (tag, (some name, ← Reader.held value) :: reversed)

def readWith (internal : Internal τ α) (readTag : Reader τ) : Reader α
  | .object members isComplete => do
      let (tag, reversed) ← members.foldlM (internal.step readTag) (none, [])
      if isComplete then
        match tag with
        | some tag => internal.readFields tag (.object reversed.reverse true)
        | none => .error (.missingField internal.tag)
      else .error .malformed
  | .array [] => .error (.missingField internal.tag)
  | .array (tag :: items) => do
      let tag ← readTag tag
      let items ← items.mapM Reader.held
      internal.readFields tag (.array items)
  | draft => .error (.ofUnexpected draft internal.title)

def read [Labelled τ] (internal : Internal τ α) : Reader α :=
  internal.readWith Reader.fieldLabel

/-- Reads a value that is already held. -/
def readHeld [Labelled τ] (internal : Internal τ α) : Reader α :=
  internal.readWith Reader.heldFieldLabel

end Internal

end AlgorithmPolicy.Json

import AlgorithmPolicy.Json.Token

namespace AlgorithmPolicy.Json

/-! Drafts of JSON texts. A text is read token by token. The arrays and objects that
are open at a token are kept innermost first, each with what it holds so far, last
thing first. -/

/-- An open array or object that waits for a value to be read. -/
inductive Frame
  | array (reversed : List Draft)
  | object (reversed : List (MemberName × Draft)) (name : MemberName)

namespace Frame

def withValue : Frame → Draft → Draft
  | .array reversed, value => .array (value :: reversed).reverse
  | .object reversed name, value => .object ((name, value) :: reversed).reverse true

/-- What becomes of a frame if the text breaks off after a value. -/
def breakAfter : Frame → Draft → Draft
  | .array reversed, value => .array (.broken :: value :: reversed).reverse
  | .object reversed name, value => .object ((name, value) :: reversed).reverse false

/-- What becomes of a frame if the text breaks off inside a value. -/
def breakInside : Frame → Draft → Draft
  | .array reversed, value => .array (value :: reversed).reverse
  | .object reversed name, value => .object ((name, value) :: reversed).reverse false

end Frame

/-- What is due at a token. -/
inductive Due
  | value
  | itemOrClose
  | nameOrClose
  | name (reversed : List (MemberName × Draft))
  | colon (reversed : List (MemberName × Draft)) (name : MemberName)
  | next (value : Draft)

structure State where
  due : Due
  frames : List Frame

namespace State

def initial : State :=
  ⟨.value, []⟩

def breakOff (frames : List Frame) (value : Draft) : Document :=
  ⟨frames.foldl (fun value frame => frame.breakInside value) value, false⟩

/-- The number of arrays and objects that may be nested in each other. What is nested more
deeply is checked, but not taken up. -/
def depthLimit : Nat := 127

def close (frames : List Frame) (value : Draft) : State :=
  ⟨.next (if frames[depthLimit - 1]?.isSome then .deep value else value), frames⟩

def takeValue (frames : List Frame) : Token → State ⊕ Document
  | .null => .inl ⟨.next .null, frames⟩
  | .bool value => .inl ⟨.next (.bool value), frames⟩
  | .number literal => .inl ⟨.next (.number literal), frames⟩
  | .string text => .inl ⟨.next (.string text), frames⟩
  | .halfPair => .inl ⟨.next .halfPair, frames⟩
  | .openArray => .inl ⟨.itemOrClose, .array [] :: frames⟩
  | .openObject => .inl ⟨.nameOrClose, frames⟩
  | _ => .inr (breakOff frames .broken)

def takeName (frames : List Frame) (reversed : List (MemberName × Draft)) :
    Token → State ⊕ Document
  | .string name => .inl ⟨.colon reversed (some name), frames⟩
  | .halfPair => .inl ⟨.colon reversed none, frames⟩
  | _ => .inr (breakOff frames (.object reversed.reverse false))

/-- Goes on by one token, or ends if the token does not fit. -/
def take : State → Token → State ⊕ Document
  | ⟨.value, frames⟩, token => takeValue frames token
  | ⟨.itemOrClose, .array [] :: frames⟩, .closeArray => .inl (close frames (.array []))
  | ⟨.itemOrClose, frames⟩, token => takeValue frames token
  | ⟨.nameOrClose, frames⟩, .closeObject => .inl (close frames (.object [] true))
  | ⟨.nameOrClose, frames⟩, token => takeName frames [] token
  | ⟨.name reversed, frames⟩, token => takeName frames reversed token
  | ⟨.colon reversed name, frames⟩, .colon => .inl ⟨.value, .object reversed name :: frames⟩
  | ⟨.colon reversed name, frames⟩, _ =>
      .inr (breakOff frames (.object ((name, .broken) :: reversed).reverse false))
  | ⟨.next value, []⟩, _ => .inr ⟨value, false⟩
  | ⟨.next value, .array reversed :: frames⟩, .comma =>
      .inl ⟨.value, .array (value :: reversed) :: frames⟩
  | ⟨.next value, .object reversed name :: frames⟩, .comma =>
      .inl ⟨.name ((name, value) :: reversed), frames⟩
  | ⟨.next value, .array reversed :: frames⟩, .closeArray =>
      .inl (close frames ((Frame.array reversed).withValue value))
  | ⟨.next value, .object reversed name :: frames⟩, .closeObject =>
      .inl (close frames ((Frame.object reversed name).withValue value))
  | ⟨.next value, frame :: frames⟩, _ => .inr (breakOff frames (frame.breakAfter value))

/-- The document if the text ends here or goes on with no token. -/
def stop : State → (isEnd : Bool) → Document
  | ⟨.value, frames⟩, _ => breakOff frames .broken
  | ⟨.itemOrClose, frames⟩, _ => breakOff frames .broken
  | ⟨.nameOrClose, frames⟩, _ => breakOff frames (.object [] false)
  | ⟨.name reversed, frames⟩, _ => breakOff frames (.object reversed.reverse false)
  | ⟨.colon reversed name, frames⟩, _ =>
      breakOff frames (.object ((name, .broken) :: reversed).reverse false)
  | ⟨.next value, []⟩, isEnd => ⟨value, isEnd⟩
  | ⟨.next value, frame :: frames⟩, _ => breakOff frames (frame.breakAfter value)

def run (state : State) (text : List Char) : Document :=
  match _ : Token.front text with
  | .token token rest =>
      match state.take token with
      | .inl next => next.run rest
      | .inr document => document
  | .fault => state.stop false
  | .nothing => state.stop true
termination_by text.length
decreasing_by exact Token.front_length (by assumption)

end State

def Document.read (text : String) : Document :=
  State.initial.run text.toList

end AlgorithmPolicy.Json

import AlgorithmPolicy.Toml
import AlgorithmPolicy.Toml.Scalar
import AlgorithmPolicy.Toml.Token

namespace AlgorithmPolicy.Toml

/-! Reading a TOML text. It is read token by token into statements. The arrays and inline
tables that are open at a token are kept innermost first, each with what it holds so far,
last thing first. Statements, and the keys of a path, are kept last one first as well. -/

/-- Something that waits for a value. -/
inductive Frame
  | line (path : List String)
  | array (reversed : List Value)
  | inlineTable (reversed : List (List String × Value)) (path : List String)

inductive Place
  | line
  | header
  | arrayHeader
  | inlineTable (reversed : List (List String × Value)) (frames : List Frame)

/-- What is due at a token. -/
inductive Due
  | statement
  | headerStart
  | key (place : Place) (path : List String)
  | afterKey (place : Place) (path : List String)
  /-- The equals sign of an entry whose key ends its line. -/
  | equals (reversed : List (List String × Value)) (frames : List Frame) (path : List String)
  | secondBracket (path : List String)
  | value (frames : List Frame)
  | item (reversed : List Value) (frames : List Frame)
  | afterItem (reversed : List Value) (frames : List Frame)
  | entry (reversed : List (List String × Value)) (frames : List Frame)
  | afterEntry (reversed : List (List String × Value)) (frames : List Frame)
  /-- The rest of a number, boolean or date. -/
  | scalar (text : List Char) (frames : List Frame)
  | lineEnd

structure State where
  due : Due
  reversed : List Statement

namespace State

def initial : State :=
  ⟨.statement, []⟩

/-! ## Keys -/

def pathLimit : Nat := 80

def isKeyCharacter (character : Char) : Bool :=
  character.isAlphanum || character == '-' || character == '_'

def key? : Token → Option String
  | .bare text => if text.all isKeyCharacter then some (String.ofList text) else none
  | .string text false => some text
  | _ => none

def takeKey (state : State) (place : Place) (path : List String) (token : Token) :
    Option State :=
  if path.length < pathLimit then
    (key? token).map fun key => { state with due := .afterKey place (key :: path) }
  else none

def takeEquals (state : State) (reversed : List (List String × Value)) (frames : List Frame)
    (path : List String) : Token → Option State
  | .newline => some { state with due := .equals reversed frames path }
  | .equals => some { state with due := .value (.inlineTable reversed path.reverse :: frames) }
  | _ => none

def takeAfterKey (state : State) (path : List String) : Place → Token → Option State
  | place, .dot => some { state with due := .key place path }
  | .line, .equals => some { state with due := .value [.line path.reverse] }
  | .header, .closeBracket => some ⟨.lineEnd, .header path.reverse :: state.reversed⟩
  | .arrayHeader, .closeBracket => some { state with due := .secondBracket path.reverse }
  | .inlineTable reversed frames, token => state.takeEquals reversed frames path token
  | _, _ => none

/-! ## Values -/

def complete (state : State) (value : Value) : List Frame → Option State
  | .line path :: _ => some ⟨.lineEnd, .pair path value :: state.reversed⟩
  | .array reversed :: frames =>
      some { state with due := .afterItem (value :: reversed) frames }
  | .inlineTable reversed path :: frames =>
      some { state with due := .afterEntry ((path, value) :: reversed) frames }
  | [] => none

def completeArray (state : State) (reversed : List Value) (frames : List Frame) :
    Option State :=
  state.complete (.array reversed.reverse) frames

def completeInlineTable (state : State) (reversed : List (List String × Value))
    (frames : List Frame) : Option State := do
  let entries ← entriesOfPairs reversed.reverse
  state.complete (.table .inline entries) frames

/-- The number of arrays and inline tables that may be nested in each other. -/
def depthLimit : Nat := 80

/-- Opens an array or inline table. One of the frames around it is the line. -/
def openFrame (state : State) (frames : List Frame) (due : Due) : Option State :=
  if frames.length ≤ depthLimit then some { state with due := due } else none

/-- Takes a token where a value is due. In an inline table the value may stand on a line
below its key. -/
def takeValue (state : State) (frames : List Frame) (token : Token) : Option State :=
  match token, frames with
  | .string text _, _ => state.complete (.string text) frames
  | .bare text, _ => some { state with due := .scalar text frames }
  | .openBracket, _ => state.openFrame frames (.item [] frames)
  | .openBrace, _ => state.openFrame frames (.entry [] frames)
  | .newline, .inlineTable _ _ :: _ => some { state with due := .value frames }
  | _, _ => none

/-- Takes a token after a complete value, or where a statement starts or ends. -/
def takeBetween (state : State) : Token → Option State :=
  match state.due with
  | .lineEnd => fun
      | .newline => some { state with due := .statement }
      | _ => none
  | .afterItem reversed frames => fun
      | .newline => some state
      | .comma => some { state with due := .item reversed frames }
      | .closeBracket => state.completeArray reversed frames
      | _ => none
  | .afterEntry reversed frames => fun
      | .newline => some state
      | .comma => some { state with due := .entry reversed frames }
      | .closeBrace => state.completeInlineTable reversed frames
      | _ => none
  | _ => fun _ => none

def completeScalar (state : State) (text : List Char) (frames : List Frame) :
    Option State :=
  if Scalar.isScalar text then state.complete .scalar frames else none

/-- Goes on with a scalar. Blanks belong to it if more bare characters follow them. -/
def takeScalar (state : State) (text : List Char) (frames : List Frame)
    (blanks : List Char) (token : Token) : Option State :=
  let next : Option (List Char) :=
    match token, blanks with
    | .dot, [] => some (text ++ ['.'])
    | .bare more, _ => some (text ++ blanks ++ more)
    | _, _ => none
  match next with
  | some text => some { state with due := .scalar text frames }
  | none => (state.completeScalar text frames).bind fun state => state.takeBetween token

/-! ## Tokens -/

/-- Goes on by one token and the blanks in front of it. -/
def take (state : State) (blanks : List Char) (token : Token) : Option State :=
  match state.due, token with
  | .statement, .newline => some state
  | .statement, .openBracket => some { state with due := .headerStart }
  | .statement, _ => state.takeKey .line [] token
  | .headerStart, .openBracket =>
      if blanks.isEmpty then some { state with due := .key .arrayHeader [] } else none
  | .headerStart, _ => state.takeKey .header [] token
  | .key place path, _ => state.takeKey place path token
  | .afterKey place path, _ => state.takeAfterKey path place token
  | .equals reversed frames path, _ => state.takeEquals reversed frames path token
  | .secondBracket path, .closeBracket =>
      if blanks.isEmpty then some ⟨.lineEnd, .arrayHeader path :: state.reversed⟩ else none
  | .secondBracket _, _ => none
  | .value frames, _ => state.takeValue frames token
  | .item _ _, .newline => some state
  | .item reversed frames, .closeBracket => state.completeArray reversed frames
  | .item reversed frames, _ => state.takeValue (.array reversed :: frames) token
  | .entry _ _, .newline => some state
  | .entry reversed frames, .closeBrace => state.completeInlineTable reversed frames
  | .entry reversed frames, _ => state.takeKey (.inlineTable reversed frames) [] token
  | .scalar text frames, _ => state.takeScalar text frames blanks token
  | _, _ => state.takeBetween token

/-- The statements, if the text may end here. -/
def finish (state : State) : Option (List Statement) :=
  match state.due with
  | .statement => some state.reversed.reverse
  | .lineEnd => some state.reversed.reverse
  | .scalar text frames =>
      match state.completeScalar text frames with
      | some ⟨.lineEnd, reversed⟩ => some reversed.reverse
      | _ => none
  | _ => none

def run (state : State) (text : List Char) : Option (List Statement) :=
  match _ : Token.front text with
  | .token token rest =>
      match state.take (text.takeWhile Token.isBlank) token with
      | some next => next.run rest
      | none => none
  | .fault => none
  | .nothing => state.finish
termination_by text.length
decreasing_by exact Token.front_length (by assumption)

end State

/-- A text may start with a byte order mark. -/
def withoutMark : List Char → List Char
  | '\ufeff' :: rest => rest
  | text => text

def read (text : String) : Option Entries :=
  (State.initial.run (withoutMark text.toList)).bind entriesOfStatements

end AlgorithmPolicy.Toml

import AlgorithmPolicy.Hexadecimal

namespace AlgorithmPolicy

/-! JSON values as this library writes them, and their texts. All numbers are whole,
and the members of an object keep their order. -/

inductive Json
  | null
  | bool (value : Bool)
  | integer (value : Int)
  | string (text : String)
  | array (items : List Json)
  | object (members : List (String × Json))

namespace Json

def ofOption {α : Type} (write : α → Json) : Option α → Json
  | some value => write value
  | none => .null

def ofStrings (texts : List String) : Json :=
  .array (texts.map .string)

/-! ## Strings -/

/-- A character of a string as it is written: quotation marks, backslashes and control
characters are escaped, and nothing else. -/
def escape (character : Char) : List Char :=
  if character = '"' then ['\\', '"']
  else if character = '\\' then ['\\', '\\']
  else if character = '\n' then ['\\', 'n']
  else if character = '\r' then ['\\', 'r']
  else if character = '\t' then ['\\', 't']
  else if character = '\x08' then ['\\', 'b']
  else if character = '\x0c' then ['\\', 'f']
  else if character.toNat < 0x20 then
    ['\\', 'u', '0', '0', Hexadecimal.digit (character.toNat / 16),
      Hexadecimal.digit (character.toNat % 16)]
  else [character]

def quote (text : String) : List Char :=
  '"' :: (text.toList.flatMap escape ++ ['"'])

def writeInteger : Int → List Char
  | .ofNat number => Decimal.digits number
  | .negSucc number => '-' :: Decimal.digits (number + 1)

def writeBool (value : Bool) : List Char :=
  if value then ['t', 'r', 'u', 'e'] else ['f', 'a', 'l', 's', 'e']

def writeNull : List Char :=
  ['n', 'u', 'l', 'l']

/-! ## Compact text -/

mutual
/-- The text of a value without any blank. -/
def compactCharacters : Json → List Char
  | .null => writeNull
  | .bool value => writeBool value
  | .integer value => writeInteger value
  | .string text => quote text
  | .array [] => ['[', ']']
  | .array (item :: items) =>
      '[' :: (item.compactCharacters ++ (compactItems items ++ [']']))
  | .object [] => ['{', '}']
  | .object ((name, value) :: members) =>
      '{' :: (quote name ++ (':' :: (value.compactCharacters ++
        (compactMembers members ++ ['}']))))

def compactItems : List Json → List Char
  | [] => []
  | item :: items => ',' :: (item.compactCharacters ++ compactItems items)

def compactMembers : List (String × Json) → List Char
  | [] => []
  | (name, value) :: members =>
      ',' :: (quote name ++ (':' :: (value.compactCharacters ++ compactMembers members)))
end

def compact (value : Json) : String :=
  String.ofList value.compactCharacters

/-! ## Indented text -/

/-- A line break and the blanks that start a line at a depth. -/
def lineBreak (depth : Nat) : List Char :=
  '\n' :: List.replicate (2 * depth) ' '

mutual
/-- The text of a value with each item and member on a line of its own. -/
def indentedCharacters (depth : Nat) : Json → List Char
  | .null => writeNull
  | .bool value => writeBool value
  | .integer value => writeInteger value
  | .string text => quote text
  | .array [] => ['[', ']']
  | .array (item :: items) =>
      '[' :: (lineBreak (depth + 1) ++ (item.indentedCharacters (depth + 1) ++
        (indentedItems (depth + 1) items ++ (lineBreak depth ++ [']']))))
  | .object [] => ['{', '}']
  | .object ((name, value) :: members) =>
      '{' :: (lineBreak (depth + 1) ++ (quote name ++ (':' :: ' ' ::
        (value.indentedCharacters (depth + 1) ++
          (indentedMembers (depth + 1) members ++ (lineBreak depth ++ ['}']))))))

def indentedItems (depth : Nat) : List Json → List Char
  | [] => []
  | item :: items =>
      ',' :: (lineBreak depth ++ (item.indentedCharacters depth ++
        indentedItems depth items))

def indentedMembers (depth : Nat) : List (String × Json) → List Char
  | [] => []
  | (name, value) :: members =>
      ',' :: (lineBreak depth ++ (quote name ++ (':' :: ' ' ::
        (value.indentedCharacters depth ++ indentedMembers depth members))))
end

def indented (value : Json) : String :=
  String.ofList (value.indentedCharacters 0)

/-! ## Canonical text

The canonical text of RFC 8785 is the compact text with the members of every object
sorted by the UTF-16 code units of their names. -/

def codeUnits (character : Char) : List Nat :=
  let code := character.toNat
  if code < 0x10000 then [code]
  else [0xD800 + (code - 0x10000) / 0x400, 0xDC00 + (code - 0x10000) % 0x400]

def sortsBefore (left right : String) : Bool :=
  left.toList.flatMap codeUnits < right.toList.flatMap codeUnits

/-- Inserts a member into sorted members, before those of the same name. -/
def insertMember (member : String × Json) : List (String × Json) → List (String × Json)
  | [] => [member]
  | head :: tail =>
      if sortsBefore head.1 member.1 then head :: insertMember member tail
      else member :: head :: tail

def sortMembers (members : List (String × Json)) : List (String × Json) :=
  members.foldr insertMember []

mutual
/-- The value with all members sorted. -/
def sorted : Json → Json
  | .null => .null
  | .bool value => .bool value
  | .integer value => .integer value
  | .string text => .string text
  | .array items => .array (sortedItems items)
  | .object members => .object (sortMembers (sortedMembers members))

def sortedItems : List Json → List Json
  | [] => []
  | item :: items => item.sorted :: sortedItems items

def sortedMembers : List (String × Json) → List (String × Json)
  | [] => []
  | (name, value) :: members => (name, value.sorted) :: sortedMembers members
end

def canonical (value : Json) : String :=
  value.sorted.compact

end Json

end AlgorithmPolicy

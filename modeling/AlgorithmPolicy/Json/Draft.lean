namespace AlgorithmPolicy.Json

/-! What can be read of a JSON text. A draft follows its text up to the first fault and
marks the place where the text breaks off, so that whoever takes a draft apart in
text order comes upon whatever stands before the fault first. An object is not complete if
its text breaks off anywhere in it. What is nested too deeply can only be passed over.

A string may be written properly and yet spell half of a surrogate pair. As a value it is a
half pair then, and the name of a member is `none`. Numbers are kept as they are written. -/

structure NumberLiteral where
  isNegative : Bool
  whole : List Char
  fraction : List Char
  exponent : Option (Bool × List Char)
  deriving DecidableEq

abbrev MemberName : Type := Option String

inductive Draft
  | null
  | bool (value : Bool)
  | number (literal : NumberLiteral)
  | string (text : String)
  | halfPair
  | array (items : List Draft)
  | object (members : List (MemberName × Draft)) (isComplete : Bool)
  | deep (inside : Draft)
  | broken

namespace Draft

mutual
def isWhole : Draft → Bool
  | .null | .bool _ | .number _ | .string _ | .halfPair => true
  | .array items => areWhole items
  | .object members isComplete => isComplete && membersAreWhole members
  | .deep inside => inside.isWhole
  | .broken => false

def areWhole : List Draft → Bool
  | [] => true
  | item :: items => item.isWhole && areWhole items

def membersAreWhole : List (MemberName × Draft) → Bool
  | [] => true
  | (_, value) :: members => value.isWhole && membersAreWhole members
end

end Draft

/-- A draft, and whether nothing but blanks follows it in its text. -/
structure Document where
  value : Draft
  endsHere : Bool

end AlgorithmPolicy.Json

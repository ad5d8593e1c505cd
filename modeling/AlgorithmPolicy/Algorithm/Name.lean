import AlgorithmPolicy.Text

namespace AlgorithmPolicy.Name

/-! Names of algorithms are looked up in a normal form, in which the case of
ASCII letters, hyphens, underscores, slashes and blanks make no difference. -/

/-- Characters that may stand anywhere in a name without changing it. -/
def isSeparator (character : Char) : Bool :=
  character == '-' || character == '_' || character == '/' || Text.isBlank character

def upperAscii (character : Char) : Char :=
  if 'a' ≤ character ∧ character ≤ 'z' then Char.ofNat (character.toNat - 32) else character

def normalizeCharacters (characters : List Char) : List Char :=
  (characters.filter fun character => !isSeparator character).map upperAscii

/-- The normal form of a name. -/
def normalize (name : String) : String :=
  String.ofList (normalizeCharacters name.toList)

theorem normalizeCharacters_append (left right : List Char) :
    normalizeCharacters (left ++ right) =
      normalizeCharacters left ++ normalizeCharacters right := by
  simp [normalizeCharacters]

example : normalize " sha-3_256/x é" = "SHA3256Xé" := by decide

end AlgorithmPolicy.Name

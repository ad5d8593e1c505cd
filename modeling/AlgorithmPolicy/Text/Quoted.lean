import AlgorithmPolicy.Hexadecimal
import AlgorithmPolicy.Text.Hidden

namespace AlgorithmPolicy.Text

/-! Texts in quotation marks, as messages show them. -/

def byCodePoint (character : Char) : List Char :=
  ['\\', 'u', '\x7b'] ++ Hexadecimal.digits character.toNat ++ ['\x7d']

/-- A character as it is shown between quotation marks. What cannot be seen is shown by
its code point. -/
def showCharacter (character : Char) : List Char :=
  if character = '"' then ['\\', '"']
  else if character = '\\' then ['\\', '\\']
  else if character = '\n' then ['\\', 'n']
  else if character = '\r' then ['\\', 'r']
  else if character = '\t' then ['\\', 't']
  else if character = '\x00' then ['\\', '0']
  else if isHidden character then byCodePoint character
  else [character]

def quoted (text : String) : String :=
  String.ofList ('"' :: (text.toList.flatMap showCharacter ++ ['"']))

end AlgorithmPolicy.Text

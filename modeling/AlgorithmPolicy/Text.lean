namespace AlgorithmPolicy.Text

/-! Blank characters are those with the Unicode property White_Space, all
twenty-five of them. -/

def blankRanges : List (Nat × Nat) :=
  [(0x0009, 0x000D), (0x0020, 0x0020), (0x0085, 0x0085), (0x00A0, 0x00A0),
   (0x1680, 0x1680), (0x2000, 0x200A), (0x2028, 0x2029), (0x202F, 0x202F),
   (0x205F, 0x205F), (0x3000, 0x3000)]

def isBlank (character : Char) : Bool :=
  blankRanges.any fun (first, last) =>
    first ≤ character.toNat && character.toNat ≤ last

example : (blankRanges.map fun (first, last) => last + 1 - first).sum = 25 := by decide

/-- The text without the blanks at its two ends. -/
def trim (text : String) : String :=
  let withoutLeading := text.toList.dropWhile isBlank
  String.ofList (withoutLeading.reverse.dropWhile isBlank).reverse

end AlgorithmPolicy.Text

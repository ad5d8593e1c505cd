import AlgorithmPolicy.Proofs.Json.Value

/-! The texts in which values are written are JSON and spell what was to be written, be they
compact or indented. -/

namespace AlgorithmPolicy.Json

/-! ## What is written -/

mutual
/-- What a written value says. -/
def toValue : Json → Value
  | .null => .null
  | .bool value => .bool value
  | .integer number => .number (literal number) (Token.isProper_literal number)
  | .string text => .string (some text)
  | .array items => .array (itemValues items)
  | .object members => .object (memberValues members)

def itemValues : List Json → List Value
  | [] => []
  | item :: items => item.toValue :: itemValues items

def memberValues : List (String × Json) → List (MemberName × Value)
  | [] => []
  | (name, value) :: members => (some name, value.toValue) :: memberValues members
end

theorem itemValues_eq_map (items : List Json) : itemValues items = items.map toValue := by
  induction items with
  | nil => rfl
  | cons item items induction => rw [itemValues, induction, List.map_cons]

theorem memberValues_eq_map (members : List (String × Json)) :
    memberValues members = members.map fun (name, value) => (some name, value.toValue) := by
  induction members with
  | nil => rfl
  | cons member members induction =>
      rcases member with ⟨name, value⟩
      rw [memberValues, induction, List.map_cons]

mutual
theorem tokens_toValue (json : Json) : json.toValue.tokens = json.tokens := by
  match json with
  | .null | .bool _ | .integer _ | .string _ | .array [] | .object [] => rfl
  | .array (item :: items) =>
      rw [toValue, itemValues, Value.tokens, tokens, tokens_toValue item,
        itemTokens_itemValues items]
  | .object ((name, value) :: members) =>
      rw [toValue, memberValues, Value.tokens, tokens, tokens_toValue value,
        memberTokens_memberValues members]
      rfl

theorem itemTokens_itemValues (items : List Json) :
    Value.itemTokens (itemValues items) = itemTokens items := by
  match items with
  | [] => rfl
  | item :: items =>
      rw [itemValues, Value.itemTokens, itemTokens, tokens_toValue item,
        itemTokens_itemValues items]

theorem memberTokens_memberValues (members : List (String × Json)) :
    Value.memberTokens (memberValues members) = memberTokens members := by
  match members with
  | [] => rfl
  | (name, value) :: members =>
      rw [memberValues, Value.memberTokens, memberTokens, tokens_toValue value,
        memberTokens_memberValues members]
      rfl
end

/-! ## Compact texts -/

theorem Reads.spellsTokens {text rest : List Char} {tokens : List Token}
    (reads : Reads text tokens rest)
    (ends : ∀ character ∈ rest, Token.isBlank character = true) : SpellsTokens tokens text := by
  induction reads with
  | nothing => exact .nil ends
  | token front _ induction =>
      rcases Token.spells_of_front front with ⟨blanks, core, areBlank, spells, rfl⟩
      exact .cons areBlank spells (induction ends)

theorem isSpelledBy_compact (json : Json) : json.toValue.IsSpelledBy json.compact := by
  have reads := reads_compact json Token.EndsNumber.nil
  rw [Value.IsSpelledBy, tokens_toValue, compact, String.toList_ofList]
  rw [List.append_nil] at reads
  exact reads.spellsTokens (List.forall_mem_nil _)

/-! ## Indented texts -/

theorem isBlank_lineBreak {depth : Nat} :
    ∀ character ∈ lineBreak depth, Token.isBlank character = true := by
  intro character member
  rcases List.mem_cons.mp member with rfl | isSpace
  · rfl
  · rw [List.eq_of_mem_replicate isSpace]
    rfl

/-- What stands on the lines of an array or object, between its first and last character. -/
theorem SpellsTokens.lines (depth : Nat) {openToken closeToken : Token}
    {openText closeText : Char} {tokens : List Token} {text : List Char}
    (opens : openToken.Spells [openText]) (closes : closeToken.Spells [closeText])
    (spells : SpellsTokens tokens text) :
    SpellsTokens (openToken :: (tokens ++ [closeToken]))
      (openText :: (lineBreak (depth + 1) ++ (text ++ (lineBreak depth ++ [closeText])))) := by
  have ends : SpellsTokens [closeToken] (lineBreak depth ++ [closeText]) :=
    .cons isBlank_lineBreak closes (.nil (List.forall_mem_nil _))
  exact .token opens ((spells.append ends).blank_append isBlank_lineBreak)

/-- A name, the colon after it, and a value. -/
theorem SpellsTokens.member (name : String) {tokens : List Token} {text : List Char}
    (spells : SpellsTokens tokens text) :
    SpellsTokens (.string name :: .colon :: tokens) (quote name ++ (':' :: ' ' :: text)) := by
  have colon : Token.colon.Spells [':'] := rfl
  have isBlank : ∀ character ∈ [' '], Token.isBlank character = true :=
    List.forall_mem_singleton.mpr rfl
  exact .token (Token.spells_quote name) (.token colon (spells.blank_append isBlank))

theorem SpellsTokens.single {token : Token} {core : List Char} (spells : token.Spells core) :
    SpellsTokens [token] core := by
  have spellsAll := SpellsTokens.token spells (.nil (List.forall_mem_nil _))
  rwa [List.append_nil] at spellsAll

mutual
theorem spellsTokens_indented (json : Json) (depth : Nat) :
    SpellsTokens json.tokens (json.indentedCharacters depth) := by
  have openArray : Token.openArray.Spells ['['] := rfl
  have closeArray : Token.closeArray.Spells [']'] := rfl
  have openObject : Token.openObject.Spells ['\x7b'] := rfl
  have closeObject : Token.closeObject.Spells ['\x7d'] := rfl
  match json with
  | .null => exact .single rfl
  | .bool _ => exact .single rfl
  | .integer number => exact .single (Token.spells_writeInteger number)
  | .string text => exact .single (Token.spells_quote text)
  | .array [] => exact .token openArray (.single closeArray)
  | .array (item :: items) =>
      have spells := (spellsTokens_indented item (depth + 1)).append
        (spellsTokens_indentedItems items (depth + 1))
      rw [tokens, indentedCharacters]
      simpa only [List.append_assoc] using spells.lines depth openArray closeArray
  | .object [] => exact .token openObject (.single closeObject)
  | .object ((name, value) :: members) =>
      have spells := ((spellsTokens_indented value (depth + 1)).append
        (spellsTokens_indentedMembers members (depth + 1))).member name
      rw [tokens, indentedCharacters]
      simpa only [List.append_assoc, List.cons_append] using
        spells.lines depth openObject closeObject

theorem spellsTokens_indentedItems (items : List Json) (depth : Nat) :
    SpellsTokens (itemTokens items) (indentedItems depth items) := by
  have comma : Token.comma.Spells [','] := rfl
  match items with
  | [] => exact .nil (List.forall_mem_nil _)
  | item :: items =>
      have spells := (spellsTokens_indented item depth).append
        (spellsTokens_indentedItems items depth)
      exact .token comma (spells.blank_append isBlank_lineBreak)

theorem spellsTokens_indentedMembers (members : List (String × Json)) (depth : Nat) :
    SpellsTokens (memberTokens members) (indentedMembers depth members) := by
  have comma : Token.comma.Spells [','] := rfl
  match members with
  | [] => exact .nil (List.forall_mem_nil _)
  | (name, value) :: members =>
      have spells := ((spellsTokens_indented value depth).append
        (spellsTokens_indentedMembers members depth)).member name
      exact .token comma (spells.blank_append isBlank_lineBreak)
end

theorem isSpelledBy_indented (json : Json) : json.toValue.IsSpelledBy json.indented := by
  rw [Value.IsSpelledBy, tokens_toValue, indented, String.toList_ofList]
  exact spellsTokens_indented json 0

end AlgorithmPolicy.Json

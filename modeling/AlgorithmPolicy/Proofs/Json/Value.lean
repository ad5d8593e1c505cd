import AlgorithmPolicy.Proofs.Json.Tokens

/-! JSON values, their drafts, and the texts that spell them. -/

namespace AlgorithmPolicy.Json

/-! ## Values -/

/-- A value as any text may write it. A string that spells half of a surrogate pair has no
characters. -/
inductive Value
  | null
  | bool (value : Bool)
  | number (literal : NumberLiteral) (proper : literal.IsProper)
  | string (text : Option String)
  | array (items : List Value)
  | object (members : List (MemberName × Value))

namespace Value

/-! ### Drafts of values -/

def stringDraft : Option String → Draft
  | some text => .string text
  | none => .halfPair

/-- An array or object, given how many may be nested in each other at its place. -/
def enclosed : (room : Nat) → Draft → Draft
  | 0, draft => .deep draft
  | _ + 1, draft => draft

mutual
def draft (room : Nat) : Value → Draft
  | .null => .null
  | .bool value => .bool value
  | .number literal _ => .number literal
  | .string text => stringDraft text
  | .array items => enclosed room (.array (itemDrafts (room - 1) items))
  | .object members => enclosed room (.object (memberDrafts (room - 1) members) true)

def itemDrafts (room : Nat) : List Value → List Draft
  | [] => []
  | item :: items => item.draft room :: itemDrafts room items

def memberDrafts (room : Nat) : List (MemberName × Value) → List (MemberName × Draft)
  | [] => []
  | (name, value) :: members => (name, value.draft room) :: memberDrafts room members
end

theorem itemDrafts_eq_map (room : Nat) (items : List Value) :
    itemDrafts room items = items.map (draft room) := by
  induction items with
  | nil => rfl
  | cons item items induction => rw [itemDrafts, induction, List.map_cons]

theorem memberDrafts_eq_map (room : Nat) (members : List (MemberName × Value)) :
    memberDrafts room members = members.map fun (name, value) => (name, value.draft room) := by
  induction members with
  | nil => rfl
  | cons member members induction =>
      rcases member with ⟨name, value⟩
      rw [memberDrafts, induction, List.map_cons]

/-! ### Tokens of values -/

def stringToken : Option String → Token
  | some text => .string text
  | none => .halfPair

mutual
def tokens : Value → List Token
  | .null => [.null]
  | .bool value => [.bool value]
  | .number literal _ => [.number literal]
  | .string text => [stringToken text]
  | .array [] => [.openArray, .closeArray]
  | .array (item :: items) =>
      .openArray :: (item.tokens ++ (itemTokens items ++ [.closeArray]))
  | .object [] => [.openObject, .closeObject]
  | .object ((name, value) :: members) =>
      .openObject :: stringToken name :: .colon :: (value.tokens ++
        (memberTokens members ++ [.closeObject]))

/-- The tokens of items after the first one. -/
def itemTokens : List Value → List Token
  | [] => []
  | item :: items => .comma :: (item.tokens ++ itemTokens items)

/-- The tokens of members after the first one. -/
def memberTokens : List (MemberName × Value) → List Token
  | [] => []
  | (name, value) :: members =>
      .comma :: stringToken name :: .colon :: (value.tokens ++ memberTokens members)
end

/-! ### The last item and the last member -/

theorem itemDrafts_concat (room : Nat) (items : List Value) (last : Value) :
    itemDrafts room (items ++ [last]) = itemDrafts room items ++ [last.draft room] := by
  simp [itemDrafts_eq_map]

theorem memberDrafts_concat (room : Nat) (members : List (MemberName × Value))
    (name : MemberName) (last : Value) :
    memberDrafts room (members ++ [(name, last)]) =
      memberDrafts room members ++ [(name, last.draft room)] := by
  simp [memberDrafts_eq_map]

/-- The tokens of items, each with the comma after it. -/
def itemsBefore (items : List Value) : List Token :=
  items.flatMap fun item => item.tokens ++ [.comma]

def membersBefore (members : List (MemberName × Value)) : List Token :=
  members.flatMap fun (name, value) => stringToken name :: .colon :: (value.tokens ++ [.comma])

theorem itemsBefore_concat (items : List Value) (last : Value) :
    itemsBefore (items ++ [last]) = itemsBefore items ++ (last.tokens ++ [.comma]) := by
  simp [itemsBefore]

theorem membersBefore_concat (members : List (MemberName × Value)) (name : MemberName)
    (last : Value) :
    membersBefore (members ++ [(name, last)]) =
      membersBefore members ++ stringToken name :: .colon :: (last.tokens ++ [.comma]) := by
  simp [membersBefore]

theorem tokens_array_concat (items : List Value) (last : Value) :
    (Value.array (items ++ [last])).tokens =
      .openArray :: (itemsBefore items ++ (last.tokens ++ [.closeArray])) := by
  have later : ∀ items : List Value, itemTokens (items ++ [last]) =
      .comma :: (itemsBefore items ++ last.tokens) := by
    intro items
    induction items with
    | nil => simp [itemTokens, itemsBefore]
    | cons item items induction =>
        simp [itemTokens, itemsBefore, induction]
  cases items with
  | nil => simp [tokens, itemTokens, itemsBefore]
  | cons item items => simp [tokens, later, itemsBefore]

theorem tokens_object_concat (members : List (MemberName × Value)) (name : MemberName)
    (last : Value) :
    (Value.object (members ++ [(name, last)])).tokens =
      .openObject :: (membersBefore members ++
        stringToken name :: .colon :: (last.tokens ++ [.closeObject])) := by
  have later : ∀ members : List (MemberName × Value), memberTokens (members ++ [(name, last)]) =
      .comma :: (membersBefore members ++ stringToken name :: .colon :: last.tokens) := by
    intro members
    induction members with
    | nil => simp [memberTokens, membersBefore]
    | cons member members induction =>
        simp [memberTokens, membersBefore, induction]
  cases members with
  | nil => simp [tokens, memberTokens, membersBefore]
  | cons member members => simp [tokens, later, membersBefore]

end Value

/-! ## Texts of tokens -/

/-- A text consists of spellings of tokens, and of blanks. -/
inductive SpellsTokens : List Token → List Char → Prop
  | nil {blanks : List Char} : (∀ character ∈ blanks, Token.isBlank character = true) →
      SpellsTokens [] blanks
  | cons {token : Token} {tokens : List Token} {blanks core rest : List Char} :
      (∀ character ∈ blanks, Token.isBlank character = true) → token.Spells core →
        SpellsTokens tokens rest → SpellsTokens (token :: tokens) (blanks ++ (core ++ rest))

namespace SpellsTokens

theorem blank_append {tokens : List Token} {blanks text : List Char}
    (areBlank : ∀ character ∈ blanks, Token.isBlank character = true)
    (spells : SpellsTokens tokens text) : SpellsTokens tokens (blanks ++ text) := by
  cases spells with
  | nil moreBlank => exact .nil (List.forall_mem_append.mpr ⟨areBlank, moreBlank⟩)
  | cons moreBlank spellsToken spellsRest =>
      rw [← List.append_assoc]
      exact .cons (List.forall_mem_append.mpr ⟨areBlank, moreBlank⟩) spellsToken spellsRest

theorem append {tokens later : List Token} {text rest : List Char}
    (spells : SpellsTokens tokens text) (spellsLater : SpellsTokens later rest) :
    SpellsTokens (tokens ++ later) (text ++ rest) := by
  induction spells with
  | nil areBlank => exact spellsLater.blank_append areBlank
  | cons areBlank spellsToken _ induction =>
      rw [List.append_assoc, List.append_assoc]
      exact .cons areBlank spellsToken induction

theorem token {token : Token} {tokens : List Token} {core rest : List Char}
    (spells : token.Spells core) (spellsRest : SpellsTokens tokens rest) :
    SpellsTokens (token :: tokens) (core ++ rest) :=
  .cons (List.forall_mem_nil _) spells spellsRest

end SpellsTokens

/-- A text writes a value in accordance with the grammar of JSON. -/
def Value.IsSpelledBy (value : Value) (text : String) : Prop :=
  SpellsTokens value.tokens text.toList

/-- What follows a number in a text may be anything but another number. -/
theorem SpellsTokens.endsNumber {tokens : List Token} {text : List Char}
    (spells : SpellsTokens tokens text)
    (notNumber : ∀ literal, tokens.head? ≠ some (.number literal)) : Token.EndsNumber text := by
  have blankEnds : ∀ character, Token.isBlank character = true →
      character.isDigit = false ∧ character ≠ '.' ∧ character ≠ 'e' ∧ character ≠ 'E' := by
    intro character blank
    simp only [Token.isBlank, Bool.or_eq_true, beq_iff_eq] at blank
    rcases blank with ((rfl | rfl) | rfl) | rfl <;> decide
  intro character first
  cases spells with
  | nil areBlank => exact blankEnds character (areBlank character (List.mem_of_mem_head? first))
  | @cons token _ blanks core _ areBlank spellsToken _ =>
      cases blanks with
      | cons blank blanks =>
          rcases Option.some_inj.mp first with rfl
          exact blankEnds _ (areBlank _ List.mem_cons_self)
      | nil =>
          cases token with
          | number literal => exact absurd rfl (notNumber literal)
          | bool value =>
              rcases spellsToken with rfl
              cases value <;> rcases Option.some_inj.mp first with rfl <;> decide
          | string found =>
              rcases spellsToken with ⟨_, _, rfl⟩
              rcases Option.some_inj.mp first with rfl
              decide
          | halfPair =>
              rcases spellsToken with ⟨_, _, _, rfl⟩
              rcases Option.some_inj.mp first with rfl
              decide
          | openArray | closeArray | openObject | closeObject | comma | colon | null =>
              rcases spellsToken with rfl
              rcases Option.some_inj.mp first with rfl
              decide

end AlgorithmPolicy.Json

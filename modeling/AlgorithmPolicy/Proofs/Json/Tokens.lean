import AlgorithmPolicy.Proofs.Json.Spelling

/-! The tokens of a JSON value, and that they are read from its text. -/

namespace AlgorithmPolicy.Json

/-! ## Tokens of values -/

def literal : Int → NumberLiteral
  | .ofNat number => ⟨false, Decimal.digits number, [], none⟩
  | .negSucc number => ⟨true, Decimal.digits (number + 1), [], none⟩

mutual
def tokens : Json → List Token
  | .null => [.null]
  | .bool value => [.bool value]
  | .integer value => [.number (literal value)]
  | .string text => [.string text]
  | .array [] => [.openArray, .closeArray]
  | .array (item :: items) =>
      .openArray :: (item.tokens ++ (itemTokens items ++ [.closeArray]))
  | .object [] => [.openObject, .closeObject]
  | .object ((name, value) :: members) =>
      .openObject :: .string name :: .colon :: (value.tokens ++
        (memberTokens members ++ [.closeObject]))

/-- The tokens of items after the first one. -/
def itemTokens : List Json → List Token
  | [] => []
  | item :: items => .comma :: (item.tokens ++ itemTokens items)

/-- The tokens of members after the first one. -/
def memberTokens : List (String × Json) → List Token
  | [] => []
  | (name, value) :: members =>
      .comma :: .string name :: .colon :: (value.tokens ++ memberTokens members)
end

/-! ## Tokens of texts -/

/-- The tokens at the front of a text, and what follows them. -/
inductive Reads : List Char → List Token → List Char → Prop
  | nothing (text : List Char) : Reads text [] text
  | token {text next rest : List Char} {first : Token} {later : List Token} :
      Token.front text = .token first next → Reads next later rest →
        Reads text (first :: later) rest

namespace Reads

theorem single {text rest : List Char} {token : Token}
    (first : Token.front text = .token token rest) : Reads text [token] rest :=
  .token first (.nothing rest)

theorem append {text middle rest : List Char} {first second : List Token}
    (reads : Reads text first middle) (readsOn : Reads middle second rest) :
    Reads text (first ++ second) rest := by
  induction reads with
  | nothing => exact readsOn
  | token front _ induction => exact .token front (induction readsOn)

/-- A text has only one list of tokens up to its end. -/
theorem unique {text : List Char} {first second : List Token} (reads : Reads text first [])
    (readsToo : Reads text second []) : first = second := by
  generalize atEnd : ([] : List Char) = rest at reads
  induction reads generalizing second with
  | nothing =>
      subst atEnd
      cases readsToo with
      | nothing => rfl
      | token front _ => cases front
  | token front _ induction =>
      cases readsToo with
      | nothing => cases front
      | token frontToo readsOn =>
          rw [front] at frontToo
          rcases Token.Front.token.inj frontToo with ⟨rfl, rfl⟩
          rw [induction readsOn atEnd]

end Reads

/-! ## Strings and numbers -/

namespace Token

theorem spellsCharacter_escape (character : Char) :
    SpellsCharacter character (escape character) := by
  rw [escape]
  split
  · next quote =>
      subst quote
      exact .letter rfl
  · next notQuote =>
      split
      · next backslash =>
          subst backslash
          exact .letter rfl
      · next notBackslash =>
          iterate 5
            split
            · next letter =>
                subst letter
                exact .letter rfl
          split
          · next control =>
              have all : ∀ number < 0x20, Hexadecimal.value? ['0', '0',
                  Hexadecimal.digit (number / 16), Hexadecimal.digit (number % 16)] =
                    some number ∧ isLowSurrogate number = false ∧
                      isHighSurrogate number = false := by decide
              rcases all _ control with ⟨isUnit, notLow, notHigh⟩
              have spells := SpellsCharacter.unit isUnit notLow notHigh
              rwa [Char.ofNat_toNat] at spells
          · next notControl => exact .plain notQuote notBackslash notControl

theorem spellsCharacters_flatMap_escape (characters : List Char) :
    SpellsCharacters characters (characters.flatMap escape) := by
  induction characters with
  | nil => exact .nil
  | cons first later induction =>
      rw [List.flatMap_cons]
      exact .cons (spellsCharacter_escape first) induction

theorem spells_quote (text : String) : Spells (.string text) (quote text) :=
  ⟨_, spellsCharacters_flatMap_escape text.toList, rfl⟩

/-- Zero is a single digit, and no other number starts with one. -/
theorem isProper_digits (isNegative : Bool) (number : Nat) :
    NumberLiteral.IsProper ⟨isNegative, Decimal.digits number, [], none⟩ where
  whole_ne_nil := Decimal.digits_ne_nil number
  whole_isDigit _ := Decimal.isDigit_of_mem_digits
  whole_leading leading := by
    rw [(Decimal.head?_digits_eq_zero_iff number).mp leading]
    simp [Decimal.digits, Decimal.digitCharacter]
  fraction_isDigit := by simp
  exponent_ne_nil := by simp
  exponent_isDigit := by simp

theorem isProper_literal (number : Int) : (literal number).IsProper := by
  cases number <;> exact isProper_digits _ _

theorem spells_writeInteger (number : Int) :
    Spells (.number (literal number)) (writeInteger number) := by
  refine ⟨isProper_literal number, ?_⟩
  cases number with
  | ofNat number => exact ⟨_, ⟨[], rfl, rfl⟩, (List.append_nil _).symm⟩
  | negSucc number => exact ⟨_, ⟨[], rfl, rfl⟩, congrArg ('-' :: ·) (List.append_nil _).symm⟩

theorem front_quote (text : String) (rest : List Char) :
    front (quote text ++ rest) = .token (.string text) rest :=
  front_of_spells (List.forall_mem_nil _) (spells_quote text) (by rintro _ ⟨⟩)

theorem front_writeInteger (number : Int) {rest : List Char} (ends : EndsNumber rest) :
    front (writeInteger number ++ rest) = .token (.number (literal number)) rest :=
  front_of_spells (List.forall_mem_nil _) (spells_writeInteger number) fun _ _ => ends

end Token

/-! ## Values -/

theorem Token.EndsNumber.nil : Token.EndsNumber [] := by
  rintro _ ⟨⟩

theorem Token.EndsNumber.cons {first : Char} (ends : first = ',' ∨ first = ']' ∨ first = '}')
    (rest : List Char) : Token.EndsNumber (first :: rest) := by
  intro character member
  rcases Option.some_inj.mp member with rfl
  rcases ends with rfl | rfl | rfl <;> decide

theorem endsNumber_compactItems (items : List Json) {rest : List Char}
    (ends : Token.EndsNumber rest) : Token.EndsNumber (compactItems items ++ rest) := by
  cases items with
  | nil => rwa [compactItems, List.nil_append]
  | cons item items => exact Token.EndsNumber.cons (Or.inl rfl) _

theorem endsNumber_compactMembers (members : List (String × Json)) {rest : List Char}
    (ends : Token.EndsNumber rest) : Token.EndsNumber (compactMembers members ++ rest) := by
  cases members with
  | nil => rwa [compactMembers, List.nil_append]
  | cons member members => exact Token.EndsNumber.cons (Or.inl rfl) _

mutual
/-- The tokens of a value are read from its compact text. -/
theorem reads_compact (value : Json) {rest : List Char} (ends : Token.EndsNumber rest) :
    Reads (value.compactCharacters ++ rest) value.tokens rest := by
  match value with
  | .null => exact .single rfl
  | .bool true => exact .single rfl
  | .bool false => exact .single rfl
  | .integer number => exact .single (Token.front_writeInteger number ends)
  | .string text => exact .single (Token.front_quote text rest)
  | .array [] => exact .token rfl (.single rfl)
  | .array (item :: items) =>
      have closes := Token.EndsNumber.cons (Or.inr (Or.inl rfl)) rest
      have readsItem := reads_compact item (endsNumber_compactItems items closes)
      have readsItems := reads_compactItems items closes
      rw [compactCharacters, tokens]
      simp only [List.cons_append, List.append_assoc, List.nil_append]
      exact .token rfl (readsItem.append (readsItems.append (.single rfl)))
  | .object [] => exact .token rfl (.single rfl)
  | .object ((name, value) :: members) =>
      have closes := Token.EndsNumber.cons (Or.inr (Or.inr rfl)) rest
      have readsValue := reads_compact value (endsNumber_compactMembers members closes)
      have readsMembers := reads_compactMembers members closes
      rw [compactCharacters, tokens]
      simp only [List.cons_append, List.append_assoc, List.nil_append]
      exact .token rfl (.token (Token.front_quote name _)
        (.token rfl (readsValue.append (readsMembers.append (.single rfl)))))

theorem reads_compactItems (items : List Json) {rest : List Char}
    (ends : Token.EndsNumber rest) :
    Reads (compactItems items ++ rest) (itemTokens items) rest := by
  match items with
  | [] => exact .nothing rest
  | item :: items =>
      have readsItem := reads_compact item (endsNumber_compactItems items ends)
      rw [compactItems, itemTokens, List.cons_append, List.append_assoc]
      exact .token rfl (readsItem.append (reads_compactItems items ends))

theorem reads_compactMembers (members : List (String × Json)) {rest : List Char}
    (ends : Token.EndsNumber rest) :
    Reads (compactMembers members ++ rest) (memberTokens members) rest := by
  match members with
  | [] => exact .nothing rest
  | (name, value) :: members =>
      have readsValue := reads_compact value (endsNumber_compactMembers members ends)
      rw [compactMembers, memberTokens]
      simp only [List.cons_append, List.append_assoc]
      exact .token rfl (.token (Token.front_quote name _)
        (.token rfl (readsValue.append (reads_compactMembers members ends))))
end

/-! ## Texts determine values -/

theorem literal_injective {left right : Int} (same : literal left = literal right) :
    left = right := by
  cases left <;> cases right <;> simp only [literal, NumberLiteral.mk.injEq] at same
  · exact congrArg Int.ofNat (Decimal.digits_injective same.2.1)
  · cases same.1
  · cases same.1
  · exact congrArg Int.negSucc (Nat.succ.inj (Decimal.digits_injective same.2.1))

def firstToken : Json → Token
  | .null => .null
  | .bool value => .bool value
  | .integer value => .number (literal value)
  | .string text => .string text
  | .array _ => .openArray
  | .object _ => .openObject

theorem head?_tokens (value : Json) : value.tokens.head? = some value.firstToken := by
  match value with
  | .null | .bool _ | .integer _ | .string _ => rfl
  | .array [] | .array (_ :: _) | .object [] | .object ((_, _) :: _) => rfl

theorem firstToken_eq {left right : Json} {leftRest rightRest : List Token}
    (same : left.tokens ++ leftRest = right.tokens ++ rightRest) :
    left.firstToken = right.firstToken := by
  have sameHead := congrArg List.head? same
  simpa [List.head?_append, head?_tokens] using sameHead

/-- No value starts as an array closes. -/
theorem tokens_append_ne_closeArray (value : Json) (rest later : List Token) :
    value.tokens ++ rest ≠ .closeArray :: later := by
  intro same
  have sameHead := congrArg List.head? same
  rw [List.head?_append, head?_tokens] at sameHead
  cases value <;> cases sameHead

mutual
/-- Tokens of a value end where the value ends, whatever follows. -/
theorem tokens_append_inj (left right : Json) {leftRest rightRest : List Token}
    (same : left.tokens ++ leftRest = right.tokens ++ rightRest) :
    left = right ∧ leftRest = rightRest := by
  match left, right, firstToken_eq same with
  | .null, .null, _ => exact ⟨rfl, List.append_cancel_left same⟩
  | .bool _, .bool _, rfl => exact ⟨rfl, List.append_cancel_left same⟩
  | .string _, .string _, rfl => exact ⟨rfl, List.append_cancel_left same⟩
  | .integer left, .integer right, sameFirst =>
      rcases literal_injective (Token.number.inj sameFirst) with rfl
      exact ⟨rfl, List.append_cancel_left same⟩
  | .array [], .array [], _ => exact ⟨rfl, List.append_cancel_left same⟩
  | .array [], .array (right :: _), _ =>
      simp only [tokens, List.cons_append, List.append_assoc, List.cons.injEq, true_and] at same
      exact absurd same.symm (tokens_append_ne_closeArray right _ _)
  | .array (left :: _), .array [], _ =>
      simp only [tokens, List.cons_append, List.append_assoc, List.cons.injEq, true_and] at same
      exact absurd same (tokens_append_ne_closeArray left _ _)
  | .array (left :: lefts), .array (right :: rights), _ =>
      simp only [tokens, List.cons_append, List.append_assoc, List.nil_append,
        List.cons.injEq, true_and] at same
      rcases tokens_append_inj left right same with ⟨rfl, sameLater⟩
      rcases itemTokens_append_inj lefts rights sameLater with ⟨rfl, rfl⟩
      exact ⟨rfl, rfl⟩
  | .object [], .object [], _ => exact ⟨rfl, List.append_cancel_left same⟩
  | .object [], .object ((_, _) :: _), _ => simp [tokens] at same
  | .object ((_, _) :: _), .object [], _ => simp [tokens] at same
  | .object ((leftName, left) :: lefts), .object ((rightName, right) :: rights), _ =>
      simp only [tokens, List.cons_append, List.append_assoc, List.nil_append,
        List.cons.injEq, Token.string.injEq, true_and] at same
      rcases same with ⟨rfl, sameValue⟩
      rcases tokens_append_inj left right sameValue with ⟨rfl, sameLater⟩
      rcases memberTokens_append_inj lefts rights sameLater with ⟨rfl, rfl⟩
      exact ⟨rfl, rfl⟩

theorem itemTokens_append_inj (lefts rights : List Json) {leftRest rightRest : List Token}
    (same : itemTokens lefts ++ .closeArray :: leftRest =
      itemTokens rights ++ .closeArray :: rightRest) :
    lefts = rights ∧ leftRest = rightRest := by
  match lefts, rights with
  | [], [] => simpa [itemTokens] using same
  | [], _ :: _ => simp [itemTokens] at same
  | _ :: _, [] => simp [itemTokens] at same
  | left :: lefts, right :: rights =>
      simp only [itemTokens, List.cons_append, List.append_assoc, List.cons.injEq,
        true_and] at same
      rcases tokens_append_inj left right same with ⟨rfl, sameLater⟩
      rcases itemTokens_append_inj lefts rights sameLater with ⟨rfl, sameRest⟩
      exact ⟨rfl, sameRest⟩

theorem memberTokens_append_inj (lefts rights : List (String × Json))
    {leftRest rightRest : List Token}
    (same : memberTokens lefts ++ .closeObject :: leftRest =
      memberTokens rights ++ .closeObject :: rightRest) :
    lefts = rights ∧ leftRest = rightRest := by
  match lefts, rights with
  | [], [] => simpa [memberTokens] using same
  | [], (_, _) :: _ => simp [memberTokens] at same
  | (_, _) :: _, [] => simp [memberTokens] at same
  | (leftName, left) :: lefts, (rightName, right) :: rights =>
      simp only [memberTokens, List.cons_append, List.append_assoc, List.cons.injEq,
        Token.string.injEq, true_and] at same
      rcases same with ⟨rfl, sameValue⟩
      rcases tokens_append_inj left right sameValue with ⟨rfl, sameLater⟩
      rcases memberTokens_append_inj lefts rights sameLater with ⟨rfl, sameRest⟩
      exact ⟨rfl, sameRest⟩
end

/-- Values with the same compact text are the same. -/
theorem compact_injective {left right : Json} (same : left.compact = right.compact) :
    left = right := by
  have sameText : left.compactCharacters = right.compactCharacters :=
    String.ofList_injective same
  have readsLeft := reads_compact left Token.EndsNumber.nil
  have readsRight := reads_compact right Token.EndsNumber.nil
  rw [← sameText] at readsRight
  have sameTokens := readsLeft.unique readsRight
  exact (tokens_append_inj left right (congrArg (· ++ []) sameTokens)).1

end AlgorithmPolicy.Json

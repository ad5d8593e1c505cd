import AlgorithmPolicy.Json.Reader
import AlgorithmPolicy.Proofs.Except
import AlgorithmPolicy.Proofs.Json.Value

/-! A text is read to its end without a fault if it spells a JSON value, and then what is read
of it is the draft of that value. -/

namespace AlgorithmPolicy.Json

/-! ## Taking tokens -/

namespace State

open Value

/-- How many arrays and objects may be nested in each other inside frames. -/
def room (frames : List Frame) : Nat :=
  depthLimit - frames.length

theorem room_cons (frame : Frame) (frames : List Frame) :
    room (frame :: frames) = room frames - 1 :=
  Nat.sub_succ _ _

theorem close_eq (frames : List Frame) (draft : Draft) :
    close frames draft = ⟨.next (enclosed (room frames) draft), frames⟩ := by
  have isDeep : frames[depthLimit - 1]?.isSome = true ↔ room frames = 0 := by
    simp only [isSome_getElem?, room, depthLimit]
    omega
  rw [close]
  split
  · next deep => rw [isDeep.mp deep, enclosed]
  · next notDeep =>
      cases here : room frames with
      | zero => exact absurd (isDeep.mpr here) notDeep
      | succ room => rw [enclosed]

/-! ### What was taken

After some tokens, the open arrays and objects hold the drafts of the values that the tokens
have completed, and what is due goes on from there. -/

inductive OpenAfter : List Token → List Frame → Prop
  | nil : OpenAfter [] []
  | array {taken : List Token} {frames : List Frame} (items : List Value) :
      OpenAfter taken frames →
        OpenAfter (taken ++ .openArray :: itemsBefore items)
          (.array (itemDrafts (room frames - 1) items).reverse :: frames)
  | object {taken : List Token} {frames : List Frame} (members : List (MemberName × Value))
      (name : MemberName) : OpenAfter taken frames →
        OpenAfter
          (taken ++ .openObject :: (membersBefore members ++ [stringToken name, .colon]))
          (.object (memberDrafts (room frames - 1) members).reverse name :: frames)

inductive After : List Token → State → Prop
  | value {taken : List Token} {frames : List Frame} : OpenAfter taken frames →
      After taken ⟨.value, frames⟩
  | itemOrClose {taken : List Token} {frames : List Frame} : OpenAfter taken frames →
      After (taken ++ [.openArray]) ⟨.itemOrClose, .array [] :: frames⟩
  | nameOrClose {taken : List Token} {frames : List Frame} : OpenAfter taken frames →
      After (taken ++ [.openObject]) ⟨.nameOrClose, frames⟩
  | name {taken : List Token} {frames : List Frame} (members : List (MemberName × Value)) :
      OpenAfter taken frames →
        After (taken ++ .openObject :: membersBefore members)
          ⟨.name (memberDrafts (room frames - 1) members).reverse, frames⟩
  | colon {taken : List Token} {frames : List Frame} (members : List (MemberName × Value))
      (name : MemberName) : OpenAfter taken frames →
        After (taken ++ .openObject :: (membersBefore members ++ [stringToken name]))
          ⟨.colon (memberDrafts (room frames - 1) members).reverse name, frames⟩
  | next {taken : List Token} {frames : List Frame} (value : Value) : OpenAfter taken frames →
      After (taken ++ value.tokens) ⟨.next (value.draft (room frames)), frames⟩

/-- A complete array or object is what its tokens say. -/
theorem After.close {taken : List Token} {frames : List Frame} {draft : Draft} (value : Value)
    (isDraft : value.draft (room frames) = enclosed (room frames) draft)
    (isOpen : OpenAfter taken frames) :
    After (taken ++ value.tokens) (State.close frames draft) := by
  rw [close_eq, ← isDraft]
  exact .next value isOpen

theorem After.takeValue {taken : List Token} {frames : List Frame} {token : Token}
    {state : State} (proper : ∀ literal, token = .number literal → literal.IsProper)
    (isOpen : OpenAfter taken frames) (takes : State.takeValue frames token = .inl state) :
    After (taken ++ [token]) state := by
  cases token with
  | null =>
      rcases Sum.inl.inj takes with rfl
      exact .next .null isOpen
  | bool value =>
      rcases Sum.inl.inj takes with rfl
      exact .next (.bool value) isOpen
  | number literal =>
      rcases Sum.inl.inj takes with rfl
      exact .next (.number literal (proper literal rfl)) isOpen
  | string text =>
      rcases Sum.inl.inj takes with rfl
      exact .next (.string (some text)) isOpen
  | halfPair =>
      rcases Sum.inl.inj takes with rfl
      exact .next (.string none) isOpen
  | openArray =>
      rcases Sum.inl.inj takes with rfl
      exact .itemOrClose isOpen
  | openObject =>
      rcases Sum.inl.inj takes with rfl
      exact .nameOrClose isOpen
  | closeArray | closeObject | comma | colon => cases takes

theorem After.takeName {taken : List Token} {frames : List Frame} {token : Token}
    {state : State} (members : List (MemberName × Value)) (isOpen : OpenAfter taken frames)
    (takes : State.takeName frames (memberDrafts (room frames - 1) members).reverse token =
      .inl state) :
    After (taken ++ .openObject :: (membersBefore members ++ [token])) state := by
  cases token with
  | string name =>
      rcases Sum.inl.inj takes with rfl
      exact .colon members (some name) isOpen
  | halfPair =>
      rcases Sum.inl.inj takes with rfl
      exact .colon members none isOpen
  | _ => cases takes

theorem take_itemOrClose {token : Token} (goesOn : token ≠ .closeArray) (frames : List Frame) :
    take ⟨.itemOrClose, frames⟩ token = takeValue frames token := by
  rw [take]
  exact fun _ closes _ => goesOn closes

theorem take_nameOrClose {token : Token} (goesOn : token ≠ .closeObject) (frames : List Frame) :
    take ⟨.nameOrClose, frames⟩ token = takeName frames [] token := by
  rw [take]
  exact goesOn

/-- What is due takes one more token along with what it says. -/
theorem After.take {taken : List Token} {state next : State} {token : Token}
    (proper : ∀ literal, token = .number literal → literal.IsProper)
    (after : After taken state) (takes : state.take token = .inl next) :
    After (taken ++ [token]) next := by
  cases after with
  | value isOpen => exact .takeValue proper isOpen takes
  | itemOrClose isOpen =>
      by_cases closes : token = .closeArray
      · subst closes
        rcases Sum.inl.inj takes with rfl
        rw [List.append_assoc]
        exact .close (.array []) rfl isOpen
      · rw [take_itemOrClose closes] at takes
        exact .takeValue proper (.array [] isOpen) takes
  | nameOrClose isOpen =>
      rw [List.append_assoc]
      by_cases closes : token = .closeObject
      · subst closes
        rcases Sum.inl.inj takes with rfl
        exact .close (.object []) rfl isOpen
      · rw [take_nameOrClose closes] at takes
        exact .takeName [] isOpen takes
  | name members isOpen =>
      rw [List.append_assoc]
      exact .takeName members isOpen takes
  | colon members name isOpen =>
      cases token with
      | colon =>
          rcases Sum.inl.inj takes with rfl
          have isOpenObject := OpenAfter.object members name isOpen
          simp only [List.append_assoc, List.cons_append, List.nil_append] at isOpenObject ⊢
          exact .value isOpenObject
      | _ => cases takes
  | next value isOpen =>
      cases isOpen with
      | nil => cases takes
      | @array taken frames items isOpen =>
          rw [room_cons] at takes
          cases token with
          | comma =>
              rcases Sum.inl.inj takes with rfl
              have goesOn := OpenAfter.array (items ++ [value]) isOpen
              rw [itemDrafts_concat, List.reverse_concat, itemsBefore_concat] at goesOn
              simpa only [List.append_assoc, List.cons_append] using After.value goesOn
          | closeArray =>
              rcases Sum.inl.inj takes with rfl
              have closes := After.close (.array (items ++ [value])) rfl isOpen
              rw [itemDrafts_concat, tokens_array_concat] at closes
              simpa [Frame.withValue] using closes
          | _ => cases takes
      | @object taken frames members name isOpen =>
          rw [room_cons] at takes
          cases token with
          | comma =>
              rcases Sum.inl.inj takes with rfl
              have goesOn := After.name (members ++ [(name, value)]) isOpen
              rw [memberDrafts_concat, List.reverse_concat, membersBefore_concat] at goesOn
              simpa only [List.append_assoc, List.cons_append, List.nil_append] using goesOn
          | closeObject =>
              rcases Sum.inl.inj takes with rfl
              have closes := After.close (.object (members ++ [(name, value)])) rfl isOpen
              rw [memberDrafts_concat, tokens_object_concat] at closes
              simpa [Frame.withValue] using closes
          | _ => cases takes

/-! ### The end of a text -/

theorem endsHere_of_takeValue {frames : List Frame} {token : Token} {document : Document}
    (takes : takeValue frames token = .inr document) : document.endsHere = false := by
  cases token with
  | closeArray | closeObject | comma | colon =>
      rcases Sum.inr.inj takes with rfl
      rfl
  | _ => cases takes

theorem endsHere_of_takeName {frames : List Frame} {reversed : List (MemberName × Draft)}
    {token : Token} {document : Document} (takes : takeName frames reversed token = .inr document) :
    document.endsHere = false := by
  cases token with
  | string | halfPair => cases takes
  | _ =>
      rcases Sum.inr.inj takes with rfl
      rfl

/-- A token that does not fit is a fault. -/
theorem endsHere_of_take {state : State} {token : Token} {document : Document}
    (takes : state.take token = .inr document) : document.endsHere = false := by
  revert takes
  fun_cases take state token with
  | case1 | case3 => exact endsHere_of_takeValue
  | case5 | case6 => exact endsHere_of_takeName
  | case8 | case9 | case14 =>
      rintro ⟨⟩
      rfl
  | case2 | case4 | case7 | case10 | case11 | case12 | case13 => exact nofun

/-- Only where nothing is open and a value is complete can a text end without a fault. -/
theorem stop_eq_iff {state : State} {isEnd : Bool} {draft : Draft} :
    state.stop isEnd = ⟨draft, true⟩ ↔ isEnd = true ∧ state = ⟨.next draft, []⟩ := by
  fun_cases stop state isEnd <;> simp [breakOff, and_comm]

/-- What is read of a text without a fault is the draft of a value that the text spells. -/
theorem spells_of_run {taken : List Token} {state : State} {text : List Char} {draft : Draft}
    (after : After taken state) (read : state.run text = ⟨draft, true⟩) :
    ∃ value tokens, taken ++ tokens = Value.tokens value ∧ SpellsTokens tokens text ∧
      draft = value.draft depthLimit := by
  fun_induction run state text generalizing taken with
  | case1 state text token rest front next takes induction =>
      rcases Token.spells_of_front front with ⟨blanks, core, areBlank, spells, rfl⟩
      have proper : ∀ literal, token = .number literal → literal.IsProper := by
        rintro literal rfl
        exact spells.1
      rcases induction (after.take proper takes) read with
        ⟨value, tokens, isTokens, spellsRest, isDraft⟩
      rw [List.append_assoc] at isTokens
      exact ⟨value, token :: tokens, isTokens, .cons areBlank spells spellsRest, isDraft⟩
  | case2 state text token rest front document takes =>
      subst read
      cases endsHere_of_take takes
  | case3 state text front => cases (stop_eq_iff.mp read).1
  | case4 state text front =>
      rcases (stop_eq_iff.mp read).2 with rfl
      cases after with
      | next value isOpen =>
          cases isOpen with
          | nil =>
              have areBlank := Token.front_eq_nothing_iff.mp front
              exact ⟨value, [], List.append_nil _, .nil areBlank, rfl⟩

/-! ### Taking a whole value -/

/-- Tokens lead from one state to another. -/
inductive Leads : State → List Token → State → Prop
  | nil (state : State) : Leads state [] state
  | cons {state next last : State} {token : Token} {tokens : List Token} :
      state.take token = .inl next → Leads next tokens last → Leads state (token :: tokens) last

theorem Leads.append {first middle last : State} {tokens later : List Token}
    (leads : Leads first tokens middle) (leadsOn : Leads middle later last) :
    Leads first (tokens ++ later) last := by
  induction leads with
  | nil => exact leadsOn
  | cons takes _ induction => exact .cons takes (induction leadsOn)

theorem takeName_stringToken (frames : List Frame) (reversed : List (MemberName × Draft))
    (name : MemberName) :
    takeName frames reversed (stringToken name) = .inl ⟨.colon reversed name, frames⟩ := by
  cases name <;> rfl

theorem stringToken_ne_closeObject (name : MemberName) : stringToken name ≠ .closeObject := by
  cases name <;> exact nofun

/-- No value starts as an array closes. -/
theorem exists_tokens_eq_cons (value : Value) :
    ∃ first later, value.tokens = first :: later ∧ first ≠ .closeArray := by
  match value with
  | .null | .bool _ | .number _ _ => exact ⟨_, _, rfl, nofun⟩
  | .string text => cases text <;> exact ⟨_, _, rfl, nofun⟩
  | .array [] | .array (_ :: _) | .object [] | .object ((_, _) :: _) => exact ⟨_, _, rfl, nofun⟩

/-- So the first item of an array is due like any value. -/
theorem Leads.firstItem {frames : List Frame} {last : State} {value : Value}
    (leads : Leads ⟨.value, frames⟩ value.tokens last) :
    Leads ⟨.itemOrClose, frames⟩ value.tokens last := by
  rcases exists_tokens_eq_cons value with ⟨first, later, isTokens, goesOn⟩
  rw [isTokens] at leads ⊢
  cases leads with
  | cons takes leadsLater => exact .cons ((take_itemOrClose goesOn frames).trans takes) leadsLater

theorem Leads.close {frames inside : List Frame} {due : Due} {token : Token} {draft : Draft}
    (takes : take ⟨due, inside⟩ token = .inl (State.close frames draft)) :
    Leads ⟨due, inside⟩ [token] ⟨.next (enclosed (room frames) draft), frames⟩ := by
  rw [close_eq] at takes
  exact .cons takes (.nil _)

mutual
theorem leads_tokens (value : Value) (frames : List Frame) :
    Leads ⟨.value, frames⟩ value.tokens ⟨.next (value.draft (room frames)), frames⟩ := by
  match value with
  | .null | .bool _ | .number _ _ => exact .cons rfl (.nil _)
  | .string text => cases text <;> exact .cons rfl (.nil _)
  | .array [] => exact .cons rfl (.close rfl)
  | .array (item :: items) =>
      have leadsItem := (leads_tokens item (.array [] :: frames)).firstItem
      rw [room_cons] at leadsItem
      exact .cons rfl (leadsItem.append (leads_itemTokens items frames _ []))
  | .object [] => exact .cons rfl (.close rfl)
  | .object ((name, value) :: members) =>
      have leadsValue := leads_tokens value (.object [] name :: frames)
      rw [room_cons] at leadsValue
      have takesName : take ⟨.nameOrClose, frames⟩ (stringToken name) =
          .inl ⟨.colon [] name, frames⟩ := by
        rw [take_nameOrClose (stringToken_ne_closeObject name), takeName_stringToken]
      exact .cons rfl (.cons takesName (.cons rfl
        (leadsValue.append (leads_memberTokens members frames _ [] name))))

theorem leads_itemTokens (items : List Value) (frames : List Frame) (before : Draft)
    (reversed : List Draft) :
    Leads ⟨.next before, .array reversed :: frames⟩ (Value.itemTokens items ++ [.closeArray])
      ⟨.next (enclosed (room frames)
        (.array (reversed.reverse ++ before :: itemDrafts (room frames - 1) items))), frames⟩ := by
  match items with
  | [] =>
      rw [itemDrafts, ← List.reverse_cons]
      exact .close rfl
  | item :: items =>
      have leadsItem := leads_tokens item (.array (before :: reversed) :: frames)
      have leadsItems := leads_itemTokens items frames (item.draft (room frames - 1))
        (before :: reversed)
      rw [room_cons] at leadsItem
      rw [List.reverse_cons, List.append_assoc] at leadsItems
      rw [Value.itemTokens, List.cons_append, List.append_assoc]
      exact .cons rfl (leadsItem.append leadsItems)

theorem leads_memberTokens (members : List (MemberName × Value)) (frames : List Frame)
    (before : Draft) (reversed : List (MemberName × Draft)) (name : MemberName) :
    Leads ⟨.next before, .object reversed name :: frames⟩
      (Value.memberTokens members ++ [.closeObject])
      ⟨.next (enclosed (room frames) (.object
        (reversed.reverse ++ (name, before) :: memberDrafts (room frames - 1) members) true)),
          frames⟩ := by
  match members with
  | [] =>
      rw [memberDrafts, ← List.reverse_cons]
      exact .close rfl
  | (laterName, value) :: members =>
      have leadsValue :=
        leads_tokens value (.object ((name, before) :: reversed) laterName :: frames)
      have leadsMembers := leads_memberTokens members frames (value.draft (room frames - 1))
        ((name, before) :: reversed) laterName
      rw [room_cons] at leadsValue
      rw [List.reverse_cons, List.append_assoc] at leadsMembers
      rw [Value.memberTokens]
      simp only [List.cons_append, List.append_assoc]
      exact .cons rfl (.cons (takeName_stringToken frames _ laterName)
        (.cons rfl (leadsValue.append leadsMembers)))
end

theorem take_next_number (draft : Draft) (frames : List Frame) (literal : NumberLiteral) :
    ∃ document, take ⟨.next draft, frames⟩ (.number literal) = .inr document := by
  match frames with
  | [] | .array _ :: _ | .object _ _ :: _ => exact ⟨_, rfl⟩

theorem eq_next_of_takes_number {state next : State} {literal : NumberLiteral}
    (takes : state.take (.number literal) = .inl next) :
    ∃ draft frames, next = ⟨.next draft, frames⟩ := by
  rcases state with ⟨due, frames⟩
  cases due with
  | value =>
      rcases Sum.inl.inj takes with rfl
      exact ⟨_, _, rfl⟩
  | itemOrClose =>
      have goesOn : Token.number literal ≠ .closeArray := nofun
      rw [take_itemOrClose goesOn] at takes
      rcases Sum.inl.inj takes with rfl
      exact ⟨_, _, rfl⟩
  | nameOrClose =>
      have goesOn : Token.number literal ≠ .closeObject := nofun
      rw [take_nameOrClose goesOn] at takes
      cases takes
  | name | colon => cases takes
  | next draft =>
      rcases take_next_number draft frames literal with ⟨document, isFault⟩
      rw [isFault] at takes
      cases takes

/-- No number is due after a number. -/
theorem Leads.head?_ne_number {state next last : State} {literal : NumberLiteral}
    {tokens : List Token} (leads : Leads next tokens last)
    (takes : state.take (.number literal) = .inl next) (other : NumberLiteral) :
    tokens.head? ≠ some (.number other) := by
  rcases eq_next_of_takes_number takes with ⟨draft, frames, rfl⟩
  cases leads with
  | nil => exact nofun
  | cons takesOther _ =>
      intro isNumber
      rcases Option.some_inj.mp isNumber with rfl
      rcases take_next_number draft frames other with ⟨document, isFault⟩
      rw [isFault] at takesOther
      cases takesOther

theorem run_of_front {state next : State} {text rest : List Char} {token : Token}
    (found : Token.front text = .token token rest) (takes : state.take token = .inl next) :
    state.run text = next.run rest := by
  rw [run]
  split
  · next foundToo =>
      rw [found] at foundToo
      rcases Token.Front.token.inj foundToo with ⟨rfl, rfl⟩
      rw [takes]
  · next foundToo =>
      rw [found] at foundToo
      cases foundToo
  · next foundToo =>
      rw [found] at foundToo
      cases foundToo

/-- A text of tokens that lead to an end is read as what they lead to. -/
theorem run_of_leads {state last : State} {tokens : List Token} {text : List Char}
    (leads : Leads state tokens last) (spells : SpellsTokens tokens text) :
    state.run text = last.stop true := by
  induction leads generalizing text with
  | nil state =>
      cases spells with
      | nil areBlank =>
          have found := Token.front_eq_nothing_iff.mpr areBlank
          rw [run]
          split <;> simp_all
  | @cons state next last token tokens takes leadsOn induction =>
      cases spells with
      | @cons _ _ blanks core rest areBlank spellsToken spellsRest =>
          have ends : ∀ literal, token = .number literal → Token.EndsNumber rest := by
            rintro literal rfl
            exact spellsRest.endsNumber (leadsOn.head?_ne_number takes)
          rw [run_of_front (Token.front_of_spells areBlank spellsToken ends) takes]
          exact induction spellsRest

end State

/-- A text is read without a fault if it spells a value, and as the draft of that value. -/
theorem Document.read_eq_iff {text : String} {draft : Draft} :
    Document.read text = ⟨draft, true⟩ ↔
      ∃ value : Value, value.IsSpelledBy text ∧ draft = value.draft State.depthLimit := by
  rw [Document.read]
  constructor
  · intro read
    rcases State.spells_of_run (.value .nil) read with ⟨value, tokens, isTokens, spells, isDraft⟩
    rw [List.nil_append] at isTokens
    rw [isTokens] at spells
    exact ⟨value, spells, isDraft⟩
  · rintro ⟨value, spells, rfl⟩
    exact State.run_of_leads (State.leads_tokens value []) spells

/-- A reader takes of a text what it takes of the value that the text spells. -/
theorem Reader.ofText_of_isSpelledBy {α : Type} {read : Reader α} {value : Value} {text : String}
    (spells : value.IsSpelledBy text) {result : α} :
    Reader.ofText read text = .ok result ↔ read (value.draft State.depthLimit) = .ok result := by
  rw [ofText, Document.read_eq_iff.mpr ⟨value, spells, rfl⟩]
  simp [Except.bind_eq_ok_iff]

theorem Reader.ofText_eq_ok_iff {α : Type} {read : Reader α} {text : String} {result : α} :
    Reader.ofText read text = .ok result ↔
      ∃ value : Value, value.IsSpelledBy text ∧
        read (value.draft State.depthLimit) = .ok result := by
  constructor
  · intro reads
    rcases Except.bind_eq_ok_iff.mp reads with ⟨taken, -, ends⟩
    split at ends
    · next endsHere =>
        rcases Document.read_eq_iff.mp (congrArg (Document.mk _) endsHere) with ⟨value, spells, -⟩
        exact ⟨value, spells, (ofText_of_isSpelledBy spells).mp reads⟩
    · cases ends
  · rintro ⟨value, spells, reads⟩
    exact (ofText_of_isSpelledBy spells).mpr reads

end AlgorithmPolicy.Json

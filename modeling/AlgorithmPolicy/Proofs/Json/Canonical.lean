import AlgorithmPolicy.Proofs.Json.Tokens

/-! Canonical texts determine values, as long as it is known which members objects have. -/

namespace AlgorithmPolicy.Json

/-! ## Sorting

Where a member goes depends on names alone, so members can be told from their sorted list
once their names are known. -/

def names (members : List (String × Json)) : List String :=
  members.map (·.1)

theorem names_insertMember {left right : String × Json} {lefts rights : List (String × Json)}
    (sameName : left.1 = right.1) (sameNames : names lefts = names rights) :
    names (insertMember left lefts) = names (insertMember right rights) := by
  induction lefts generalizing rights with
  | nil =>
      rcases List.map_eq_nil_iff.mp sameNames.symm with rfl
      simp [insertMember, names, sameName]
  | cons head tail induction =>
      cases rights with
      | nil => cases sameNames
      | cons otherHead otherTail =>
          rcases List.cons.inj sameNames with ⟨sameHead, sameTail⟩
          have later := induction sameTail
          simp only [insertMember, sameName, sameHead]
          split <;> simp_all [names]

theorem names_sortMembers {lefts rights : List (String × Json)}
    (sameNames : names lefts = names rights) :
    names (sortMembers lefts) = names (sortMembers rights) := by
  induction lefts generalizing rights with
  | nil =>
      rcases List.map_eq_nil_iff.mp sameNames.symm with rfl
      rfl
  | cons head tail induction =>
      cases rights with
      | nil => cases sameNames
      | cons otherHead otherTail =>
          rcases List.cons.inj sameNames with ⟨sameHead, sameTail⟩
          exact names_insertMember sameHead (induction sameTail)

theorem insertMember_inj {left right : String × Json} {lefts rights : List (String × Json)}
    (sameName : left.1 = right.1) (sameNames : names lefts = names rights)
    (same : insertMember left lefts = insertMember right rights) :
    left = right ∧ lefts = rights := by
  induction lefts generalizing rights with
  | nil =>
      rcases List.map_eq_nil_iff.mp sameNames.symm with rfl
      exact ⟨List.singleton_inj.mp same, rfl⟩
  | cons head tail induction =>
      cases rights with
      | nil => cases sameNames
      | cons otherHead otherTail =>
          rcases List.cons.inj sameNames with ⟨sameHead, sameTail⟩
          simp only [insertMember, sameName, sameHead] at same
          split at same
          · rcases List.cons.inj same with ⟨rfl, sameLater⟩
            rcases induction sameTail sameLater with ⟨rfl, rfl⟩
            exact ⟨rfl, rfl⟩
          · rcases List.cons.inj same with ⟨rfl, sameLater⟩
            exact ⟨rfl, sameLater⟩

theorem sortMembers_inj {lefts rights : List (String × Json)}
    (sameNames : names lefts = names rights) (same : sortMembers lefts = sortMembers rights) :
    lefts = rights := by
  induction lefts generalizing rights with
  | nil => exact (List.map_eq_nil_iff.mp sameNames.symm).symm
  | cons head tail induction =>
      cases rights with
      | nil => cases sameNames
      | cons otherHead otherTail =>
          rcases List.cons.inj sameNames with ⟨sameHead, sameTail⟩
          rcases insertMember_inj sameHead (names_sortMembers sameTail) same with ⟨rfl, sameLater⟩
          rw [induction sameTail sameLater]

/-! ## Values -/

theorem sortedItems_eq_map (items : List Json) : sortedItems items = items.map sorted := by
  induction items with
  | nil => rfl
  | cons item items induction => rw [sortedItems, induction, List.map_cons]

theorem sortedMembers_eq_map (members : List (String × Json)) :
    sortedMembers members = members.map fun (name, value) => (name, value.sorted) := by
  induction members with
  | nil => rfl
  | cons member members induction =>
      rcases member with ⟨name, value⟩
      rw [sortedMembers, induction, List.map_cons]

theorem canonical_inj {left right : Json} (same : left.canonical = right.canonical) :
    left.sorted = right.sorted :=
  compact_injective same

/-- Objects with the same names are sorted to the same only if their values are. -/
theorem sorted_object_inj {lefts rights : List (String × Json)}
    (same : (object lefts).sorted = (object rights).sorted)
    (sameNames : names lefts = names rights) :
    lefts.map (·.2.sorted) = rights.map (·.2.sorted) := by
  rw [sorted, sorted, object.injEq] at same
  have stillSame : names (sortedMembers lefts) = names (sortedMembers rights) := by
    rw [sortedMembers_eq_map, sortedMembers_eq_map, names, names, List.map_map, List.map_map]
    exact sameNames
  have sameMembers := sortMembers_inj stillSame same
  rw [sortedMembers_eq_map, sortedMembers_eq_map] at sameMembers
  have sameValues := congrArg (List.map Prod.snd) sameMembers
  rw [List.map_map, List.map_map] at sameValues
  exact sameValues

theorem sorted_array_inj {lefts rights : List Json}
    (same : (array lefts).sorted = (array rights).sorted) :
    lefts.map sorted = rights.map sorted := by
  rw [sorted, sorted, array.injEq, sortedItems_eq_map, sortedItems_eq_map] at same
  exact same

end AlgorithmPolicy.Json

import AlgorithmPolicy.Proofs.Acceptability.Views

/-! What the queries of a catalogue answer. Whether an answer reaches a moment depends only on
which ends the records state, and not on which of several equally late ones is kept. -/

namespace AlgorithmPolicy

/-! ## Ranges of sorted rows -/

/-- In a list that is sorted by a test, dropping while the test holds leaves the rest. -/
theorem mem_dropWhile_iff {α : Type} {test : α → Bool} {items : List α}
    (sorted : items.Pairwise fun left right => test right = true → test left = true)
    {item : α} : item ∈ items.dropWhile test ↔ item ∈ items ∧ test item = false := by
  induction items with
  | nil => simp
  | cons head tail induction =>
      rw [List.pairwise_cons] at sorted
      cases tested : test head with
      | true =>
          rw [List.dropWhile_cons_of_pos tested, induction sorted.2, List.mem_cons]
          constructor
          · rintro ⟨member, fails⟩
            exact ⟨Or.inr member, fails⟩
          · rintro ⟨rfl | member, fails⟩
            · rw [tested] at fails
              cases fails
            · exact ⟨member, fails⟩
      | false =>
          rw [List.dropWhile_cons_of_neg (by simp [tested])]
          refine ⟨fun member => ⟨member, ?_⟩, fun both => both.1⟩
          rcases List.mem_cons.mp member with rfl | inTail
          · exact tested
          · by_contra holds
            have := sorted.1 item inTail (by simpa using holds)
            rw [tested] at this
            cases this

theorem mem_takeWhile_iff {α : Type} {test : α → Bool} {items : List α}
    (sorted : items.Pairwise fun left right => test right = true → test left = true)
    {item : α} : item ∈ items.takeWhile test ↔ item ∈ items ∧ test item = true := by
  induction items with
  | nil => simp
  | cons head tail induction =>
      rw [List.pairwise_cons] at sorted
      cases tested : test head with
      | true =>
          rw [List.takeWhile_cons_of_pos tested, List.mem_cons, induction sorted.2, List.mem_cons]
          constructor
          · rintro (rfl | ⟨member, holds⟩)
            · exact ⟨Or.inl rfl, tested⟩
            · exact ⟨Or.inr member, holds⟩
          · rintro ⟨rfl | member, holds⟩
            · exact Or.inl rfl
            · exact Or.inr ⟨member, holds⟩
      | false =>
          rw [List.takeWhile_cons_of_neg (by simp [tested])]
          refine ⟨fun member => (nomatch member), ?_⟩
          rintro ⟨member, holds⟩
          rcases List.mem_cons.mp member with rfl | inTail
          · rw [tested] at holds
            cases holds
          · rw [sorted.1 item inTail holds] at tested
            cases tested

namespace Acceptability

/-- The rows between two identities are those that come neither before the first one nor
after the second one. -/
theorem mem_between_iff {views : Acceptability}
    (ascending : views.keySizes.Pairwise fun left right => compare left.1 right.1 = .lt)
    (lower upper : Identity Signature) (row : Identity Signature × Expiration) :
    row ∈ views.between lower upper ↔
      row ∈ views.keySizes ∧ compare row.1 lower ≠ .lt ∧ compare row.1 upper ≠ .gt := by
  have lowerSorted : views.keySizes.Pairwise fun left right =>
      decide (compare right.1 lower = .lt) = true →
        decide (compare left.1 lower = .lt) = true := by
    refine ascending.imp fun {left right} before => ?_
    simp only [decide_eq_true_eq]
    exact Std.TransCmp.lt_trans before
  have upperSorted : (views.keySizes.dropWhile fun row =>
      decide (compare row.1 lower = .lt)).Pairwise fun left right =>
        decide (compare right.1 upper ≠ .gt) = true →
          decide (compare left.1 upper ≠ .gt) = true := by
    refine (ascending.sublist (List.dropWhile_sublist _)).imp fun {left right} before => ?_
    simp only [decide_eq_true_eq, Ordering.ne_gt_iff_isLE]
    exact Std.TransCmp.isLE_trans (by rw [before]; rfl)
  refine Iff.trans (mem_takeWhile_iff upperSorted) ?_
  rw [mem_dropWhile_iff lowerSorted]
  simp only [decide_eq_true_eq, decide_eq_false_iff_not, and_assoc]

theorem between_eq_filter {views : Acceptability}
    (ascending : views.keySizes.Pairwise fun left right => compare left.1 right.1 = .lt)
    (lower upper : Identity Signature) :
    views.between lower upper =
      views.keySizes.filter fun row => compare row.1 lower ≠ .lt ∧ compare row.1 upper ≠ .gt := by
  have isSublist : (views.between lower upper).Sublist views.keySizes :=
    (List.takeWhile_sublist _).trans (List.dropWhile_sublist _)
  refine ascending_eq_of_mem_iff Prod.fst (ascending.sublist isSublist)
    (ascending.sublist List.filter_sublist) fun row => ?_
  rw [mem_between_iff ascending, List.mem_filter, decide_eq_true_iff]

/-- From the least identity of a signature to that at a key size there are exactly its
identities at key sizes up to that one. -/
theorem compare_withKeySize_iff (identity : Identity Signature) (signature : Signature)
    (keySize : UInt32) :
    compare identity (.withKeySize signature 0) ≠ .lt ∧
        compare identity (.withKeySize signature keySize) ≠ .gt ↔
      ∃ size ≤ keySize, identity = .withKeySize signature size := by
  rcases identity with ⟨algorithm, stated⟩
  rw [Identity.compare_eq, Identity.compare_eq]
  dsimp only [Identity.withKeySize]
  cases placed : compare (Labelled.position algorithm) (Labelled.position signature) with
  | lt =>
      refine iff_of_false (fun within => within.1 rfl) ?_
      rintro ⟨size, -, ⟨⟩⟩
      simp at placed
  | gt =>
      refine iff_of_false (fun within => within.2 rfl) ?_
      rintro ⟨size, -, ⟨⟩⟩
      simp at placed
  | eq =>
      rcases Labelled.position_injective (Nat.compare_eq_eq.mp placed) with rfl
      rw [Ordering.eq_then, Ordering.eq_then]
      cases stated with
      | none => simp [Identity.compareKeySize]
      | some size =>
          have notBelow : compare size 0 ≠ .lt :=
            Ordering.ne_lt_iff_isGE.mpr (Std.isGE_compare.mpr UInt32.zero_le)
          have atMost : compare size keySize ≠ .gt ↔ size ≤ keySize :=
            Ordering.ne_gt_iff_isLE.trans Std.isLE_compare
          simp only [Identity.compareKeySize, ne_eq, atMost, notBelow]
          simp

/-! ## Reached moments -/

variable (registry : Registry) (records : List Catalogue.Record)

theorem mem_digestExpiration?_iff (digest : Digest) (expiration : Expiration) :
    expiration ∈ (ofRecords registry records).digestExpiration? digest ↔
      (digest, expiration) ∈ (ofRecords registry records).digests := by
  rw [digestExpiration?, ofRecords, lookup_toList, Option.mem_def,
    Std.TreeMap.mem_toList_iff_getElem?_eq_some]

theorem exists_mem_digests_and_le_iff (digest : Digest) (bound : WithTop Int) :
    (∃ expiration, (digest, expiration) ∈ (ofRecords registry records).digests ∧
        bound ≤ expiration.moment) ↔
      ∃ expiration ∈ digestEnds records digest, bound ≤ expiration.moment := by
  simp only [mem_digests_iff, Expiration.exists_isLatest_and_le_iff]

/-- A row reaches a moment if a direct end reaches it, or, where there is no direct end, if
the ends of a family and of a digest that make the signature both reach it. -/
theorem exists_mem_keySizes_and_le_iff (signature : Signature) (size : UInt32)
    (bound : WithTop Int) :
    (∃ expiration, (Identity.withKeySize signature size, expiration) ∈
        (ofRecords registry records).keySizes ∧ bound ≤ expiration.moment) ↔
      (∃ expiration ∈ directEndsAt registry records signature size,
        bound ≤ expiration.moment) ∨
      directEndsAt registry records signature size = [] ∧
        ∃ family digest, registry.compose? family digest = some signature ∧
          (∃ expiration ∈ familyEndsAt registry records family size,
            bound ≤ expiration.moment) ∧
          ∃ expiration ∈ digestEnds records digest, bound ≤ expiration.moment := by
  have collects := Collection.collects_ofRecords registry records
  simp only [mem_keySizes_iff, or_and_right, exists_or,
    ← Expiration.exists_isLatest_and_le_iff]
  refine or_congr_right ?_
  constructor
  · rintro ⟨_, ⟨nothing, derivation, decides, rfl⟩, reaches⟩
    rcases decides.holds with ⟨composes, familyLatest, digestLatest⟩
    rw [derivation.moment_expiration, le_min_iff] at reaches
    exact ⟨nothing, derivation.family, derivation.digest, composes,
      ⟨derivation.familyEnd, familyLatest, reaches.1⟩,
      ⟨derivation.digestEnd, digestLatest, reaches.2⟩⟩
  · rintro ⟨nothing, family, digest, composes, ⟨familyEnd, familyLatest, familyReaches⟩,
      digestEnd, digestLatest, digestReaches⟩
    have holds : (⟨family, digest, familyEnd, digestEnd⟩ : Derivation).Holds registry records
        signature size := ⟨composes, familyLatest, digestLatest⟩
    have reaches := le_min familyReaches digestReaches
    rcases (collects.exists_decides_iff signature size).mpr ⟨_, holds⟩ with ⟨decider, decides⟩
    have later := decides.latest _ holds
    rw [Derivation.moment_expiration] at later
    exact ⟨_, ⟨nothing, decider, decides, rfl⟩, reaches.trans later⟩

theorem exists_mem_signatureExpiration?_and_le_iff (signature : Signature) (keySize : UInt32)
    (bound : WithTop Int) :
    (∃ expiration ∈ (ofRecords registry records).signatureExpiration? signature keySize,
        bound ≤ expiration.moment) ↔
      ∃ size ≤ keySize, ∃ expiration, (Identity.withKeySize signature size, expiration) ∈
        (ofRecords registry records).keySizes ∧ bound ≤ expiration.moment := by
  simp only [signatureExpiration?, Option.mem_def, Expiration.latest?_eq_some_iff,
    Expiration.exists_isLatest_and_le_iff, List.mem_map,
    mem_between_iff (keySizes_ascending registry records), compare_withKeySize_iff]
  constructor
  · rintro ⟨_, ⟨⟨identity, expiration⟩, ⟨member, size, inRange, rfl⟩, rfl⟩, reaches⟩
    exact ⟨size, inRange, expiration, member, reaches⟩
  · rintro ⟨size, inRange, expiration, member, reaches⟩
    exact ⟨expiration, ⟨_, ⟨member, size, inRange, rfl⟩, rfl⟩, reaches⟩

end Acceptability

end AlgorithmPolicy

import AlgorithmPolicy.Proofs.Suite.Checks

/-! Signatures with their key sizes are one table, and a query for a key size searches all of
it: among the rows of the signature up to that size it takes the latest end. It goes through a
range of sorted rows to find them, which comes to the same because every row has a key size. A
larger key and an earlier moment never do harm. -/

namespace AlgorithmPolicy.Suite

/-- The ends that the table has for a signature at key sizes up to one, in its order. -/
def endsUpTo (suite : Suite) (signature : Signature) (keySize : UInt32) : List Expiration :=
  (suite.keySizeTable.toList.filter fun ((other, size), _) =>
    other = signature ∧ size ≤ keySize).map (·.2)

variable (registry : Registry) (policy : Policy)

/-! ## The table -/

/-- No key size has to be made up for a row, so no two rows become one. -/
theorem keySizeExpirations_ascending :
    (ofPolicy registry policy).keySizeExpirations.Pairwise fun row other =>
      compare row.1 other.1 = .lt := by
  have ascending := Acceptability.keySizes_ascending registry
    (Catalogue.ofPolicy registry policy).records
  rw [keySizeExpirations, List.pairwise_map]
  refine ascending.imp_of_mem ?_
  intro row other member otherMember before
  rcases row with ⟨identity, expiration⟩
  rcases other with ⟨otherIdentity, otherEnd⟩
  rcases Acceptability.keySize_of_mem_keySizes registry _ member with ⟨size, isSized⟩
  rcases Acceptability.keySize_of_mem_keySizes registry _ otherMember with ⟨otherSize, otherSized⟩
  dsimp only at before
  rw [isSized, otherSized] at before ⊢
  exact before

theorem toList_keySizeTable :
    (ofPolicy registry policy).keySizeTable.toList =
      (ofPolicy registry policy).keySizeExpirations :=
  toList_ofList_of_ascending (keySizeExpirations_ascending registry policy)

theorem mem_keySizeTable_iff (signature : Signature) (size : UInt32) :
    (signature, size) ∈ (ofPolicy registry policy).keySizeTable ↔
      ∃ expiration, (Identity.withKeySize signature size, expiration) ∈
        (ofPolicy registry policy).acceptability.keySizes := by
  rw [Std.TreeMap.mem_iff_isSome_getElem?, Option.isSome_iff_exists]
  simp only [← Std.TreeMap.mem_toList_iff_getElem?_eq_some, toList_keySizeTable,
    keySizeExpirations, List.mem_map]
  apply exists_congr
  intro expiration
  constructor
  · intro shown
    rcases shown with ⟨⟨identity, _⟩, member, same⟩
    rcases Acceptability.keySize_of_mem_keySizes registry _ member with ⟨stated, isSized⟩
    rw [isSized] at member same
    cases same
    exact member
  · intro member
    exact ⟨_, member, rfl⟩

/-! ## Queries -/

/-- The rows between the least identity of a signature and that at a key size are found by
looking at each row alone. -/
theorem between_withKeySize_eq_filter (signature : Signature) (keySize : UInt32) :
    (ofPolicy registry policy).acceptability.between (.withKeySize signature 0)
        (.withKeySize signature keySize) =
      (ofPolicy registry policy).acceptability.keySizes.filter fun (identity, _) =>
        identity.algorithm = signature ∧ identity.minKeySize ≤ keySize := by
  have ascending := Acceptability.keySizes_ascending registry
    (Catalogue.ofPolicy registry policy).records
  refine (Acceptability.between_eq_filter ascending _ _).trans (List.filter_congr ?_)
  intro row member
  rcases row with ⟨identity, expiration⟩
  rcases Acceptability.keySize_of_mem_keySizes registry _ member with ⟨size, isSized⟩
  rw [decide_eq_decide, Acceptability.compare_withKeySize_iff, isSized]
  constructor
  · intro inRange
    rcases inRange with ⟨_, atMost, same⟩
    cases same
    exact ⟨rfl, atMost⟩
  · intro inRange
    rcases inRange with ⟨same, atMost⟩
    exact ⟨size, atMost, congrArg (Identity.withKeySize · size) same⟩

theorem signatureExpiration?_eq_latest? (signature : Signature) (keySize : UInt32) :
    (ofPolicy registry policy).signatureExpiration? signature keySize =
      Expiration.latest? ((ofPolicy registry policy).endsUpTo signature keySize) := by
  rw [signatureExpiration?, Acceptability.signatureExpiration?, between_withKeySize_eq_filter,
    endsUpTo, toList_keySizeTable, keySizeExpirations, List.filter_map, List.map_map]
  rfl

/-- At a larger key size there is an end that is no earlier. -/
theorem exists_signatureExpiration?_and_le {signature : Signature} {keySize larger : UInt32}
    (notSmaller : keySize ≤ larger) {expiration : Expiration}
    (found : expiration ∈ (ofPolicy registry policy).signatureExpiration? signature keySize) :
    ∃ later ∈ (ofPolicy registry policy).signatureExpiration? signature larger,
      expiration.moment ≤ later.moment := by
  have reaches := Acceptability.exists_mem_signatureExpiration?_and_le_iff registry
    (Catalogue.ofPolicy registry policy).records signature
  rcases (reaches keySize expiration.moment).mp ⟨expiration, found, le_rfl⟩ with
    ⟨size, inRange, row⟩
  exact (reaches larger expiration.moment).mpr
    ⟨size, UInt32.le_trans inRange notSmaller, row⟩

theorem isSignatureAcceptable_of_le {signature : Signature} {keySize larger : UInt32}
    {instant earlier : Instant} (notSmaller : keySize ≤ larger)
    (notLater : earlier.moment ≤ instant.moment)
    (acceptable :
      (ofPolicy registry policy).isSignatureAcceptable signature keySize instant = true) :
    (ofPolicy registry policy).isSignatureAcceptable signature larger earlier = true := by
  rw [isSignatureAcceptable, Expiration.any_isAcceptableAt_iff] at acceptable ⊢
  rcases acceptable with ⟨expiration, found, reaches⟩
  rcases exists_signatureExpiration?_and_le registry policy notSmaller found with
    ⟨later, laterFound, notBefore⟩
  have earlierReaches : (earlier.moment : WithTop Int) ≤ expiration.moment :=
    (WithTop.coe_le_coe.mpr notLater).trans reaches
  exact ⟨later, laterFound, earlierReaches.trans notBefore⟩

/-! ## Queries and the table together -/

/-- The rows of a suite make up its table, one for each, and queries for key sizes are answered
from the table. -/
structure AnswersFromTable (suite : Suite) : Prop where
  ascending : suite.acceptability.keySizes.Pairwise fun left right =>
    compare left.1 right.1 = .lt
  sized : ∀ identity expiration, (identity, expiration) ∈ suite.acceptability.keySizes →
    ∃ size, identity.keySize = some size
  notInverted : ∀ (signature : Signature) keySize,
    compare (Identity.withKeySize signature 0) (.withKeySize signature keySize) ≠ .gt
  unmerged : suite.keySizeTable.toList =
    suite.acceptability.keySizes.map fun (identity, expiration) =>
      ((identity.algorithm, identity.minKeySize), expiration)
  nothing : ∀ signature keySize, suite.signatureExpiration? signature keySize = none ↔
    ∀ size ≤ keySize, (signature, size) ∉ suite.keySizeTable
  latest : ∀ signature keySize expiration,
    suite.signatureExpiration? signature keySize = some expiration ↔
      expiration.IsLatest (suite.endsUpTo signature keySize)
  keeps : ∀ signature (keySize larger : UInt32) (instant earlier : Instant),
    keySize ≤ larger → earlier.moment ≤ instant.moment →
      suite.isSignatureAcceptable signature keySize instant = true →
        suite.isSignatureAcceptable signature larger earlier = true

theorem answersFromTable (levels : Levels) :
    AnswersFromTable ((ofPolicy registry policy).withLevels levels) where
  ascending := Acceptability.keySizes_ascending registry _
  sized identity expiration member := by
    rcases Acceptability.keySize_of_mem_keySizes registry _ member with ⟨size, isSized⟩
    exact ⟨size, congrArg Identity.keySize isSized⟩
  notInverted signature keySize :=
    ((Acceptability.compare_withKeySize_iff _ signature keySize).mpr
      ⟨0, UInt32.zero_le, rfl⟩).2
  unmerged := toList_keySizeTable registry policy
  nothing signature keySize := by
    refine (Acceptability.signatureExpiration?_eq_none_iff registry _ signature keySize).trans ?_
    have inTable_iff := mem_keySizeTable_iff registry policy signature
    change _ ↔ ∀ size ≤ keySize, (signature, size) ∉ (ofPolicy registry policy).keySizeTable
    simp only [inTable_iff, not_exists]
    rfl
  latest signature keySize expiration := by
    have sameAnswer := signatureExpiration?_eq_latest? registry policy signature keySize
    rw [← Expiration.latest?_eq_some_iff]
    exact Eq.congr_left sameAnswer
  keeps _ _ _ _ _ := isSignatureAcceptable_of_le registry policy

end AlgorithmPolicy.Suite

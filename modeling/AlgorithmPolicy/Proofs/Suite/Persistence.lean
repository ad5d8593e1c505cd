import AlgorithmPolicy.Proofs.Suite.KeySizes

/-! Which checks stay acceptable. With a larger key a check may only become worse where too
small a key is tolerated, and at an earlier moment only where an expiry fails before the policy
is due for an update and is tolerated afterwards. -/

namespace AlgorithmPolicy

theorem Report.isAcceptable_ofFinding_iff (levels : Levels) (category : Category)
    (message : String) :
    (ofFinding levels category message).isAcceptable = true ↔ levels.level category ≠ .fail := by
  rw [ofFinding]
  cases levels.level category <;> simp [isAcceptable, empty]

namespace Suite

/-! ## Passing a check -/

/-- What was found of an algorithm passes a check at an instant. Where nothing was found, it is
the absence that has to be tolerated. -/
def Passes (suite : Suite) (absence : Category) (instant : Instant) : Option Expiration → Prop
  | none => suite.levels.level absence ≠ .fail
  | some expiration =>
      expiration.isAcceptableAt instant = true ∨
        suite.levels.level (suite.expiryCategory instant) ≠ .fail

section Passes

variable {suite : Suite} {absence : Category} {instant earlier : Instant} {signature : Signature}

theorem isAcceptable_checkExpiration_iff (subject : String) (expiration : Expiration) :
    (suite.checkExpiration subject expiration instant).isAcceptable = true ↔
      suite.Passes absence instant (some expiration) := by
  rw [checkExpiration, Passes]
  cases expiration.isAcceptableAt instant with
  | true => simp [Report.isAcceptable, Report.empty]
  | false => simp [Report.isAcceptable_ofFinding_iff]

theorem isAcceptable_checkDigest_iff (digest : Digest) :
    (suite.checkDigest digest instant).isAcceptable = true ↔
      suite.Passes .digestAlgorithms instant (suite.digestExpiration? digest) := by
  rw [checkDigest]
  cases suite.digestExpiration? digest with
  | none => exact Report.isAcceptable_ofFinding_iff _ _ _
  | some expiration => exact isAcceptable_checkExpiration_iff _ _

theorem isAcceptable_checkSignature_of_unlisted
    (unlisted : signature ∉ suite.acceptability.signatures) (keySize : UInt32) :
    (suite.checkSignature signature keySize instant).isAcceptable = true ↔
      suite.levels.level .signatureAlgorithms ≠ .fail := by
  rw [checkSignature, if_pos unlisted]
  exact Report.isAcceptable_ofFinding_iff _ _ _

theorem isAcceptable_checkSignature_of_listed
    (listed : signature ∈ suite.acceptability.signatures) (keySize : UInt32) :
    (suite.checkSignature signature keySize instant).isAcceptable = true ↔
      suite.Passes .signatureMinKeySize instant (suite.signatureExpiration? signature keySize) := by
  rw [checkSignature, if_neg (not_not.mpr listed)]
  cases suite.signatureExpiration? signature keySize with
  | none => exact Report.isAcceptable_ofFinding_iff _ _ _
  | some expiration => exact isAcceptable_checkExpiration_iff _ _

/-- Only what is found changes with the key size and the moment, not whether a signature is
listed. -/
theorem isAcceptable_checkSignature_of_imp {keySize other : UInt32} {moment : Instant}
    (keeps : suite.Passes .signatureMinKeySize instant
        (suite.signatureExpiration? signature keySize) →
      suite.Passes .signatureMinKeySize moment (suite.signatureExpiration? signature other))
    (acceptable : (suite.checkSignature signature keySize instant).isAcceptable = true) :
    (suite.checkSignature signature other moment).isAcceptable = true := by
  by_cases listed : signature ∈ suite.acceptability.signatures
  · rw [isAcceptable_checkSignature_of_listed listed] at acceptable ⊢
    exact keeps acceptable
  · rw [isAcceptable_checkSignature_of_unlisted listed] at acceptable ⊢
    exact acceptable

/-! ## Earlier moments -/

/-- Only once can the category of an expiry change, when the policy becomes overdue. -/
theorem expiryCategory_eq_or (suite : Suite) (notLater : earlier.moment ≤ instant.moment) :
    suite.expiryCategory earlier = suite.expiryCategory instant ∨
      suite.expiryCategory earlier = .algorithmExpiration ∧
        suite.expiryCategory instant = .expirationAfterPolicyUpdate := by
  rw [expiryCategory, expiryCategory]
  cases suite.catalogue.metadata.nextUpdate with
  | none => exact Or.inl rfl
  | some nextUpdate =>
      by_cases overdue : nextUpdate.moment < earlier.moment
      · have overdueThen := overdue.trans_le notLater
        exact Or.inl (by simp only [overdue, overdueThen])
      · by_cases overdueThen : nextUpdate.moment < instant.moment
        · exact Or.inr (by simp only [overdue, overdueThen, if_true, if_false, and_self])
        · exact Or.inl (by simp only [overdue, overdueThen])

theorem Passes.of_earlier
    (neverSofter : suite.levels.level .expirationAfterPolicyUpdate = .fail ∨
      suite.levels.level .algorithmExpiration ≠ .fail)
    (notLater : earlier.moment ≤ instant.moment) {found : Option Expiration}
    (passes : suite.Passes absence instant found) : suite.Passes absence earlier found := by
  cases found with
  | none => exact passes
  | some expiration =>
      rcases passes with reaches | tolerated
      · rw [Expiration.isAcceptableAt_iff] at reaches
        have earlierReaches := (WithTop.coe_le_coe.mpr notLater).trans reaches
        exact Or.inl ((Expiration.isAcceptableAt_iff _ _).mpr earlierReaches)
      · right
        rcases expiryCategory_eq_or suite notLater with same | ⟨isInTime, isOverdue⟩
        · rw [same]
          exact tolerated
        · rw [isOverdue] at tolerated
          rw [isInTime]
          exact neverSofter.resolve_left tolerated

/-! ## Later ends -/

/-- What ends no earlier passes too. Having nothing did not pass, so there was something. -/
theorem Passes.of_later (absenceFails : suite.levels.level absence = .fail)
    {found other : Option Expiration}
    (noEarlier : ∀ expiration ∈ found, ∃ later ∈ other, expiration.moment ≤ later.moment)
    (passes : suite.Passes absence instant found) : suite.Passes absence instant other := by
  cases found with
  | none => exact absurd absenceFails passes
  | some expiration =>
      rcases noEarlier expiration rfl with ⟨later, isLater, notBefore⟩
      rw [Option.mem_def.mp isLater]
      apply passes.imp_left
      intro reaches
      rw [Expiration.isAcceptableAt_iff] at reaches ⊢
      exact reaches.trans notBefore

end Passes

/-! ## Verdicts -/

/-- Checks that are acceptable stay so for larger keys, and at earlier moments, at levels that
do not tolerate the one and the other to become worse. -/
structure VerdictsPersist (suite : Suite) : Prop where
  largerKeys : suite.levels.level .signatureMinKeySize = .fail →
    ∀ signature (keySize larger : UInt32) instant, keySize ≤ larger →
      (suite.checkSignature signature keySize instant).isAcceptable = true →
        (suite.checkSignature signature larger instant).isAcceptable = true
  earlierSignatures : suite.levels.level .expirationAfterPolicyUpdate = .fail ∨
      suite.levels.level .algorithmExpiration ≠ .fail →
    ∀ signature keySize (instant earlier : Instant), earlier.moment ≤ instant.moment →
      (suite.checkSignature signature keySize instant).isAcceptable = true →
        (suite.checkSignature signature keySize earlier).isAcceptable = true
  earlierDigests : suite.levels.level .expirationAfterPolicyUpdate = .fail ∨
      suite.levels.level .algorithmExpiration ≠ .fail →
    ∀ digest (instant earlier : Instant), earlier.moment ≤ instant.moment →
      (suite.checkDigest digest instant).isAcceptable = true →
        (suite.checkDigest digest earlier).isAcceptable = true

/-- A new configuration of levels does not tolerate too small keys. -/
theorem verdictsPersist (registry : Registry) (policy : Policy) :
    Levels.initial.level .signatureMinKeySize = .fail ∧
      ∀ levels, VerdictsPersist ((ofPolicy registry policy).withLevels levels) := by
  refine ⟨rfl, fun levels => ?_⟩
  constructor
  case largerKeys =>
    intro tooSmallFails signature keySize larger instant notSmaller
    apply isAcceptable_checkSignature_of_imp
    apply Passes.of_later tooSmallFails
    intro expiration found
    exact exists_signatureExpiration?_and_le registry policy notSmaller found
  case earlierSignatures =>
    intro neverSofter signature keySize instant earlier notLater
    apply isAcceptable_checkSignature_of_imp
    exact Passes.of_earlier neverSofter notLater
  case earlierDigests =>
    intro neverSofter digest instant earlier notLater
    rw [isAcceptable_checkDigest_iff, isAcceptable_checkDigest_iff]
    exact Passes.of_earlier neverSofter notLater

end Suite

end AlgorithmPolicy

import AlgorithmPolicy.Proofs.Suite.Queries

/-! Checks and queries agree. A check finds nothing where the query accepts; elsewhere it
finds the one thing that is wrong, unless findings of that kind are ignored. Checks look at
the set of signatures before they look at key sizes, and queries look at key sizes alone, so
this rests on the views: whatever has a key size is in the set. -/

namespace AlgorithmPolicy

/-! ## Reports of one finding -/

namespace Report

/-- A report of one finding in a category, at the level of the category; it is empty if
that level is to be ignored. -/
inductive Finds (levels : Levels) (category : Category) : Report → Prop
  | ignored : levels.level category = .ignore → Finds levels category ⟨[]⟩
  | reported (message : String) : levels.level category ≠ .ignore →
      Finds levels category ⟨[⟨category, levels.level category, message⟩]⟩

theorem finds_ofFinding (levels : Levels) (category : Category) (message : String) :
    Finds levels category (ofFinding levels category message) := by
  rw [ofFinding]
  split
  · next ignored => exact .ignored ignored
  · next notIgnored => exact .reported message notIgnored

/-- A report agrees with a query. It is empty if the query accepts. Otherwise exactly one
category is at fault, and that is what the report finds. -/
structure Agrees (report : Report) (levels : Levels) (accepted : Bool)
    (Fault : Category → Prop) : Prop where
  atMostOne : report.violations.length ≤ 1
  neverIgnored : ∀ violation ∈ report.violations, violation.level ≠ .ignore
  nothing : accepted = true → report.violations = []
  fault : accepted = false →
    ∃ category, (∀ other, Fault other ↔ other = category) ∧ Finds levels category report
  verdict : (∀ category, levels.level category = .fail) → report.isAcceptable = accepted

variable {levels : Levels} {Fault : Category → Prop}

theorem agrees_empty : Agrees empty levels true Fault where
  atMostOne := Nat.zero_le 1
  neverIgnored := by
    intro violation member
    cases member
  nothing _ := rfl
  fault refused := by cases refused
  verdict _ := rfl

theorem agrees_of_finds {report : Report} {category : Category}
    (faulty : ∀ other, Fault other ↔ other = category) (finds : Finds levels category report) :
    Agrees report levels false Fault where
  atMostOne := by
    cases finds with
    | ignored => exact Nat.zero_le 1
    | reported => exact le_rfl
  neverIgnored := by
    intro violation member
    cases finds with
    | ignored => cases member
    | reported message notIgnored =>
        rw [List.mem_singleton.mp member]
        exact notIgnored
  nothing accepted := by cases accepted
  fault _ := ⟨category, faulty, finds⟩
  verdict allFail := by
    cases finds with
    | ignored ignored =>
        rw [allFail] at ignored
        cases ignored
    | reported => simp [isAcceptable, allFail]

end Report

/-! ## Faults -/

/-- The policy was due for an update before an instant. -/
def Policy.IsOverdue (policy : Policy) (instant : Instant) : Prop :=
  ∃ nextUpdate, policy.nextUpdate = some nextUpdate ∧ nextUpdate.moment < instant.moment

/-- The category of an expiry, which depends on whether the policy was due for an update. -/
inductive Policy.ExpiryFault (policy : Policy) (instant : Instant) : Category → Prop
  | overdue : policy.IsOverdue instant → ExpiryFault policy instant .expirationAfterPolicyUpdate
  | notOverdue : ¬ policy.IsOverdue instant → ExpiryFault policy instant .algorithmExpiration

namespace Acceptability

/-- What is wrong with a digest that is not acceptable: it is in no row, or its row has
expired. -/
inductive DigestFault (views : Acceptability) (policy : Policy) (digest : Digest)
    (instant : Instant) : Category → Prop
  | unlisted : (∀ expiration, (digest, expiration) ∉ views.digests) →
      DigestFault views policy digest instant .digestAlgorithms
  | expired {expiration : Expiration} {category : Category} :
      (digest, expiration) ∈ views.digests → policy.ExpiryFault instant category →
        DigestFault views policy digest instant category

/-- What is wrong with a signature at a key size that is not acceptable: it is not in the
set, or none of its rows has a least key size up to this one, or all that have expired. -/
inductive SignatureFault (views : Acceptability) (policy : Policy) (signature : Signature)
    (keySize : UInt32) (instant : Instant) : Category → Prop
  | unlisted : signature ∉ views.signatures →
      SignatureFault views policy signature keySize instant .signatureAlgorithms
  | tooSmall : signature ∈ views.signatures →
      (∀ size ≤ keySize, ∀ expiration,
        (Identity.withKeySize signature size, expiration) ∉ views.keySizes) →
      SignatureFault views policy signature keySize instant .signatureMinKeySize
  | expired {size : UInt32} {expiration : Expiration} {category : Category} :
      signature ∈ views.signatures → size ≤ keySize →
      (Identity.withKeySize signature size, expiration) ∈ views.keySizes →
      policy.ExpiryFault instant category →
        SignatureFault views policy signature keySize instant category

section Faults

variable {views : Acceptability} {policy : Policy} {instant : Instant}

theorem digestFault_iff_of_unlisted {digest : Digest}
    (absent : ∀ expiration, (digest, expiration) ∉ views.digests) (category : Category) :
    views.DigestFault policy digest instant category ↔ category = .digestAlgorithms := by
  constructor
  · intro fault
    cases fault with
    | unlisted => rfl
    | expired member => exact absurd member (absent _)
  · intro isCategory
    subst isCategory
    exact .unlisted absent

theorem digestFault_iff_of_mem {digest : Digest} {expiration : Expiration}
    (member : (digest, expiration) ∈ views.digests) (category : Category) :
    views.DigestFault policy digest instant category ↔ policy.ExpiryFault instant category := by
  constructor
  · intro fault
    cases fault with
    | unlisted absent => exact absurd member (absent expiration)
    | expired _ expiry => exact expiry
  · intro expiry
    exact .expired member expiry

variable {signature : Signature} {keySize : UInt32}

theorem signatureFault_iff_of_unlisted (absent : signature ∉ views.signatures)
    (category : Category) :
    views.SignatureFault policy signature keySize instant category ↔
      category = .signatureAlgorithms := by
  constructor
  · intro fault
    cases fault with
    | unlisted => rfl
    | tooSmall listed => exact absurd listed absent
    | expired listed => exact absurd listed absent
  · intro isCategory
    subst isCategory
    exact .unlisted absent

theorem signatureFault_iff_of_tooSmall (listed : signature ∈ views.signatures)
    (above : ∀ size ≤ keySize, ∀ expiration,
      (Identity.withKeySize signature size, expiration) ∉ views.keySizes)
    (category : Category) :
    views.SignatureFault policy signature keySize instant category ↔
      category = .signatureMinKeySize := by
  constructor
  · intro fault
    cases fault with
    | unlisted absent => exact absurd listed absent
    | tooSmall => rfl
    | expired _ inRange member => exact absurd member (above _ inRange _)
  · intro isCategory
    subst isCategory
    exact .tooSmall listed above

theorem signatureFault_iff_of_mem {size : UInt32} {expiration : Expiration}
    (listed : signature ∈ views.signatures) (inRange : size ≤ keySize)
    (member : (Identity.withKeySize signature size, expiration) ∈ views.keySizes)
    (category : Category) :
    views.SignatureFault policy signature keySize instant category ↔
      policy.ExpiryFault instant category := by
  constructor
  · intro fault
    cases fault with
    | unlisted absent => exact absurd listed absent
    | tooSmall _ above => exact absurd member (above size inRange expiration)
    | expired _ _ _ expiry => exact expiry
  · intro expiry
    exact .expired listed inRange member expiry

end Faults

/-! ## Views -/

variable (registry : Registry) (records : List Catalogue.Record)

/-- Whatever has a key size is in the set of signatures. -/
theorem mem_signatures_of_mem_keySizes {signature : Signature} {size : UInt32}
    {expiration : Expiration} (member : (Identity.withKeySize signature size, expiration) ∈
      (ofRecords registry records).keySizes) :
    signature ∈ (ofRecords registry records).signatures := by
  rw [mem_signatures_iff]
  rcases (exists_mem_keySizes_iff registry records signature size).mp ⟨expiration, member⟩ with
    stated | ⟨family, digest, stated, digestRow, composes⟩
  · rcases stated with ⟨record, recordMember, isResolved, -⟩
    exact Or.inl ⟨record, recordMember, isResolved⟩
  · rcases stated with ⟨record, recordMember, isResolved, -⟩
    exact Or.inr ⟨family, digest, ⟨record, recordMember, isResolved⟩, digestRow, composes⟩

theorem digestExpiration?_eq_none_iff (digest : Digest) :
    (ofRecords registry records).digestExpiration? digest = none ↔
      ∀ expiration, (digest, expiration) ∉ (ofRecords registry records).digests := by
  rw [Option.eq_none_iff_forall_not_mem]
  simp only [mem_digestExpiration?_iff]

theorem signatureExpiration?_eq_none_iff (signature : Signature) (keySize : UInt32) :
    (ofRecords registry records).signatureExpiration? signature keySize = none ↔
      ∀ size ≤ keySize, ∀ expiration, (Identity.withKeySize signature size, expiration) ∉
        (ofRecords registry records).keySizes := by
  rw [signatureExpiration?, Expiration.latest?_eq_none_iff, List.map_eq_nil_iff,
    List.eq_nil_iff_forall_not_mem]
  simp only [mem_between_iff (keySizes_ascending registry records), compare_withKeySize_iff]
  constructor
  · intro nothing size inRange expiration member
    exact nothing (_, expiration) ⟨member, size, inRange, rfl⟩
  · intro nothing row found
    rcases row with ⟨identity, expiration⟩
    rcases found with ⟨member, size, inRange, rfl⟩
    exact nothing size inRange expiration member

end Acceptability

/-! ## Checks -/

namespace Suite

variable (registry : Registry) (policy : Policy) (levels : Levels)

theorem expiryCategory_of_isOverdue {instant : Instant} (overdue : policy.IsOverdue instant) :
    (ofPolicy registry policy).expiryCategory instant = .expirationAfterPolicyUpdate := by
  rcases overdue with ⟨nextUpdate, announced, before⟩
  simp [expiryCategory, ofPolicy, Catalogue.ofPolicy, Catalogue.Metadata.ofPolicy, announced,
    before]

theorem expiryCategory_of_not_isOverdue {instant : Instant}
    (notOverdue : ¬ policy.IsOverdue instant) :
    (ofPolicy registry policy).expiryCategory instant = .algorithmExpiration := by
  cases announced : policy.nextUpdate with
  | none =>
      simp [expiryCategory, ofPolicy, Catalogue.ofPolicy, Catalogue.Metadata.ofPolicy, announced]
  | some nextUpdate =>
      have notBefore : ¬ nextUpdate.moment < instant.moment := fun before =>
        notOverdue ⟨nextUpdate, announced, before⟩
      simp [expiryCategory, ofPolicy, Catalogue.ofPolicy, Catalogue.Metadata.ofPolicy, announced,
        notBefore]

theorem expiryFault_iff (instant : Instant) (category : Category) :
    policy.ExpiryFault instant category ↔
      category = (ofPolicy registry policy).expiryCategory instant := by
  constructor
  · intro fault
    cases fault with
    | overdue overdue => exact (expiryCategory_of_isOverdue registry policy overdue).symm
    | notOverdue notOverdue =>
        exact (expiryCategory_of_not_isOverdue registry policy notOverdue).symm
  · intro isCategory
    subst isCategory
    by_cases overdue : policy.IsOverdue instant
    · rw [expiryCategory_of_isOverdue registry policy overdue]
      exact .overdue overdue
    · rw [expiryCategory_of_not_isOverdue registry policy overdue]
      exact .notOverdue overdue

/-- The check of an end agrees with the end, if only an expiry can be wrong. -/
theorem agrees_checkExpiration (subject : String) (expiration : Expiration) (instant : Instant)
    {Fault : Category → Prop}
    (faulty : ∀ category, Fault category ↔ policy.ExpiryFault instant category) :
    (((ofPolicy registry policy).withLevels levels).checkExpiration subject expiration
      instant).Agrees levels (expiration.isAcceptableAt instant) Fault := by
  rw [checkExpiration]
  cases expiration.isAcceptableAt instant with
  | true => exact Report.agrees_empty
  | false =>
      have expiry := fun category =>
        (faulty category).trans (expiryFault_iff registry policy instant category)
      exact Report.agrees_of_finds expiry (Report.finds_ofFinding levels _ _)

theorem agrees_checkDigest (digest : Digest) (instant : Instant) :
    (((ofPolicy registry policy).withLevels levels).checkDigest digest instant).Agrees levels
      ((ofPolicy registry policy).isDigestAcceptable digest instant)
      ((ofPolicy registry policy).acceptability.DigestFault policy digest instant) := by
  have sameQuery : ((ofPolicy registry policy).withLevels levels).digestExpiration? digest =
      (ofPolicy registry policy).digestExpiration? digest := rfl
  rw [checkDigest, isDigestAcceptable, sameQuery]
  cases found : (ofPolicy registry policy).digestExpiration? digest with
  | none =>
      have absent := (Acceptability.digestExpiration?_eq_none_iff registry _ digest).mp found
      exact Report.agrees_of_finds (Acceptability.digestFault_iff_of_unlisted absent)
        (Report.finds_ofFinding levels _ _)
  | some expiration =>
      have member := (Acceptability.mem_digestExpiration?_iff registry _ digest expiration).mp found
      apply agrees_checkExpiration
      exact Acceptability.digestFault_iff_of_mem member

theorem agrees_checkSignature (signature : Signature) (keySize : UInt32) (instant : Instant) :
    (((ofPolicy registry policy).withLevels levels).checkSignature signature keySize
      instant).Agrees levels
      ((ofPolicy registry policy).isSignatureAcceptable signature keySize instant)
      ((ofPolicy registry policy).acceptability.SignatureFault policy signature keySize
        instant) := by
  have sameQuery :
      ((ofPolicy registry policy).withLevels levels).signatureExpiration? signature keySize =
        (ofPolicy registry policy).signatureExpiration? signature keySize := rfl
  have sameSet : ((ofPolicy registry policy).withLevels levels).acceptability.signatures =
      (ofPolicy registry policy).acceptability.signatures := rfl
  have nothing_iff : (ofPolicy registry policy).signatureExpiration? signature keySize = none ↔
      ∀ size ≤ keySize, ∀ expiration, (Identity.withKeySize signature size, expiration) ∉
        (ofPolicy registry policy).acceptability.keySizes :=
    Acceptability.signatureExpiration?_eq_none_iff registry _ signature keySize
  rw [checkSignature, isSignatureAcceptable, sameQuery, sameSet]
  by_cases listed : signature ∈ (ofPolicy registry policy).acceptability.signatures
  · rw [if_neg (not_not.mpr listed)]
    cases found : (ofPolicy registry policy).signatureExpiration? signature keySize with
    | none =>
        have above := nothing_iff.mp found
        exact Report.agrees_of_finds (Acceptability.signatureFault_iff_of_tooSmall listed above)
          (Report.finds_ofFinding levels _ _)
    | some expiration =>
        have present : ¬ ∀ size ≤ keySize, ∀ expiration,
            (Identity.withKeySize signature size, expiration) ∉
              (ofPolicy registry policy).acceptability.keySizes := by
          rw [← nothing_iff, found]
          exact Option.some_ne_none expiration
        push Not at present
        rcases present with ⟨size, inRange, row, member⟩
        apply agrees_checkExpiration
        exact Acceptability.signatureFault_iff_of_mem listed inRange member
  · rw [if_pos listed]
    -- The check stops at the set; that the query finds nothing either takes the views.
    have nothing : (ofPolicy registry policy).signatureExpiration? signature keySize = none := by
      rw [nothing_iff]
      intro size _ expiration member
      exact listed (Acceptability.mem_signatures_of_mem_keySizes registry _ member)
    rw [nothing]
    exact Report.agrees_of_finds (Acceptability.signatureFault_iff_of_unlisted listed)
      (Report.finds_ofFinding levels _ _)

/-- Every check of a suite agrees with the query it goes with, at all levels. -/
theorem checks_agree :
    (∀ digest instant,
      (((ofPolicy registry policy).withLevels levels).checkDigest digest instant).Agrees levels
        (((ofPolicy registry policy).withLevels levels).isDigestAcceptable digest instant)
        ((ofPolicy registry policy).acceptability.DigestFault policy digest instant)) ∧
      ∀ signature keySize instant,
        (((ofPolicy registry policy).withLevels levels).checkSignature signature keySize
          instant).Agrees levels
          (((ofPolicy registry policy).withLevels levels).isSignatureAcceptable signature keySize
            instant)
          ((ofPolicy registry policy).acceptability.SignatureFault policy signature keySize
            instant) :=
  ⟨agrees_checkDigest registry policy levels, agrees_checkSignature registry policy levels⟩

end Suite

end AlgorithmPolicy

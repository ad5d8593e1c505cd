import AlgorithmPolicy.Proofs.Acceptability.Insertion
import AlgorithmPolicy.Proofs.Suite.Queries

/-! What a suite keeps when an entry is added to its policy. An entry that stands for nothing
changes nothing. Digests and families can only make more acceptable. A signature may be
acceptable for a shorter time once it has evaluations of its own, but then only at the key
sizes these state. -/

namespace AlgorithmPolicy

/-- The policy with one more entry, after so many others, or after all if there are fewer. -/
def Policy.insert (policy : Policy) (position : Nat) (entry : Policy.Entry) : Policy :=
  { policy with
    entries := policy.entries.take position ++ entry :: policy.entries.drop position }

namespace Suite

/-- What was acceptable still is, and what was listed still is. -/
structure Keeps (before after : Suite) : Prop where
  isDigestAcceptable : ∀ digest instant,
    before.isDigestAcceptable digest instant = true →
      after.isDigestAcceptable digest instant = true
  isSignatureAcceptable : ∀ signature keySize instant,
    before.isSignatureAcceptable signature keySize instant = true →
      after.isSignatureAcceptable signature keySize instant = true
  digests : ∀ digest, (∃ expiration, (digest, expiration) ∈ before.acceptability.digests) →
    ∃ expiration, (digest, expiration) ∈ after.acceptability.digests
  signatures : ∀ signature ∈ before.acceptability.signatures,
    signature ∈ after.acceptability.signatures

/-- Only one signature differs: it may be listed now, and its rows may differ at the key
sizes that an entry states. -/
structure DiffersAt (registry : Registry) (entry : Policy.Entry) (signature : Signature)
    (before after : Suite) : Prop where
  digests : after.acceptability.digests = before.acceptability.digests
  signatures_kept : ∀ other ∈ before.acceptability.signatures,
    other ∈ after.acceptability.signatures
  signatures_gained : ∀ other ∈ after.acceptability.signatures,
    other ∈ before.acceptability.signatures ∨ other = signature
  keySizes : ∀ identity,
    (∀ evaluation ∈ entry.effective, ∀ size,
      Acceptability.StatesKeySize registry signature.family evaluation.parameters size →
        identity ≠ .withKeySize signature size) →
    ∀ expiration, (identity, expiration) ∈ after.acceptability.keySizes ↔
      (identity, expiration) ∈ before.acceptability.keySizes

/-- What adding an entry does to a suite, by what the entry stands for. -/
structure Extends (registry : Registry) (entry : Policy.Entry) (before after : Suite) :
    Prop where
  unknown : registry.resolve entry.identifier = .unknown →
    after.acceptability = before.acceptability
  digest : ∀ digest, registry.resolve entry.identifier = .digest digest → Keeps before after
  encryption : ∀ family, registry.resolve entry.identifier = .encryption family →
    Keeps before after
  signature : ∀ signature, registry.resolve entry.identifier = .signature signature →
    DiffersAt registry entry signature before after

/-! ## Evaluations and records -/

section Insert

variable (registry : Registry) (policy : Policy) (position : Nat) (entry : Policy.Entry)

theorem evaluates_insert_iff (resolved : Resolved) (evaluation : Policy.Evaluation) :
    registry.Evaluates (policy.insert position entry).entries resolved evaluation ↔
      registry.Evaluates policy.entries resolved evaluation ∨
        registry.resolve entry.identifier = resolved ∧ evaluation ∈ entry.effective := by
  have member_iff : ∀ other, other ∈ (policy.insert position entry).entries ↔
      other ∈ policy.entries ∨ other = entry := by
    intro other
    conv_rhs => rw [← List.take_append_drop position policy.entries]
    simp only [Policy.insert, List.mem_append, List.mem_cons]
    exact (or_congr_right or_comm).trans or_assoc.symm
  simp only [Registry.Evaluates, member_iff, or_and_right, exists_or, exists_eq_left]

/-- The views are those of the same records with one more among them. -/
theorem exists_acceptability_insert :
    ∃ earlier later, (ofPolicy registry policy).acceptability =
        .ofRecords registry (earlier ++ later) ∧
      (ofPolicy registry (policy.insert position entry)).acceptability =
        .ofRecords registry (earlier ++ .ofEntry registry entry :: later) := by
  refine ⟨(policy.entries.take position).map (.ofEntry registry),
    (policy.entries.drop position).map (.ofEntry registry), ?_, ?_⟩
  · rw [← List.map_append, List.take_append_drop]
    rfl
  · simp [ofPolicy, Catalogue.ofPolicy, Policy.insert]

end Insert

end Suite

/-! ## Entries for digests and families -/

/-- More evaluations of digests and families support no less, as long as signatures have the
same evaluations of their own: of these, more might shadow what is derived. -/
theorem Registry.Supports.mono {registry : Registry} {entries more : List Policy.Entry}
    {condition : Policy.Evaluation → Prop} {signature : Signature} {size : UInt32}
    (kept : ∀ resolved evaluation, registry.Evaluates entries resolved evaluation →
      registry.Evaluates more resolved evaluation)
    (sameDirect : ∀ evaluation, registry.Evaluates more (.signature signature) evaluation ↔
      registry.Evaluates entries (.signature signature) evaluation)
    (supports : registry.Supports entries condition signature size) :
    registry.Supports more condition signature size := by
  rcases supports with ⟨evaluation, evaluated, direct⟩ |
    ⟨nothing, family, digest, composes, familySupports, digestSupports⟩
  · exact Or.inl ⟨evaluation, kept _ _ evaluated, direct⟩
  · rcases familySupports with ⟨familyEvaluation, familyEvaluated, familyHolds⟩
    rcases digestSupports with ⟨digestEvaluation, digestEvaluated, digestHolds⟩
    refine Or.inr ⟨?_, family, digest, composes,
      ⟨familyEvaluation, kept _ _ familyEvaluated, familyHolds⟩,
      ⟨digestEvaluation, kept _ _ digestEvaluated, digestHolds⟩⟩
    intro stated
    rcases stated with ⟨evaluation, evaluated, states⟩
    exact nothing ⟨evaluation, (sameDirect evaluation).mp evaluated, states⟩

namespace Suite

theorem keeps_of_evaluates {registry : Registry} {before after : Policy}
    (kept : ∀ resolved evaluation, registry.Evaluates before.entries resolved evaluation →
      registry.Evaluates after.entries resolved evaluation)
    (sameDirect : ∀ signature evaluation,
      registry.Evaluates after.entries (.signature signature) evaluation ↔
        registry.Evaluates before.entries (.signature signature) evaluation) :
    Keeps (ofPolicy registry before) (ofPolicy registry after) where
  isDigestAcceptable digest instant := by
    rw [isDigestAcceptable, isDigestAcceptable, Expiration.any_isAcceptableAt_iff,
      Expiration.any_isAcceptableAt_iff, digestExpiration?_reaches_iff,
      digestExpiration?_reaches_iff]
    intro acceptable
    rcases acceptable with ⟨evaluation, evaluated, reaches⟩
    exact ⟨evaluation, kept _ _ evaluated, reaches⟩
  isSignatureAcceptable signature keySize instant := by
    rw [isSignatureAcceptable, isSignatureAcceptable, Expiration.any_isAcceptableAt_iff,
      Expiration.any_isAcceptableAt_iff, signatureExpiration?_reaches_iff,
      signatureExpiration?_reaches_iff]
    intro acceptable
    rcases acceptable with ⟨size, inRange, supports⟩
    exact ⟨size, inRange, supports.mono kept (sameDirect signature)⟩
  digests digest := by
    rw [exists_mem_digests_ofPolicy_iff, exists_mem_digests_ofPolicy_iff]
    intro listed
    rcases listed with ⟨evaluation, evaluated⟩
    exact ⟨evaluation, kept _ _ evaluated⟩
  signatures signature := by
    rw [mem_signatures_ofPolicy_iff, mem_signatures_ofPolicy_iff]
    intro listed
    rcases listed with ⟨evaluation, evaluated⟩ |
      ⟨family, digest, ⟨familyEvaluation, familyEvaluated⟩,
        ⟨digestEvaluation, digestEvaluated⟩, composes⟩
    · exact Or.inl ⟨evaluation, kept _ _ evaluated⟩
    · exact Or.inr ⟨family, digest, ⟨familyEvaluation, kept _ _ familyEvaluated⟩,
        ⟨digestEvaluation, kept _ _ digestEvaluated⟩, composes⟩

section Insert

variable {registry : Registry} (policy : Policy) (position : Nat) {entry : Policy.Entry}

theorem keeps_insert
    (noSignature : ∀ signature, registry.resolve entry.identifier ≠ .signature signature) :
    Keeps (ofPolicy registry policy) (ofPolicy registry (policy.insert position entry)) := by
  apply keeps_of_evaluates
  · intro resolved evaluation evaluated
    exact (evaluates_insert_iff registry policy position entry _ _).mpr (Or.inl evaluated)
  · intro signature evaluation
    rw [evaluates_insert_iff]
    exact or_iff_left fun added => noSignature signature added.1

/-! ## Entries for signatures -/

theorem differsAt_insert {signature : Signature}
    (isSignature : registry.resolve entry.identifier = .signature signature) :
    DiffersAt registry entry signature (ofPolicy registry policy)
      (ofPolicy registry (policy.insert position entry)) := by
  have noDigest : ∀ digest,
      (Catalogue.Record.ofEntry registry entry).resolved ≠ .digest digest := by
    simp [Catalogue.Record.ofEntry, isSignature]
  have noFamily : ∀ family,
      (Catalogue.Record.ofEntry registry entry).resolved ≠ .encryption family := by
    simp [Catalogue.Record.ofEntry, isSignature]
  rcases exists_acceptability_insert registry policy position entry with
    ⟨earlier, later, isBefore, isAfter⟩
  have same : Acceptability.SameComponents registry
      (earlier ++ .ofEntry registry entry :: later) (earlier ++ later) :=
    Acceptability.sameComponents_insert registry earlier later noDigest noFamily
  have signatures_iff :=
    Acceptability.mem_signatures_insert_iff registry earlier later noDigest noFamily
  constructor
  case digests =>
    rw [isBefore, isAfter]
    exact same.digests_eq
  case signatures_kept =>
    intro other member
    rw [isBefore] at member
    rw [isAfter]
    exact (signatures_iff other).mpr (Or.inl member)
  case signatures_gained =>
    intro other member
    rw [isAfter] at member
    rw [isBefore]
    apply ((signatures_iff other).mp member).imp_right
    intro isOther
    exact (Resolved.signature.inj (isSignature.symm.trans isOther)).symm
  case keySizes =>
    intro identity untouched expiration
    rw [isBefore, isAfter]
    apply same.mem_keySizes_iff
    intro size isIdentity
    by_cases sameAlgorithm : identity.algorithm = signature
    · -- Of the same signature only those key sizes are touched that the entry states.
      apply Acceptability.statedEnds_insert_of_unstated
      intro evaluation member states
      rw [Catalogue.Record.evaluations_ofEntry, List.mem_map] at member
      rcases member with ⟨source, sourceMember, rfl⟩
      rw [sameAlgorithm] at states isIdentity
      exact untouched source sourceMember size states isIdentity
    · apply Acceptability.statedEnds_insert_of_ne
      intro isOther
      exact sameAlgorithm (Resolved.signature.inj (isSignature.symm.trans isOther)).symm

end Insert

theorem extends_insert (registry : Registry) (policy : Policy) (position : Nat)
    (entry : Policy.Entry) :
    Extends registry entry (ofPolicy registry policy)
      (ofPolicy registry (policy.insert position entry)) where
  unknown isUnknown := by
    rcases exists_acceptability_insert registry policy position entry with
      ⟨earlier, later, isBefore, isAfter⟩
    rw [isBefore, isAfter]
    exact Acceptability.ofRecords_insert_of_unknown registry earlier later isUnknown
  digest digest isDigest := keeps_insert policy position (by simp [isDigest])
  encryption family isFamily := keeps_insert policy position (by simp [isFamily])
  signature signature isSignature := differsAt_insert policy position isSignature

end Suite

end AlgorithmPolicy

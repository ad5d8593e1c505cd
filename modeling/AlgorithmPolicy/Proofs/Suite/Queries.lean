import AlgorithmPolicy.Proofs.Acceptability.Queries
import AlgorithmPolicy.Proofs.Catalogue.Evaluations
import AlgorithmPolicy.Suite

/-! The meaning of the queries of a suite, in terms of the evaluations of its policy. -/

namespace AlgorithmPolicy

/-- Evaluations that satisfy a condition make a signature acceptable at a key size. It is
one of its own; or, where none of its own states that size at all, there is one of a
family that states the size and one of a digest, and the two make the signature. -/
def Registry.Supports (registry : Registry) (entries : List Policy.Entry)
    (condition : Policy.Evaluation → Prop) (signature : Signature) (size : UInt32) : Prop :=
  (∃ evaluation, registry.Evaluates entries (.signature signature) evaluation ∧
    Acceptability.StatesKeySize registry signature.family evaluation.parameters size ∧
    condition evaluation) ∨
  (¬ ∃ evaluation, registry.Evaluates entries (.signature signature) evaluation ∧
    Acceptability.StatesKeySize registry signature.family evaluation.parameters size) ∧
  ∃ family digest, registry.compose? family digest = some signature ∧
    (∃ evaluation, registry.Evaluates entries (.encryption family) evaluation ∧
      Acceptability.StatesKeySize registry family evaluation.parameters size ∧ condition evaluation) ∧
    ∃ evaluation, registry.Evaluates entries (.digest digest) evaluation ∧
      condition evaluation

namespace Suite

variable (registry : Registry) (policy : Policy)

theorem exists_mem_digests_ofPolicy_iff (digest : Digest) :
    (∃ expiration, (digest, expiration) ∈ (ofPolicy registry policy).acceptability.digests) ↔
      ∃ evaluation, registry.Evaluates policy.entries (.digest digest) evaluation := by
  refine (Acceptability.exists_mem_digests_iff registry _ digest).trans ?_
  rw [← Acceptability.digestEnds_ne_nil_iff]
  constructor
  · intro stated
    rcases List.exists_mem_of_ne_nil _ stated with ⟨_, member⟩
    rcases (Acceptability.mem_digestEnds_ofPolicy_iff digest _).mp member with
      ⟨evaluation, evaluated, -⟩
    exact ⟨evaluation, evaluated⟩
  · rintro ⟨evaluation, evaluated⟩
    exact List.ne_nil_of_mem
      ((Acceptability.mem_digestEnds_ofPolicy_iff digest _).mpr ⟨evaluation, evaluated, rfl⟩)

/-- A signature is in the view if it has an evaluation, or if a family and a digest that
have evaluations make it. -/
theorem mem_signatures_ofPolicy_iff (signature : Signature) :
    signature ∈ (ofPolicy registry policy).acceptability.signatures ↔
      (∃ evaluation, registry.Evaluates policy.entries (.signature signature) evaluation) ∨
        ∃ family digest,
          (∃ evaluation, registry.Evaluates policy.entries (.encryption family) evaluation) ∧
          (∃ evaluation, registry.Evaluates policy.entries (.digest digest) evaluation) ∧
          registry.compose? family digest = some signature := by
  have named := Acceptability.mem_signatures_iff registry
    (Catalogue.ofPolicy registry policy).records signature
  have stated := exists_mem_digests_ofPolicy_iff registry policy
  dsimp only [ofPolicy] at stated ⊢
  simp only [named, stated, Acceptability.names_ofPolicy_iff]

theorem digests_reaches_iff (digest : Digest) (bound : WithTop Int) :
    (∃ expiration, (digest, expiration) ∈ (ofPolicy registry policy).acceptability.digests ∧
        bound ≤ expiration.moment) ↔
      ∃ evaluation, registry.Evaluates policy.entries (.digest digest) evaluation ∧
        bound ≤ (Expiration.ofEnd evaluation.validityEnd).moment := by
  rw [← Acceptability.exists_mem_digestEnds_and_le_iff]
  exact Acceptability.exists_mem_digests_and_le_iff registry _ digest bound

theorem digestExpiration?_reaches_iff (digest : Digest) (bound : WithTop Int) :
    (∃ expiration ∈ (ofPolicy registry policy).digestExpiration? digest,
        bound ≤ expiration.moment) ↔
      ∃ evaluation, registry.Evaluates policy.entries (.digest digest) evaluation ∧
        bound ≤ (Expiration.ofEnd evaluation.validityEnd).moment := by
  simp only [← digests_reaches_iff, digestExpiration?, ofPolicy,
    Acceptability.mem_digestExpiration?_iff]

theorem keySizes_reaches_iff (signature : Signature) (size : UInt32) (bound : WithTop Int) :
    (∃ expiration, (Identity.withKeySize signature size, expiration) ∈
        (ofPolicy registry policy).acceptability.keySizes ∧ bound ≤ expiration.moment) ↔
      registry.Supports policy.entries
        (fun evaluation => bound ≤ (Expiration.ofEnd evaluation.validityEnd).moment)
        signature size := by
  have row := Acceptability.exists_mem_keySizes_and_le_iff registry
    (Catalogue.ofPolicy registry policy).records signature size bound
  simp only [Acceptability.directEndsAt, Acceptability.familyEndsAt,
    Acceptability.statedEnds_ofPolicy_eq_nil_iff,
    Acceptability.exists_mem_statedEnds_and_le_iff,
    Acceptability.exists_mem_digestEnds_and_le_iff] at row
  exact row

theorem signatureExpiration?_reaches_iff (signature : Signature) (keySize : UInt32)
    (bound : WithTop Int) :
    (∃ expiration ∈ (ofPolicy registry policy).signatureExpiration? signature keySize,
        bound ≤ expiration.moment) ↔
      ∃ size ≤ keySize, registry.Supports policy.entries
        (fun evaluation => bound ≤ (Expiration.ofEnd evaluation.validityEnd).moment)
        signature size := by
  simp only [← keySizes_reaches_iff]
  exact Acceptability.exists_mem_signatureExpiration?_and_le_iff registry _ signature keySize
    bound

/-- A signature is acceptable at a key size and an instant exactly when, at some least key
size up to it, evaluations that last to the instant make it so. -/
theorem isSignatureAcceptable_iff (signature : Signature) (keySize : UInt32)
    (instant : Instant) :
    (ofPolicy registry policy).isSignatureAcceptable signature keySize instant = true ↔
      ∃ size ≤ keySize,
        registry.Supports policy.entries (·.LastsTo instant) signature size := by
  have reaches := signatureExpiration?_reaches_iff registry policy signature keySize
    (instant.moment : WithTop Int)
  simp only [← Policy.Evaluation.lastsTo_iff] at reaches
  rw [← reaches, isSignatureAcceptable, Option.any_eq_true]
  simp only [Expiration.isAcceptableAt_iff, Option.mem_def]

end Suite

end AlgorithmPolicy

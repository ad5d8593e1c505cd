import AlgorithmPolicy.Proofs.Suite.EntryOrder
import AlgorithmPolicy.Proofs.Suite.Rearrangement

/-! What a suite says depends on the moments that its policy states, and on the moment it is
asked about, but not on the offsets at which they are written. -/

namespace AlgorithmPolicy

/-! ## Policies that differ in offsets -/

namespace Policy

/-- Both dates are absent, or both denote the same moment. -/
def SameMoment (left right : Option Instant) : Prop :=
  left.map (·.moment) = right.map (·.moment)

structure Evaluation.DifferInOffsets (left right : Evaluation) : Prop where
  validityEnd : SameMoment left.validityEnd right.validityEnd
  parameters : left.parameters = right.parameters
  usage : left.usage = right.usage
  recommendation : left.recommendation = right.recommendation

structure Entry.DifferInOffsets (left right : Entry) : Prop where
  identifier : left.identifier = right.identifier
  evaluations : List.Forall₂ Evaluation.DifferInOffsets left.evaluations right.evaluations
  information : left.information = right.information

/-- The policies differ at most in the offsets at which their dates are written. -/
structure DifferInOffsets (left right : Policy) : Prop where
  title : left.title = right.title
  publisher : left.publisher = right.publisher
  issueDate : SameMoment left.issueDate right.issueDate
  nextUpdate : SameMoment left.nextUpdate right.nextUpdate
  usage : left.usage = right.usage
  version : left.version = right.version
  language : left.language = right.language
  id : left.id = right.id
  entries : List.Forall₂ Entry.DifferInOffsets left.entries right.entries

theorem Evaluation.DifferInOffsets.symm {left right : Evaluation}
    (differ : left.DifferInOffsets right) : right.DifferInOffsets left :=
  ⟨differ.validityEnd.symm, differ.parameters.symm, differ.usage.symm,
    differ.recommendation.symm⟩

theorem Entry.DifferInOffsets.symm {left right : Entry}
    (differ : left.DifferInOffsets right) : right.DifferInOffsets left where
  identifier := differ.identifier.symm
  evaluations := differ.evaluations.flip.imp fun _ _ related => related.symm
  information := differ.information.symm

theorem Evaluation.DifferInOffsets.moment_eq {left right : Evaluation}
    (differ : left.DifferInOffsets right) :
    (Expiration.ofEnd left.validityEnd).moment = (Expiration.ofEnd right.validityEnd).moment := by
  have same := differ.validityEnd
  rw [SameMoment] at same
  cases leftEnd : left.validityEnd <;> cases rightEnd : right.validityEnd <;>
    simp_all [Expiration.ofEnd]

/-- An entry that lists nothing has the same unconditional evaluation as any other. -/
theorem Entry.DifferInOffsets.effective {left right : Entry}
    (differ : left.DifferInOffsets right) :
    List.Forall₂ Evaluation.DifferInOffsets left.effective right.effective := by
  have evaluations := differ.evaluations
  rw [Entry.effective, Entry.effective]
  generalize left.evaluations = lefts at evaluations ⊢
  generalize right.evaluations = rights at evaluations ⊢
  cases evaluations with
  | nil => exact .cons ⟨rfl, rfl, rfl, rfl⟩ .nil
  | cons first later => exact .cons first later

theorem exists_evaluates_of_differInOffsets (registry : Registry) {lefts rights : List Entry}
    (differ : List.Forall₂ Entry.DifferInOffsets lefts rights) {resolved : Resolved}
    {left : Evaluation} (evaluated : registry.Evaluates lefts resolved left) :
    ∃ right, registry.Evaluates rights resolved right ∧ left.DifferInOffsets right := by
  rcases evaluated with ⟨leftEntry, leftMember, isResolved, effective⟩
  rcases differ.exists_mem leftMember with ⟨rightEntry, rightMember, entries⟩
  rcases entries.effective.exists_mem effective with ⟨right, inRight, evaluations⟩
  rw [entries.identifier] at isResolved
  exact ⟨right, ⟨rightEntry, rightMember, isResolved, inRight⟩, evaluations⟩

theorem evaluatesAlike_of_differInOffsets (registry : Registry) {lefts rights : List Entry}
    (differ : List.Forall₂ Entry.DifferInOffsets lefts rights) :
    registry.EvaluatesAlike lefts rights := by
  -- One direction for any two lists, so that the other one is the same for the flipped pair.
  have transfers {lefts rights : List Entry}
      (differ : List.Forall₂ Entry.DifferInOffsets lefts rights) (resolved : Resolved)
      (holds : List Parameter → WithTop Int → Prop) :
      (∃ evaluation, registry.Evaluates lefts resolved evaluation ∧
          holds evaluation.parameters (Expiration.ofEnd evaluation.validityEnd).moment) →
        ∃ evaluation, registry.Evaluates rights resolved evaluation ∧
          holds evaluation.parameters (Expiration.ofEnd evaluation.validityEnd).moment := by
    rintro ⟨left, evaluated, found⟩
    rcases exists_evaluates_of_differInOffsets registry differ evaluated with
      ⟨right, evaluatedToo, related⟩
    rw [related.parameters, related.moment_eq] at found
    exact ⟨right, evaluatedToo, found⟩
  intro resolved holds
  refine ⟨transfers differ resolved holds, transfers ?_ resolved holds⟩
  exact differ.flip.imp fun _ _ related => related.symm

end Policy

/-! ## Suites of such policies -/

namespace Suite

/-- Policies that differ only in the offsets of their dates have suites that agree, also
where the moment that is asked about is written at different offsets. -/
theorem agreeOnMoments_of_differInOffsets (registry : Registry) {left right : Policy}
    (differ : left.DifferInOffsets right) :
    AgreeOnMoments (ofPolicy registry left) (ofPolicy registry right) :=
  agreeOnMoments_of_evaluatesAlike
    (Policy.evaluatesAlike_of_differInOffsets registry differ.entries) differ.nextUpdate

/-- A policy for SHA-256 that ends, and is due for an update, at the start of 2030. -/
def untilStartOfYear (written : Instant) : Policy :=
  { Policy.ofEntries [sha256Until written] with nextUpdate := some written }

theorem agreeOnMoments_of_startOfYear :
    (untilStartOfYear startOfYear).DifferInOffsets (untilStartOfYear startOfYearAhead) ∧
      AgreeOnMoments (ofPolicy Directory.standard.registry (untilStartOfYear startOfYear))
        (ofPolicy Directory.standard.registry (untilStartOfYear startOfYearAhead)) := by
  have sameMoment : Policy.SameMoment (some startOfYear) (some startOfYearAhead) := by
    rw [Policy.SameMoment]
    decide
  have sameEvaluation : Policy.Evaluation.DifferInOffsets ⟨some startOfYear, [], [], none⟩
      ⟨some startOfYearAhead, [], [], none⟩ := ⟨sameMoment, rfl, rfl, rfl⟩
  have sameEntry : (sha256Until startOfYear).DifferInOffsets (sha256Until startOfYearAhead) :=
    ⟨rfl, .cons sameEvaluation .nil, rfl⟩
  have differ : (untilStartOfYear startOfYear).DifferInOffsets
      (untilStartOfYear startOfYearAhead) :=
    ⟨rfl, rfl, rfl, sameMoment, rfl, rfl, rfl, rfl, .cons sameEntry .nil⟩
  exact ⟨differ, agreeOnMoments_of_differInOffsets Directory.standard.registry differ⟩

end Suite

end AlgorithmPolicy

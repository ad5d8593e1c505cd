import AlgorithmPolicy.Proofs.Acceptability.Views

/-! What of the views depends on the order of the records. The same ends may be stated in
another order, and then another one of several equally late ends may be kept, which is
written differently. Nothing else can change. -/

namespace AlgorithmPolicy.Acceptability

/-! ## Shown ends -/

/-- What ends are stated for. -/
inductive Subject
  | digest (digest : Digest)
  | signature (signature : Signature) (size : UInt32)
  | family (family : EncryptionFamily) (size : UInt32)

namespace Subject

variable (registry : Registry) (records : List Catalogue.Record)

def ends : Subject → List Expiration
  | .digest algorithm => digestEnds records algorithm
  | .signature algorithm size => directEndsAt registry records algorithm size
  | .family algorithm size => familyEndsAt registry records algorithm size

/-- Whether the latest of the ends appears in the views. The end of a family does so in a
row that it decides together with a digest that does not end before it. -/
def IsShown : Subject → Prop
  | .digest _ => True
  | .signature _ _ => True
  | .family algorithm size => ∃ made, ∃ derivation : Derivation,
      directEndsAt registry records made size = [] ∧
        derivation.Decides registry records made size ∧ derivation.family = algorithm ∧
        derivation.familyEnd.moment ≤ derivation.digestEnd.moment

end Subject

/-- The expirations in the views are the latest ends of what is shown. -/
theorem forall_rows_iff (registry : Registry) (records : List Catalogue.Record)
    (condition : Expiration → Prop) :
    ((∀ row ∈ (ofRecords registry records).digests, condition row.2) ∧
        ∀ row ∈ (ofRecords registry records).keySizes, condition row.2) ↔
      ∀ subject : Subject, subject.IsShown registry records →
        ∀ chosen, chosen.IsLatest (subject.ends registry records) → condition chosen := by
  constructor
  · rintro ⟨digests, keySizes⟩ subject shown chosen latest
    cases subject with
    | digest digest =>
        exact digests (digest, chosen) ((mem_digests_iff registry records digest chosen).mpr latest)
    | signature signature size =>
        exact keySizes (.withKeySize signature size, chosen)
          ((mem_keySizes_iff registry records signature size chosen).mpr (Or.inl latest))
    | family family size =>
        rcases shown with ⟨signature, derivation, nothing, decides, rfl, notAfter⟩
        rcases latest.unique decides.holds.familyEnd_latest with rfl
        have isEnd := Derivation.expiration_eq_familyEnd notAfter
        exact keySizes (.withKeySize signature size, derivation.familyEnd)
          ((mem_keySizes_iff registry records signature size _).mpr
            (Or.inr ⟨nothing, derivation, decides, isEnd⟩))
  · intro shown
    have digestShown : ∀ digest chosen, chosen.IsLatest (digestEnds records digest) →
        condition chosen := fun digest => shown (.digest digest) trivial
    refine ⟨?_, ?_⟩
    · intro row member
      rcases row with ⟨digest, expiration⟩
      exact digestShown digest expiration ((mem_digests_iff registry records _ _).mp member)
    · intro row member
      rcases row with ⟨identity, expiration⟩
      rcases keySize_of_mem_keySizes registry records member with ⟨size, isIdentity⟩
      rw [isIdentity, mem_keySizes_iff] at member
      rcases member with latest | ⟨nothing, derivation, decides, rfl⟩
      · exact shown (.signature identity.algorithm size) trivial expiration latest
      · by_cases before : derivation.digestEnd.moment < derivation.familyEnd.moment
        · rw [Derivation.expiration_eq_digestEnd before]
          exact digestShown derivation.digest _ decides.holds.digestEnd_latest
        · rw [Derivation.expiration_eq_familyEnd (not_lt.mp before)]
          exact shown (.family derivation.family size)
            ⟨identity.algorithm, derivation, nothing, decides, rfl, not_lt.mp before⟩ _
            decides.holds.familyEnd_latest

/-! ## The same ends in another order -/

/-- The same algorithms are named, and the same ends are stated, in whatever order. -/
structure StateSame (registry : Registry) (left right : List Catalogue.Record) : Prop where
  names_iff : ∀ resolved, Names left resolved ↔ Names right resolved
  mem_ends_iff : ∀ (subject : Subject) (expiration : Expiration),
    expiration ∈ subject.ends registry left ↔ expiration ∈ subject.ends registry right

theorem StateSame.symm {registry : Registry} {left right : List Catalogue.Record}
    (same : StateSame registry left right) : StateSame registry right left where
  names_iff resolved := (same.names_iff resolved).symm
  mem_ends_iff subject expiration := (same.mem_ends_iff subject expiration).symm

theorem stateSame_of_perm (registry : Registry) {left right : List Catalogue.Record}
    (permuted : left.Perm right) : StateSame registry left right where
  names_iff resolved := by simp only [Names, permuted.mem_iff]
  mem_ends_iff subject expiration := by
    cases subject with
    | digest digest => simp only [Subject.ends, mem_digestEnds_iff, permuted.mem_iff]
    | signature signature size =>
        simp only [Subject.ends, directEndsAt, mem_statedEnds_iff, permuted.mem_iff]
    | family family size =>
        simp only [Subject.ends, familyEndsAt, mem_statedEnds_iff, permuted.mem_iff]

/-- Derivations from the same family and digest whose ends are equally late. -/
structure Derivation.Alike (left right : Derivation) : Prop where
  family : left.family = right.family
  digest : left.digest = right.digest
  familyEnd : left.familyEnd.moment = right.familyEnd.moment
  digestEnd : left.digestEnd.moment = right.digestEnd.moment

namespace Derivation.Alike

variable {left right : Derivation}

theorem expiration (alike : left.Alike right) :
    left.expiration.moment = right.expiration.moment := by
  rw [moment_expiration, moment_expiration, alike.familyEnd, alike.digestEnd]

theorem before_iff {other another : Derivation} (alike : left.Alike right)
    (othersAlike : other.Alike another) : left.Before other ↔ right.Before another := by
  rw [Before, Before, alike.family, alike.digest, othersAlike.family, othersAlike.digest]

end Derivation.Alike

namespace StateSame

variable {registry : Registry} {left right : List Catalogue.Record}

/-- The latest end is equally late in the other order. -/
theorem exists_isLatest (same : StateSame registry left right) (subject : Subject)
    {chosen : Expiration} (latest : chosen.IsLatest (subject.ends registry left)) :
    ∃ other : Expiration, other.IsLatest (subject.ends registry right) ∧
      chosen.moment = other.moment := by
  have member := (same.mem_ends_iff subject chosen).mp latest.mem
  rcases Expiration.exists_isLatest_iff.mpr (List.ne_nil_of_mem member) with ⟨other, otherLatest⟩
  have otherMember := (same.mem_ends_iff subject other).mpr otherLatest.mem
  exact ⟨other, otherLatest,
    (otherLatest.moment_le member).antisymm (latest.moment_le otherMember)⟩

theorem ends_eq_nil_iff (same : StateSame registry left right) (subject : Subject) :
    subject.ends registry left = [] ↔ subject.ends registry right = [] := by
  simp only [List.eq_nil_iff_forall_not_mem, same.mem_ends_iff]

theorem exists_holds (same : StateSame registry left right) {signature : Signature}
    {size : UInt32} {derivation : Derivation}
    (holds : derivation.Holds registry left signature size) :
    ∃ other : Derivation, other.Holds registry right signature size ∧ derivation.Alike other := by
  rcases same.exists_isLatest (.family derivation.family size) holds.familyEnd_latest with
    ⟨familyEnd, familyLatest, sameFamilyEnd⟩
  rcases same.exists_isLatest (.digest derivation.digest) holds.digestEnd_latest with
    ⟨digestEnd, digestLatest, sameDigestEnd⟩
  exact ⟨⟨derivation.family, derivation.digest, familyEnd, digestEnd⟩,
    ⟨holds.composes, familyLatest, digestLatest⟩, rfl, rfl, sameFamilyEnd, sameDigestEnd⟩

/-- The same family and digest decide in both orders, as only moments matter. -/
theorem exists_decides (same : StateSame registry left right) {signature : Signature}
    {size : UInt32} {derivation : Derivation}
    (decides : derivation.Decides registry left signature size) :
    ∃ other : Derivation, other.Decides registry right signature size ∧
      derivation.Alike other := by
  rcases same.exists_holds decides.holds with ⟨other, otherHolds, alike⟩
  refine ⟨other, ⟨otherHolds, ?_, ?_⟩, alike⟩
  · intro third thirdHolds
    rcases same.symm.exists_holds thirdHolds with ⟨fourth, fourthHolds, thirdAlike⟩
    rw [← alike.expiration, thirdAlike.expiration]
    exact decides.latest fourth fourthHolds
  · intro third thirdHolds before
    rcases same.symm.exists_holds thirdHolds with ⟨fourth, fourthHolds, thirdAlike⟩
    have fourthAlike : fourth.Alike third :=
      ⟨thirdAlike.family.symm, thirdAlike.digest.symm, thirdAlike.familyEnd.symm,
        thirdAlike.digestEnd.symm⟩
    rw [← alike.expiration, thirdAlike.expiration]
    exact decides.last fourth fourthHolds ((alike.before_iff fourthAlike).mpr before)

theorem isShown (same : StateSame registry left right) {subject : Subject}
    (shown : subject.IsShown registry left) : subject.IsShown registry right := by
  cases subject with
  | digest digest => trivial
  | signature signature size => trivial
  | family family size =>
      rcases shown with ⟨signature, derivation, nothing, decides, rfl, notAfter⟩
      rcases same.exists_decides decides with ⟨other, otherDecides, alike⟩
      have stillNothing := (same.ends_eq_nil_iff (.signature signature size)).mp nothing
      rw [alike.familyEnd, alike.digestEnd] at notAfter
      exact ⟨signature, other, stillNothing, otherDecides, alike.family.symm, notAfter⟩

end StateSame

/-! ## When the order does not matter -/

/-- Of what is shown the same end is kept in both orders, and not only an equally late one. -/
def KeepSame (registry : Registry) (left right : List Catalogue.Record) : Prop :=
  ∀ subject : Subject, subject.IsShown registry left →
    ∀ chosen : Expiration, chosen.IsLatest (subject.ends registry left) →
      chosen.IsLatest (subject.ends registry right)

section Order

variable {registry : Registry} {left right : List Catalogue.Record}

theorem KeepSame.symm (same : StateSame registry left right)
    (keep : KeepSame registry left right) : KeepSame registry right left := by
  intro subject shown chosen latest
  rcases same.symm.exists_isLatest subject latest with ⟨other, otherLatest, -⟩
  have kept := keep subject (same.symm.isShown shown) other otherLatest
  rwa [latest.unique kept]

/-- Where equally late ends are written alike, the order does not matter. -/
theorem StateSame.keepSame (same : StateSame registry left right)
    (alike : ∀ (subject : Subject) (first second : Expiration),
      first ∈ subject.ends registry left → second ∈ subject.ends registry left →
        first.moment = second.moment → first = second) : KeepSame registry left right := by
  intro subject _ chosen latest
  rcases same.exists_isLatest subject latest with ⟨other, otherLatest, sameMoment⟩
  have otherMember := (same.mem_ends_iff subject other).mpr otherLatest.mem
  rw [alike subject chosen other latest.mem otherMember sameMoment]
  exact otherLatest

theorem digests_subset (keep : KeepSame registry left right) :
    ∀ row ∈ (ofRecords registry left).digests, row ∈ (ofRecords registry right).digests := by
  intro row member
  rcases row with ⟨digest, expiration⟩
  rw [mem_digests_iff] at member ⊢
  exact keep (.digest digest) trivial expiration member

theorem keySizes_subset (same : StateSame registry left right)
    (keep : KeepSame registry left right) :
    ∀ row ∈ (ofRecords registry left).keySizes, row ∈ (ofRecords registry right).keySizes := by
  intro row member
  rcases row with ⟨identity, expiration⟩
  rcases keySize_of_mem_keySizes registry left member with ⟨size, isIdentity⟩
  rw [isIdentity, mem_keySizes_iff] at member ⊢
  rcases member with latest | ⟨nothing, derivation, decides, rfl⟩
  · exact Or.inl (keep (.signature identity.algorithm size) trivial expiration latest)
  · rcases same.exists_decides decides with ⟨other, otherDecides, alike⟩
    have stillNothing :=
      (same.ends_eq_nil_iff (.signature identity.algorithm size)).mp nothing
    refine Or.inr ⟨stillNothing, other, otherDecides, ?_⟩
    by_cases before : derivation.digestEnd.moment < derivation.familyEnd.moment
    · have otherBefore := before
      rw [alike.familyEnd, alike.digestEnd] at otherBefore
      rw [Derivation.expiration_eq_digestEnd before,
        Derivation.expiration_eq_digestEnd otherBefore]
      have kept := keep (.digest derivation.digest) trivial _ decides.holds.digestEnd_latest
      rw [alike.digest] at kept
      exact otherDecides.holds.digestEnd_latest.unique kept
    · have notAfter := not_lt.mp before
      have otherNotAfter := notAfter
      rw [alike.familyEnd, alike.digestEnd] at otherNotAfter
      rw [Derivation.expiration_eq_familyEnd notAfter,
        Derivation.expiration_eq_familyEnd otherNotAfter]
      have kept := keep (.family derivation.family size)
        ⟨identity.algorithm, derivation, nothing, decides, rfl, notAfter⟩ _
        decides.holds.familyEnd_latest
      rw [alike.family] at kept
      exact otherDecides.holds.familyEnd_latest.unique kept

theorem mem_signatures_iff_of_stateSame (same : StateSame registry left right)
    (signature : Signature) : signature ∈ (ofRecords registry left).signatures ↔
      signature ∈ (ofRecords registry right).signatures := by
  have stated_iff : ∀ digest,
      (∃ expiration, (digest, expiration) ∈ (ofRecords registry left).digests) ↔
        ∃ expiration, (digest, expiration) ∈ (ofRecords registry right).digests := by
    intro digest
    simp only [mem_digests_iff, Expiration.exists_isLatest_iff]
    exact not_congr (same.ends_eq_nil_iff (.digest digest))
  simp only [mem_signatures_iff, same.names_iff, stated_iff]

theorem keepSame_of_ofRecords_eq (same : StateSame registry left right)
    (equal : ofRecords registry left = ofRecords registry right) :
    KeepSame registry left right := by
  intro subject shown chosen latest
  cases subject with
  | digest digest =>
      have member := (mem_digests_iff registry left digest chosen).mpr latest
      rw [equal, mem_digests_iff] at member
      exact member
  | signature signature size =>
      have member := (mem_keySizes_iff registry left signature size chosen).mpr (Or.inl latest)
      rw [equal, mem_keySizes_iff] at member
      rcases member with stillLatest | ⟨nothing, -⟩
      · exact stillLatest
      · have neverStated := (same.ends_eq_nil_iff (.signature signature size)).mpr nothing
        exact absurd neverStated (List.ne_nil_of_mem latest.mem)
  | family family size =>
      rcases shown with ⟨signature, derivation, nothing, decides, rfl, notAfter⟩
      rcases latest.unique decides.holds.familyEnd_latest with rfl
      rcases same.exists_decides decides with ⟨other, otherDecides, alike⟩
      have stillNothing := (same.ends_eq_nil_iff (.signature signature size)).mp nothing
      have row := (mem_keySizes_iff registry left signature size derivation.expiration).mpr
        (Or.inr ⟨nothing, derivation, decides, rfl⟩)
      have otherRow := (mem_keySizes_iff registry right signature size other.expiration).mpr
        (Or.inr ⟨stillNothing, other, otherDecides, rfl⟩)
      rw [equal] at row
      have sameEnd := end_unique (keySizes_ascending registry right) row otherRow
      have otherNotAfter : other.familyEnd.moment ≤ other.digestEnd.moment := by
        rwa [← alike.familyEnd, ← alike.digestEnd]
      rw [Derivation.expiration_eq_familyEnd notAfter,
        Derivation.expiration_eq_familyEnd otherNotAfter] at sameEnd
      have otherLatest := otherDecides.holds.familyEnd_latest
      rwa [← sameEnd, ← alike.family] at otherLatest

theorem ofRecords_eq_of_keepSame (same : StateSame registry left right)
    (keep : KeepSame registry left right) :
    ofRecords registry left = ofRecords registry right := by
  have keepBack := keep.symm same
  apply ofRecords_eq_of_mem_iff
  case digests => exact fun row => ⟨digests_subset keep row, digests_subset keepBack row⟩
  case signatures => exact mem_signatures_iff_of_stateSame same
  case keySizes =>
    exact fun row => ⟨keySizes_subset same keep row, keySizes_subset same.symm keepBack row⟩

/-- The views are the same in both orders exactly when the same ends are kept of all that
is shown. -/
theorem ofRecords_eq_iff (same : StateSame registry left right) :
    ofRecords registry left = ofRecords registry right ↔ KeepSame registry left right :=
  ⟨keepSame_of_ofRecords_eq same, ofRecords_eq_of_keepSame same⟩

end Order

end AlgorithmPolicy.Acceptability

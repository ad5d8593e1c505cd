import AlgorithmPolicy.Acceptability
import AlgorithmPolicy.Proofs.Acceptability.Collected

/-! What follows from the statements of a catalogue: signatures that a family and a digest
make, and until when they are acceptable. -/

namespace AlgorithmPolicy

/-- The order of pairs by their first components, and then by their second ones. -/
def Precedes {α β : Type} [Ord α] [Ord β] (left right : α × β) : Prop :=
  (compare left.1 right.1).then (compare left.2 right.2) = .lt

theorem Precedes.asymmetric {α β : Type} [Ord α] [Std.OrientedOrd α] [Ord β]
    [Std.OrientedOrd β] {left right : α × β} (precedes : Precedes left right) :
    ¬ Precedes right left := by
  have swapped : (compare right.1 left.1).then (compare right.2 left.2) =
      ((compare left.1 right.1).then (compare left.2 right.2)).swap := by
    rw [Ordering.swap_then, ← Std.OrientedOrd.eq_swap, ← Std.OrientedOrd.eq_swap]
  rw [Precedes] at precedes ⊢
  rw [swapped, precedes]
  simp

namespace Acceptability

/-! ## Derivations -/

/-- A family and a digest, each with an end. -/
structure Derivation where
  family : EncryptionFamily
  digest : Digest
  familyEnd : Expiration
  digestEnd : Expiration

namespace Derivation

/-- The earlier of the two ends, and that of the family where they are equally early. -/
def expiration (derivation : Derivation) : Expiration :=
  derivation.familyEnd.earliest derivation.digestEnd

/-- By family, and then by digest. -/
def Before (left right : Derivation) : Prop :=
  Precedes (left.family, left.digest) (right.family, right.digest)

/-- The two make a signature, and their ends are the latest that are stated: that of the
family at a key size, and that of the digest. -/
structure Holds (registry : Registry) (records : List Catalogue.Record) (signature : Signature)
    (size : UInt32) (derivation : Derivation) : Prop where
  composes : registry.compose? derivation.family derivation.digest = some signature
  familyEnd_latest :
    derivation.familyEnd.IsLatest (familyEndsAt registry records derivation.family size)
  digestEnd_latest : derivation.digestEnd.IsLatest (digestEnds records derivation.digest)

/-- No derivation of the signature at the key size ends later, and none that comes after
it ends as late. -/
structure Decides (registry : Registry) (records : List Catalogue.Record) (signature : Signature)
    (size : UInt32) (derivation : Derivation) : Prop where
  holds : derivation.Holds registry records signature size
  latest : ∀ other : Derivation, other.Holds registry records signature size →
    other.expiration.moment ≤ derivation.expiration.moment
  last : ∀ other : Derivation, other.Holds registry records signature size →
    derivation.Before other → other.expiration.moment < derivation.expiration.moment

theorem moment_expiration (derivation : Derivation) :
    derivation.expiration.moment =
      min derivation.familyEnd.moment derivation.digestEnd.moment :=
  Expiration.moment_earliest _ _

theorem expiration_eq_digestEnd {derivation : Derivation}
    (before : derivation.digestEnd.moment < derivation.familyEnd.moment) :
    derivation.expiration = derivation.digestEnd :=
  (Expiration.earliest_eq _ _).trans (if_pos before)

theorem expiration_eq_familyEnd {derivation : Derivation}
    (notAfter : derivation.familyEnd.moment ≤ derivation.digestEnd.moment) :
    derivation.expiration = derivation.familyEnd :=
  (Expiration.earliest_eq _ _).trans (if_neg (not_lt.mpr notAfter))

end Derivation

namespace Collection

variable (registry : Registry) (collection : Collection)

theorem mem_addComposed_iff (digests : Ends Digest) (signatures : Std.TreeSet Signature)
    (family : EncryptionFamily) (signature : Signature) :
    signature ∈ addComposed registry digests signatures family ↔
      signature ∈ signatures ∨
        ∃ row ∈ digests.toList, registry.compose? family row.1 = some signature := by
  rw [addComposed, Std.TreeMap.foldl_eq_foldl_toList]
  induction digests.toList generalizing signatures with
  | nil => simp
  | cons row rest induction =>
      rw [List.foldl_cons, induction]
      cases made : registry.compose? family row.1 with
      | none => simp [made]
      | some found => simp [made, Std.TreeSet.mem_insert, or_assoc, or_left_comm]

theorem mem_allSignatures_iff (signature : Signature) :
    signature ∈ collection.allSignatures registry ↔
      signature ∈ collection.signatures ∨
        ∃ family ∈ collection.families, ∃ row ∈ collection.digests.toList,
          registry.compose? family row.1 = some signature := by
  simp only [allSignatures, Std.TreeSet.foldl_eq_foldl_toList,
    ← Std.TreeSet.mem_toList (t := collection.families)]
  generalize collection.signatures = start
  induction collection.families.toList generalizing start with
  | nil => simp
  | cons family rest induction =>
      rw [List.foldl_cons, induction, mem_addComposed_iff]
      simp only [List.mem_cons, exists_eq_or_imp, or_assoc]

/-- A row of the families with a row of the digests. -/
abbrev Pair : Type :=
  (Identity EncryptionFamily × Expiration) × (Digest × Expiration)

/-- All pairs of rows, in the order in which they are looked at. -/
def pairs : List Pair :=
  collection.familyEnds.toList.flatMap fun familyRow =>
    collection.digests.toList.map fun digestRow => (familyRow, digestRow)

/-- The end of a signature that a pair of rows gives, if the two make one. -/
def derived? (pair : Pair) : Option (Identity Signature × Expiration) :=
  (registry.compose? pair.1.1.algorithm pair.2.1).map fun signature =>
    (⟨signature, pair.1.1.keySize⟩, pair.1.2.earliest pair.2.2)

theorem derivedEnds_eq :
    collection.derivedEnds registry =
      Ends.addAll ∅ (collection.pairs.filterMap (derived? registry)) := by
  rw [derivedEnds, Std.TreeMap.foldl_eq_foldl_toList, Ends.addAll, List.foldl_filterMap, pairs,
    List.foldl_flatMap]
  congr 1
  funext derived familyRow
  rw [addDerivedEnds, Std.TreeMap.foldl_eq_foldl_toList, List.foldl_map]
  congr 1
  funext derived digestRow
  cases made : registry.compose? familyRow.1.algorithm digestRow.1 <;>
    simp [derived?, made]

theorem getElem?_derivedEnds (identity : Identity Signature) :
    (collection.derivedEnds registry)[identity]? =
      Expiration.latest?
        (endsOf (collection.pairs.filterMap (derived? registry)) identity) := by
  rw [derivedEnds_eq, Ends.getElem?_addAll]
  simp

/-- A direct end stands, and a derived one only where there is no direct one. -/
theorem getElem?_allSignatureEnds (identity : Identity Signature) :
    (collection.allSignatureEnds registry).1[identity]? =
      (collection.signatureEnds[identity]?).or
        (collection.derivedEnds registry)[identity]? := by
  have rows : ∀ (rows : List (Identity Signature × Expiration))
      (state : Ends (Identity Signature) × Array Diagnostic),
      (rows.foldl (fun state row => addDerived state row.1 row.2) state).1[identity]? =
        (state.1[identity]?).or (rows.lookup identity) := by
    intro rows
    induction rows with
    | nil => simp
    | cons row rest induction =>
        intro state
        rcases row with ⟨key, expiration⟩
        rw [List.foldl_cons, induction, addDerived]
        by_cases same : identity = key
        · subst same
          cases present : state.1[identity]? with
          | none => simp [Std.TreeMap.contains_eq_isSome_getElem?, present]
          | some current => simp [Std.TreeMap.contains_eq_isSome_getElem?, present]
        · have unequal : (identity == key) = false := beq_eq_false_iff_ne.mpr same
          have kept : (state.1.insert key expiration)[identity]? = state.1[identity]? := by
            simp [Std.TreeMap.getElem?_insert, Ne.symm same]
          rw [List.lookup_cons, unequal]
          split <;> simp [kept]
  rw [allSignatureEnds, Std.TreeMap.foldl_eq_foldl_toList, rows, lookup_toList]

/-! ## Derived ends -/

theorem mem_pairs_iff (pair : Pair) :
    pair ∈ collection.pairs ↔
      collection.familyEnds[pair.1.1]? = some pair.1.2 ∧
        collection.digests[pair.2.1]? = some pair.2.2 := by
  rcases pair with ⟨⟨identity, familyEnd⟩, digest, digestEnd⟩
  simp [pairs]

theorem pairs_sorted :
    collection.pairs.Pairwise fun left right =>
      Precedes (left.1.1, left.2.1) (right.1.1, right.2.1) := by
  have familyRows := collection.familyEnds.ordered_keys_toList
  have digestRows := collection.digests.ordered_keys_toList
  refine List.pairwise_flatMap.mpr ⟨?_, ?_⟩
  · intro familyRow _
    refine List.pairwise_map.mpr (digestRows.imp ?_)
    intro left right before
    rw [Precedes, Std.ReflOrd.compare_self]
    exact before
  · refine familyRows.imp ?_
    intro left right before leftPair leftMember rightPair rightMember
    rcases List.mem_map.mp leftMember with ⟨_, -, rfl⟩
    rcases List.mem_map.mp rightMember with ⟨_, -, rfl⟩
    rw [Precedes, before]
    rfl

/-- The derivation that a pair of rows stands for. -/
def Pair.derivation (pair : Pair) : Derivation :=
  ⟨pair.1.1.algorithm, pair.2.1, pair.1.2, pair.2.2⟩

/-- The pair of rows in which a derivation at a key size is found. -/
def Pair.ofDerivation (size : UInt32) (derivation : Derivation) : Pair :=
  ((.withKeySize derivation.family size, derivation.familyEnd),
    (derivation.digest, derivation.digestEnd))

theorem Pair.ofDerivation_precedes_iff (size : UInt32) (left right : Derivation) :
    Precedes ((ofDerivation size left).1.1, (ofDerivation size left).2.1)
        ((ofDerivation size right).1.1, (ofDerivation size right).2.1) ↔
      left.Before right := by
  have sameSize : Identity.compareKeySize (some size) (some size) = .eq :=
    Std.ReflOrd.compare_self
  simp only [Precedes, Derivation.Before, ofDerivation, Identity.withKeySize,
    Identity.compare_eq, sameSize, Ordering.then_eq]
  rfl

/-- The end that a pair of rows gives for an identity. -/
def Pair.endFor? (identity : Identity Signature) (pair : Pair) : Option Expiration :=
  (derived? registry pair).bind fun row => if row.1 = identity then some row.2 else none

theorem endsOf_pairs_eq (identity : Identity Signature) :
    endsOf (collection.pairs.filterMap (derived? registry)) identity =
      collection.pairs.filterMap (Pair.endFor? registry identity) := by
  rw [endsOf, List.filterMap_filterMap]
  rfl

theorem Pair.endFor?_eq_some_iff (identity : Identity Signature) (pair : Pair)
    (expiration : Expiration) :
    pair.endFor? registry identity = some expiration ↔
      registry.compose? pair.derivation.family pair.derivation.digest =
          some identity.algorithm ∧
        pair.1.1.keySize = identity.keySize ∧ pair.derivation.expiration = expiration := by
  have sameExpiration : pair.1.2.earliest pair.2.2 = pair.derivation.expiration := rfl
  rcases identity with ⟨signature, keySize⟩
  simp only [Pair.endFor?, derived?, Option.bind_map, Option.bind_eq_some_iff,
    Function.comp_apply, Option.ite_none_right_eq_some, Option.some_inj, Identity.mk.injEq,
    sameExpiration]
  constructor
  · rintro ⟨made, composes, ⟨rfl, sameSize⟩, rfl⟩
    exact ⟨composes, sameSize, rfl⟩
  · rintro ⟨composes, sameSize, rfl⟩
    exact ⟨signature, composes, ⟨rfl, sameSize⟩, rfl⟩

end Collection

namespace Collects

open Collection

variable {registry : Registry} {records : List Catalogue.Record} {collection : Collection}

/-- The pairs of rows that give an end for a signature at a key size are the derivations
that hold. -/
theorem mem_pairs_and_endFor?_iff (collects : Collects registry records collection)
    (signature : Signature) (size : UInt32) (pair : Pair) (expiration : Expiration) :
    pair ∈ collection.pairs ∧
        pair.endFor? registry (.withKeySize signature size) = some expiration ↔
      pair = .ofDerivation size pair.derivation ∧
        pair.derivation.Holds registry records signature size ∧
        pair.derivation.expiration = expiration := by
  rcases pair with ⟨⟨⟨family, keySize⟩, familyEnd⟩, digest, digestEnd⟩
  rw [mem_pairs_iff, Pair.endFor?_eq_some_iff]
  constructor
  · rintro ⟨⟨familyRow, digestRow⟩, composes, rfl, sameExpiration⟩
    have familyLatest := (collects.familyEnds_eq family size).symm.trans familyRow
    have digestLatest := (collects.digests_eq digest).symm.trans digestRow
    exact ⟨rfl, ⟨composes, Expiration.latest?_eq_some_iff.mp familyLatest,
      Expiration.latest?_eq_some_iff.mp digestLatest⟩, sameExpiration⟩
  · rintro ⟨samePair, holds, sameExpiration⟩
    obtain rfl : keySize = some size := congrArg (·.1.1.keySize) samePair
    refine ⟨⟨?_, ?_⟩, holds.composes, rfl, sameExpiration⟩
    · exact (collects.familyEnds_eq family size).trans
        (Expiration.latest?_eq_some_iff.mpr holds.familyEnd_latest)
    · exact (collects.digests_eq digest).trans
        (Expiration.latest?_eq_some_iff.mpr holds.digestEnd_latest)

/-- The derived end of a signature at a key size is that of the deciding derivation. -/
theorem getElem?_derivedEnds_eq_some_iff (collects : Collects registry records collection)
    (signature : Signature) (size : UInt32) (expiration : Expiration) :
    (collection.derivedEnds registry)[Identity.withKeySize signature size]? =
        some expiration ↔
      ∃ derivation : Derivation, derivation.Decides registry records signature size ∧
        derivation.expiration = expiration := by
  rw [getElem?_derivedEnds, endsOf_pairs_eq, Expiration.latest?_eq_some_iff,
    Expiration.isLatest_filterMap_iff collection.pairs_sorted Precedes.asymmetric]
  have found_iff := collects.mem_pairs_and_endFor?_iff signature size
  constructor
  · rintro ⟨pair, member, found, greatest⟩
    rcases (found_iff pair expiration).mp ⟨member, found⟩ with ⟨samePair, holds, rfl⟩
    have compared : ∀ other : Derivation, other.Holds registry records signature size →
        other.expiration.moment ≤ pair.derivation.expiration.moment ∧
          (pair.derivation.Before other →
            other.expiration.moment < pair.derivation.expiration.moment) := by
      intro other otherHolds
      rcases (found_iff (.ofDerivation size other) other.expiration).mpr ⟨rfl, otherHolds, rfl⟩ with
        ⟨otherMember, otherFound⟩
      have bounds := greatest _ otherMember _ otherFound
      rw [samePair, Pair.ofDerivation_precedes_iff] at bounds
      exact bounds
    exact ⟨pair.derivation,
      ⟨holds, fun other otherHolds => (compared other otherHolds).1,
        fun other otherHolds => (compared other otherHolds).2⟩, rfl⟩
  · rintro ⟨derivation, decides, rfl⟩
    rcases (found_iff (.ofDerivation size derivation) derivation.expiration).mpr
        ⟨rfl, decides.holds, rfl⟩ with ⟨member, found⟩
    refine ⟨_, member, found, ?_⟩
    intro other otherMember otherEnd otherFound
    rcases (found_iff other otherEnd).mp ⟨otherMember, otherFound⟩ with ⟨samePair, otherHolds, rfl⟩
    refine ⟨decides.latest _ otherHolds, ?_⟩
    intro precedes
    rw [samePair, Pair.ofDerivation_precedes_iff] at precedes
    exact decides.last _ otherHolds precedes

/-- Nothing is derived without a key size. -/
theorem getElem?_derivedEnds_keyless (collects : Collects registry records collection)
    (signature : Signature) :
    (collection.derivedEnds registry)[Identity.keyless signature]? = none := by
  rw [getElem?_derivedEnds, endsOf_pairs_eq, Expiration.latest?_eq_none_iff,
    List.filterMap_eq_nil_iff]
  rintro ⟨⟨⟨family, keySize⟩, familyEnd⟩, digestRow⟩ member
  have familyRow := ((mem_pairs_iff collection _).mp member).1
  rw [Option.eq_none_iff_forall_ne_some]
  intro expiration found
  rcases (Pair.endFor?_eq_some_iff registry _ _ _).mp found with ⟨-, rfl, -⟩
  cases (collects.familyEnds_keyless family).symm.trans familyRow

/-- Where a signature can be derived at a key size at all, one derivation decides. -/
theorem exists_decides_iff (collects : Collects registry records collection)
    (signature : Signature) (size : UInt32) :
    (∃ derivation : Derivation, derivation.Decides registry records signature size) ↔
      ∃ derivation : Derivation, derivation.Holds registry records signature size := by
  constructor
  · rintro ⟨derivation, decides⟩
    exact ⟨derivation, decides.holds⟩
  · rintro ⟨derivation, holds⟩
    rcases (collects.mem_pairs_and_endFor?_iff signature size (.ofDerivation size derivation)
        derivation.expiration).mpr ⟨rfl, holds, rfl⟩ with ⟨member, found⟩
    cases derived : (collection.derivedEnds registry)[Identity.withKeySize signature size]? with
    | none =>
        rw [getElem?_derivedEnds, endsOf_pairs_eq, Expiration.latest?_eq_none_iff,
          List.filterMap_eq_nil_iff] at derived
        cases (derived _ member).symm.trans found
    | some expiration =>
        rcases (collects.getElem?_derivedEnds_eq_some_iff signature size expiration).mp derived with
          ⟨decider, decides, -⟩
        exact ⟨decider, decides⟩

end Collects

end Acceptability

end AlgorithmPolicy

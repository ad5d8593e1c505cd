import AlgorithmPolicy.Proofs.Acceptability.Order
import AlgorithmPolicy.Proofs.Registry.Listing
import AlgorithmPolicy.Proofs.Suite.Snapshot

/-! Whether the fingerprint of a suite depends on the order of the entries of its policy. It
does where several ends of one algorithm denote the same moment, but are written at different
offsets: the entry that comes last decides how the end is written, and so what is hashed. -/

namespace AlgorithmPolicy.Suite

open Acceptability

/-! ## Snapshots of policies -/

/-- What a snapshot shows of views tells the views. -/
def viewsOf (snapshot : Snapshot) : Acceptability where
  digests := snapshot.digests.map fun row => (row.algorithm, row.expiration)
  signatures := snapshot.signatures
  keySizes := snapshot.keySizes.map fun row =>
    (.withKeySize row.algorithm row.minKeySize, row.expiration)

theorem viewsOf_snapshot (registry : Registry) (policy : Policy) :
    viewsOf (ofPolicy registry policy).snapshot = (ofPolicy registry policy).acceptability := by
  have digests : (viewsOf (ofPolicy registry policy).snapshot).digests =
      (ofPolicy registry policy).acceptability.digests := by
    rw [viewsOf, snapshot, List.map_map]
    exact List.map_id _
  have keySizes : (viewsOf (ofPolicy registry policy).snapshot).keySizes =
      (ofPolicy registry policy).acceptability.keySizes := by
    dsimp only [viewsOf, snapshot, keySizeExpirations]
    rw [List.map_map, List.map_map]
    conv_rhs => rw [← List.map_id (ofPolicy registry policy).acceptability.keySizes]
    refine List.map_congr_left ?_
    intro row member
    rcases row with ⟨identity, expiration⟩
    rcases keySize_of_mem_keySizes registry _ member with ⟨size, isIdentity⟩
    rw [isIdentity]
    rfl
  exact congr_arg₂ (fun digests keySizes =>
    (⟨digests, (ofPolicy registry policy).acceptability.signatures, keySizes⟩ : Acceptability))
    digests keySizes

/-- The dates of a policy, and the ends that its suite shows, can all be written. -/
structure ShowsWritable (registry : Registry) (policy : Policy) : Prop where
  issueDate : ∀ date ∈ policy.issueDate, date.IsWritable
  nextUpdate : ∀ date ∈ policy.nextUpdate, date.IsWritable
  ends : ∀ subject : Subject,
    subject.IsShown registry (Catalogue.ofPolicy registry policy).records →
      ∀ chosen : Expiration,
        chosen.IsLatest (subject.ends registry (Catalogue.ofPolicy registry policy).records) →
          chosen.IsWritable

theorem isWritable_snapshot_iff (registry : Registry) (policy : Policy) :
    (ofPolicy registry policy).snapshot.IsWritable ↔ ShowsWritable registry policy := by
  have rows := forall_rows_iff registry (Catalogue.ofPolicy registry policy).records
    Expiration.IsWritable
  have digests_iff : (∀ row ∈ (ofPolicy registry policy).snapshot.digests,
      row.expiration.IsWritable) ↔
        ∀ row ∈ (ofPolicy registry policy).acceptability.digests, row.2.IsWritable :=
    List.forall_mem_map
  have keySizes_iff : (∀ row ∈ (ofPolicy registry policy).snapshot.keySizes,
      row.expiration.IsWritable) ↔
        ∀ row ∈ (ofPolicy registry policy).acceptability.keySizes, row.2.IsWritable :=
    List.forall_mem_map.trans List.forall_mem_map
  constructor
  · rintro ⟨issueDate, nextUpdate, digests, keySizes⟩
    exact ⟨issueDate, nextUpdate,
      rows.mp ⟨digests_iff.mp digests, keySizes_iff.mp keySizes⟩⟩
  · rintro ⟨issueDate, nextUpdate, ends⟩
    rcases rows.mpr ends with ⟨digests, keySizes⟩
    exact ⟨issueDate, nextUpdate, digests_iff.mpr digests, keySizes_iff.mpr keySizes⟩

/-! ## Two entries for one digest -/

/-- The start of the year 2030 in UTC. -/
def startOfYear : Instant where
  date := ⟨2030, 1, 1, by decide, by decide⟩
  time := ⟨0, 0, 0, 0, by decide⟩
  offset := .utc

/-- The same moment, where clocks are an hour ahead. -/
def startOfYearAhead : Instant where
  date := ⟨2030, 1, 1, by decide, by decide⟩
  time := ⟨1, 0, 0, 0, by decide⟩
  offset := ⟨3600, by decide⟩

def sha256Until (last : Instant) : Policy.Entry where
  identifier := .named "SHA-256"
  evaluations := [⟨some last, [], [], none⟩]
  information := []

theorem resolve_sha256 :
    Directory.standard.registry.resolve (.named "SHA-256") = .digest .sha256 := by
  have normal : Name.normalize "SHA-256" = "SHA256" := by decide +kernel
  have named : Directory.standard.resolveName? "SHA-256" = some (.digest .sha256) := by
    rw [Directory.resolveName?, normal, if_neg (by decide), Directory.standard,
      Listing.find?_enterAll]
    decide +kernel
  simp only [Directory.registry, Directory.resolve, Policy.Identifier.named, List.findSome?_nil,
    Option.none_or, named, Option.getD_some]

/-- Of two entries for one digest the snapshot shows the later end, as the second entry
writes it if both are equally late. -/
theorem snapshot_of_two_entries (first second : Instant) :
    (ofPolicy Directory.standard.registry
        (.ofEntries [sha256Until first, sha256Until second])).snapshot =
      { metadata := .ofPolicy (.ofEntries [])
        digests := [⟨.sha256, (Expiration.at first).latest (.at second)⟩]
        signatures := []
        keySizes := [] } := by
  simp only [snapshot, ofPolicy, Catalogue.ofPolicy, Policy.ofEntries, List.map_cons,
    List.map_nil, sha256Until, Catalogue.Record.ofEntry, resolve_sha256]
  rfl

theorem isWritable_of_two_entries :
    (ofPolicy Directory.standard.registry
      (.ofEntries [sha256Until startOfYear, sha256Until startOfYearAhead])).snapshot.IsWritable
    := by
  rw [snapshot_of_two_entries]
  refine ⟨by rintro _ ⟨⟩, by rintro _ ⟨⟩, ?_, by simp⟩
  intro row member
  rw [List.mem_singleton.mp member]
  intro last isLast
  rcases Expiration.at.inj isLast with rfl
  rw [Instant.IsWritable]
  decide

/-! ## Permuted entries -/

section Permuted

variable (registry : Registry) (policy : Policy) {entries : List Policy.Entry}

theorem snapshot_eq_iff_of_perm (permuted : policy.entries.Perm entries) :
    (ofPolicy registry policy).snapshot = (ofPolicy registry { policy with entries }).snapshot ↔
      KeepSame registry (Catalogue.ofPolicy registry policy).records
        (Catalogue.ofPolicy registry { policy with entries }).records := by
  have stateSame := stateSame_of_perm registry (permuted.map (Catalogue.Record.ofEntry registry))
  refine Iff.trans ?_ (ofRecords_eq_iff stateSame)
  constructor
  · intro same
    have sameViews := congrArg viewsOf same
    rw [viewsOf_snapshot, viewsOf_snapshot] at sameViews
    exact sameViews
  · intro sameViews
    have sameSuite : (ofPolicy registry policy).acceptability =
        (ofPolicy registry { policy with entries }).acceptability := sameViews
    rw [snapshot, snapshot, keySizeExpirations, keySizeExpirations, sameSuite]
    rfl

/-- Permuted entries give the same text to hash, or none in both cases, exactly when of all
that is shown the last of the latest ends is written the same in both orders, or when each
order shows a date that cannot be written. Then their fingerprints are the same. -/
theorem canonicalText_eq_iff_of_perm (permuted : policy.entries.Perm entries) :
    ((ofPolicy registry policy).snapshot.canonicalText.toOption =
        (ofPolicy registry { policy with entries }).snapshot.canonicalText.toOption ↔
      KeepSame registry (Catalogue.ofPolicy registry policy).records
          (Catalogue.ofPolicy registry { policy with entries }).records ∨
        ¬ ShowsWritable registry policy ∧ ¬ ShowsWritable registry { policy with entries }) ∧
      ((ofPolicy registry policy).snapshot.canonicalText.toOption =
          (ofPolicy registry { policy with entries }).snapshot.canonicalText.toOption →
        (ofPolicy registry policy).fingerprint.toOption =
          (ofPolicy registry { policy with entries }).fingerprint.toOption) := by
  constructor
  · rw [Snapshot.toOption_canonicalText_eq_iff, snapshot_eq_iff_of_perm registry policy permuted,
      isWritable_snapshot_iff, isWritable_snapshot_iff]
  · intro sameText
    rw [fingerprint, fingerprint, Snapshot.toOption_fingerprint, Snapshot.toOption_fingerprint,
      sameText]

/-- Where equally late ends are written alike, permuted entries have the same fingerprint. -/
theorem fingerprint_eq_of_perm (permuted : policy.entries.Perm entries)
    (alike : ∀ (subject : Subject) (first second : Expiration),
      first ∈ subject.ends registry (Catalogue.ofPolicy registry policy).records →
        second ∈ subject.ends registry (Catalogue.ofPolicy registry policy).records →
          first.moment = second.moment → first = second) :
    (ofPolicy registry policy).fingerprint =
      (ofPolicy registry { policy with entries }).fingerprint := by
  have stateSame := stateSame_of_perm registry (permuted.map (Catalogue.Record.ofEntry registry))
  have sameSnapshot := (snapshot_eq_iff_of_perm registry policy permuted).mpr
    (stateSame.keepSame alike)
  rw [fingerprint, fingerprint, sameSnapshot]

end Permuted

theorem canonicalText_eq_iff_of_swapped_entries :
    [sha256Until startOfYear, sha256Until startOfYearAhead].Perm
        [sha256Until startOfYearAhead, sha256Until startOfYear] ∧
      ((ofPolicy Directory.standard.registry (.ofEntries
          [sha256Until startOfYear, sha256Until startOfYearAhead])).snapshot.canonicalText.toOption
        = (ofPolicy Directory.standard.registry (.ofEntries
          [sha256Until startOfYearAhead, sha256Until startOfYear])).snapshot.canonicalText.toOption
        ↔ KeepSame Directory.standard.registry
            (Catalogue.ofPolicy Directory.standard.registry (.ofEntries
              [sha256Until startOfYear, sha256Until startOfYearAhead])).records
            (Catalogue.ofPolicy Directory.standard.registry (.ofEntries
              [sha256Until startOfYearAhead, sha256Until startOfYear])).records ∨
          ¬ ShowsWritable Directory.standard.registry (.ofEntries
              [sha256Until startOfYear, sha256Until startOfYearAhead]) ∧
            ¬ ShowsWritable Directory.standard.registry (.ofEntries
              [sha256Until startOfYearAhead, sha256Until startOfYear])) :=
  ⟨List.Perm.swap _ _ _,
    (canonicalText_eq_iff_of_perm Directory.standard.registry
      (.ofEntries [sha256Until startOfYear, sha256Until startOfYearAhead])
      (List.Perm.swap _ _ _)).1⟩

/-- Two entries for SHA-256 end at the same moment, written at two offsets. When they change
places, another text is hashed. -/
theorem canonicalText_of_swapped_entries_ne :
    [sha256Until startOfYear, sha256Until startOfYearAhead].Perm
        [sha256Until startOfYearAhead, sha256Until startOfYear] ∧
      (ofPolicy Directory.standard.registry (.ofEntries
          [sha256Until startOfYear, sha256Until startOfYearAhead])).snapshot.canonicalText.toOption
        ≠ (ofPolicy Directory.standard.registry (.ofEntries
          [sha256Until startOfYearAhead, sha256Until startOfYear])).snapshot.canonicalText.toOption
    := by
  refine ⟨List.Perm.swap _ _ _, ?_⟩
  rw [ne_eq, Snapshot.toOption_canonicalText_eq_iff]
  rintro (same | ⟨unwritable, -⟩)
  · rw [snapshot_of_two_entries, snapshot_of_two_entries] at same
    have sameRows := congrArg Snapshot.digests same
    revert sameRows
    decide
  · exact unwritable isWritable_of_two_entries

end AlgorithmPolicy.Suite

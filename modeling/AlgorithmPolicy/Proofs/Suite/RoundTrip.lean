import AlgorithmPolicy.Diagnostic.Encoding
import AlgorithmPolicy.Level.Encoding
import AlgorithmPolicy.Proofs.Catalogue.RoundTrip
import AlgorithmPolicy.Proofs.Suite.EntryOrder

/-! All that is kept in JSON is read back as it was written. -/

namespace AlgorithmPolicy

open Json Json.Reader

section Values

variable {room : Nat}

/-! ## Levels and identities -/

theorem Setting.readsBack (setting : Setting) :
    ReadsBack Setting.reader (room + 1) setting.toJson setting := by
  cases setting with
  | pinned level =>
      exact Adjacent.readsBack (by decide) ((readsBack_label level).map Setting.pinned)
        ((readsBack_heldLabel level).map Setting.pinned) (canBeHeld_string room _)
  | inherits => exact Adjacent.readsBack_bare rfl

theorem Identity.readsBack {α : Type} [Labelled α] (identity : Identity α) :
    ReadsBack Identity.reader (room + 1) identity.toJson identity := by
  refine Declaration.readsBack rfl (by decide) fun record holds => ?_
  have algorithm : record.Reads "algorithm" _ _ :=
    holds (by simp) (readsBack_label identity.algorithm)
  have keySize : record.Reads "key_size" _ _ :=
    holds (by simp) (readsBack_ofOption readsBack_uint32 nofun identity.keySize)
  rw [algorithm.required, keySize.implied]
  rfl

/-! ## Reports -/

theorem Violation.readsBack (violation : Violation) :
    ReadsBack Violation.reader (room + 1) violation.toJson violation := by
  refine Declaration.readsBack rfl (by decide) fun record holds => ?_
  have category : record.Reads "category" _ _ :=
    holds List.mem_cons_self (readsBack_label violation.category)
  have level : record.Reads "level" _ _ :=
    holds (List.mem_cons_of_mem _ List.mem_cons_self) (readsBack_label violation.level)
  have message : record.Reads "message" _ _ :=
    holds (by simp) (readsBack_string violation.message)
  rw [category.required, level.required, message.required]
  rfl

theorem Report.readsBack (report : Report) :
    ReadsBack Report.reader (room + 3) report.toJson report := by
  refine Declaration.readsBack rfl (by decide) fun record holds => ?_
  have violations : record.Reads "violations" _ _ :=
    holds List.mem_cons_self (readsBack_map Violation.readsBack report.violations)
  rw [violations.required]
  rfl

/-! ## Snapshots -/

theorem Snapshot.DigestRow.readsBack {row : DigestRow} {json : Json}
    (written : row.toJson = .ok json) : ReadsBack DigestRow.reader (room + 1) json row := by
  rcases Except.bind_eq_ok_iff.mp written with ⟨endJson, endWritten, isJson⟩
  rcases Except.ok.inj isJson with rfl
  refine Declaration.readsBack rfl (by decide) fun record holds => ?_
  have algorithm : record.Reads "algorithm" _ _ := holds (by simp) (readsBack_label row.algorithm)
  have expiration : record.Reads "expiration" _ _ :=
    holds (by simp) (Expiration.readsBack endWritten)
  rw [algorithm.required, expiration.implied]
  rfl

theorem Snapshot.KeySizeRow.readsBack {row : KeySizeRow} {json : Json}
    (written : row.toJson = .ok json) : ReadsBack KeySizeRow.reader (room + 1) json row := by
  rcases Except.bind_eq_ok_iff.mp written with ⟨endJson, endWritten, isJson⟩
  rcases Except.ok.inj isJson with rfl
  refine Declaration.readsBack rfl (by decide) fun record holds => ?_
  have algorithm : record.Reads "algorithm" _ _ := holds (by simp) (readsBack_label row.algorithm)
  have minKeySize : record.Reads "min_key_size" _ _ :=
    holds (by simp) (readsBack_uint32 row.minKeySize)
  have expiration : record.Reads "expiration" _ _ :=
    holds (by simp) (Expiration.readsBack endWritten)
  rw [algorithm.required, minKeySize.required, expiration.implied]
  rfl

theorem Snapshot.readsBack {snapshot : Snapshot} {json : Json}
    (written : snapshot.toJson = .ok json) :
    ReadsBack Snapshot.reader (room + 3) json snapshot := by
  rcases Except.bind_eq_ok_iff.mp written with ⟨metadataJson, metadataWritten, more⟩
  rcases Except.bind_eq_ok_iff.mp more with ⟨digestJsons, digestsWritten, more⟩
  rcases Except.bind_eq_ok_iff.mp more with ⟨sizeJsons, sizesWritten, isJson⟩
  rcases Except.ok.inj isJson with rfl
  refine Declaration.readsBack rfl (by decide) fun record holds => ?_
  have metadata : record.Reads "metadata" _ _ :=
    holds (by simp) (Catalogue.Metadata.readsBack metadataWritten)
  have digests : record.Reads "digests" _ _ :=
    holds (by simp) (readsBack_mapM (fun _ _ => DigestRow.readsBack) digestsWritten)
  have signatures : record.Reads "signatures" _ _ :=
    holds (by simp [ofStrings]) (readsBack_map readsBack_label snapshot.signatures)
  have keySizes : record.Reads "signature_key_sizes" _ _ :=
    holds (by simp) (readsBack_mapM (fun _ _ => KeySizeRow.readsBack) sizesWritten)
  rw [metadata.required, digests.required, signatures.required, keySizes.required]
  rfl

/-! ## Diagnostics -/

theorem Exclusion.readsBack (exclusion : Exclusion) :
    ReadsBack Exclusion.internal.readHeld (room + 1) exclusion.toJson exclusion := by
  cases exclusion with
  | missingMinimum parameter =>
      have isRecord : internal.readFields .missingMinimum =
          (declaration .missingMinimum).readAhead fun record =>
            .missingMinimum <$> record.required "parameter" string := rfl
      refine Internal.readsBack _ (heldFieldLabel_label Reason.missingMinimum) isRecord rfl
        (by decide) ?_ fun record holds => ?_
      · simpa using canBeHeld_string room parameter
      · have isParameter : record.Reads "parameter" _ _ :=
          holds (by simp) (readsBack_string parameter)
        rw [isParameter.required]
        rfl
  | keySizeOutOfRange parameter min =>
      have isRecord : internal.readFields .keySizeOutOfRange =
          (declaration .keySizeOutOfRange).readAhead fun record =>
            .keySizeOutOfRange <$> record.required "parameter" string
              <*> record.required "min" int64 := rfl
      refine Internal.readsBack _ (heldFieldLabel_label Reason.keySizeOutOfRange) isRecord rfl
        (by decide) ?_ fun record holds => ?_
      · simpa using ⟨canBeHeld_string room parameter, canBeHeld_int64 room min⟩
      · have isParameter : record.Reads "parameter" _ _ :=
          holds (by simp) (readsBack_string parameter)
        have isMin : record.Reads "min" _ _ := holds (by simp) (readsBack_int64 min)
        rw [isParameter.required, isMin.required]
        rfl

theorem Exclusion.canBeHeld (exclusion : Exclusion) :
    CanBeHeld (room + 1) exclusion.toJson := by
  cases exclusion with
  | missingMinimum parameter =>
      refine canBeHeld_object ?_
      simpa using ⟨canBeHeld_string room _, canBeHeld_string room parameter⟩
  | keySizeOutOfRange parameter min =>
      refine canBeHeld_object ?_
      simpa using ⟨canBeHeld_string room _, canBeHeld_string room parameter,
        canBeHeld_int64 room min⟩

/-- Places in a catalogue are numbers of 64 bits. -/
def Diagnostic.IsPlaced : Diagnostic → Prop
  | .unresolved index _ => index < 18446744073709551616
  | .excluded index evaluation _ _ =>
      index < 18446744073709551616 ∧ evaluation < 18446744073709551616
  | .shadowed _ _ => True

theorem Diagnostic.readsBack {diagnostic : Diagnostic} (placed : diagnostic.IsPlaced) :
    ReadsBack Diagnostic.reader (room + 2) diagnostic.toJson diagnostic := by
  cases diagnostic with
  | unresolved index name =>
      have isRecord : internal.readFields .unresolved =
          (declaration .unresolved).readAhead fun record =>
            .unresolved <$> record.required "index" Reader.index
              <*> record.required "name" string := rfl
      refine Internal.readsBack _ (fieldLabel_label Event.unresolved) isRecord rfl (by decide) ?_
        fun record holds => ?_
      · simpa using ⟨canBeHeld_index _ placed, canBeHeld_string _ name⟩
      · have isIndex : record.Reads "index" _ _ := holds (by simp) (readsBack_index placed)
        have isName : record.Reads "name" _ _ := holds (by simp) (readsBack_string name)
        rw [isIndex.required, isName.required]
        rfl
  | excluded index evaluation name reason =>
      rcases placed with ⟨indexPlaced, evaluationPlaced⟩
      have isRecord : internal.readFields .excluded =
          (declaration .excluded).readAhead fun record =>
            .excluded <$> record.required "index" Reader.index
              <*> record.required "evaluation" Reader.index
              <*> record.required "name" string
              <*> record.required "reason" Exclusion.internal.readHeld := rfl
      refine Internal.readsBack _ (fieldLabel_label Event.excluded) isRecord rfl (by decide) ?_
        fun record holds => ?_
      · simpa using ⟨canBeHeld_index _ indexPlaced, canBeHeld_index _ evaluationPlaced,
          canBeHeld_string _ name, reason.canBeHeld⟩
      · have isIndex : record.Reads "index" _ _ := holds (by simp) (readsBack_index indexPlaced)
        have isEvaluation : record.Reads "evaluation" _ _ :=
          holds (by simp) (readsBack_index evaluationPlaced)
        have isName : record.Reads "name" _ _ := holds (by simp) (readsBack_string name)
        have isReason : record.Reads "reason" _ _ := holds (by simp) reason.readsBack
        rw [isIndex.required, isEvaluation.required, isName.required, isReason.required]
        rfl
  | shadowed algorithm keySize =>
      have isRecord : internal.readFields .shadowed =
          (declaration .shadowed).readAhead fun record =>
            .shadowed <$> record.required "algorithm" heldLabel
              <*> record.required "key_size" uint32 := rfl
      refine Internal.readsBack _ (fieldLabel_label Event.shadowed) isRecord rfl (by decide) ?_
        fun record holds => ?_
      · have notAbove := keySize.toNat_lt
        simpa using ⟨canBeHeld_string _ (Labelled.label algorithm), canBeHeld_integer _ (by omega)⟩
      · have isAlgorithm : record.Reads "algorithm" _ _ :=
          holds (by simp) (readsBack_heldLabel algorithm)
        have isKeySize : record.Reads "key_size" _ _ :=
          holds (by simp) (readsBack_uint32 keySize)
        rw [isAlgorithm.required, isKeySize.required]
        rfl

end Values

/-! ## What can be written -/

/-- The notation has room for every date in a policy. -/
structure Policy.IsWritable (policy : Policy) : Prop where
  issueDate : ∀ date ∈ policy.issueDate, date.IsWritable
  nextUpdate : ∀ date ∈ policy.nextUpdate, date.IsWritable
  validityEnds : ∀ entry ∈ policy.entries, ∀ evaluation ∈ entry.evaluations,
    ∀ date ∈ evaluation.validityEnd, date.IsWritable

theorem Policy.Evaluation.exists_toJson_eq_ok {evaluation : Evaluation}
    (writable : ∀ date ∈ evaluation.validityEnd, date.IsWritable) :
    ∃ json, evaluation.toJson = .ok json := by
  rcases (Instant.exists_optionToJson_eq_ok_iff _).mpr writable with ⟨json, written⟩
  exact ⟨_, Except.bind_eq_ok_iff.mpr ⟨json, written, rfl⟩⟩

theorem Policy.Entry.exists_toJson_eq_ok {entry : Entry}
    (writable : ∀ evaluation ∈ entry.evaluations, ∀ date ∈ evaluation.validityEnd,
      date.IsWritable) : ∃ json, entry.toJson = .ok json := by
  rcases (Except.exists_mapM_eq_ok_iff _ _).mpr
    fun evaluation member => Evaluation.exists_toJson_eq_ok (writable evaluation member) with
    ⟨jsons, written⟩
  exact ⟨_, Except.bind_eq_ok_iff.mpr ⟨jsons, written, rfl⟩⟩

theorem Policy.exists_toJson_eq_ok {policy : Policy} (writable : policy.IsWritable) :
    ∃ json, policy.toJson = .ok json := by
  rcases (Instant.exists_optionToJson_eq_ok_iff _).mpr writable.issueDate with
    ⟨issueJson, issueWritten⟩
  rcases (Instant.exists_optionToJson_eq_ok_iff _).mpr writable.nextUpdate with
    ⟨updateJson, updateWritten⟩
  rcases (Except.exists_mapM_eq_ok_iff _ _).mpr
    fun entry member => Entry.exists_toJson_eq_ok (writable.validityEnds entry member) with
    ⟨jsons, entriesWritten⟩
  exact ⟨_, Except.bind_eq_ok_iff.mpr ⟨issueJson, issueWritten, Except.bind_eq_ok_iff.mpr
    ⟨updateJson, updateWritten, Except.bind_eq_ok_iff.mpr ⟨jsons, entriesWritten, rfl⟩⟩⟩⟩

namespace Catalogue

/-- The notation has room for every date in a catalogue. -/
structure IsWritable (catalogue : Catalogue) : Prop where
  issueDate : ∀ date ∈ catalogue.metadata.issueDate, date.IsWritable
  nextUpdate : ∀ date ∈ catalogue.metadata.nextUpdate, date.IsWritable
  validityEnds : ∀ record ∈ catalogue.records, ∀ evaluation ∈ record.evaluations,
    evaluation.validityEnd.IsWritable

theorem Evaluation.exists_toJson_eq_ok {evaluation : Evaluation}
    (writable : evaluation.validityEnd.IsWritable) : ∃ json, evaluation.toJson = .ok json := by
  rcases (Expiration.exists_toJson_eq_ok_iff _).mpr writable with ⟨json, written⟩
  exact ⟨_, Except.bind_eq_ok_iff.mpr ⟨json, written, rfl⟩⟩

theorem Record.exists_toJson_eq_ok {record : Record}
    (writable : ∀ evaluation ∈ record.evaluations, evaluation.validityEnd.IsWritable) :
    ∃ json, record.toJson = .ok json := by
  rcases (Except.exists_mapM_eq_ok_iff _ _).mpr
    fun evaluation member => Evaluation.exists_toJson_eq_ok (writable evaluation member) with
    ⟨jsons, written⟩
  exact ⟨_, Except.bind_eq_ok_iff.mpr ⟨jsons, written, rfl⟩⟩

theorem exists_toJson_eq_ok {catalogue : Catalogue} (writable : catalogue.IsWritable) :
    ∃ json, catalogue.toJson = .ok json := by
  rcases (Except.exists_mapM_eq_ok_iff _ _).mpr
    fun record member => Record.exists_toJson_eq_ok (writable.validityEnds record member) with
    ⟨jsons, recordsWritten⟩
  rcases catalogue.metadata.exists_toJson_eq_ok_iff.mpr
    ⟨writable.issueDate, writable.nextUpdate⟩ with ⟨metadataJson, metadataWritten⟩
  exact ⟨_, Except.bind_eq_ok_iff.mpr ⟨.array jsons,
    Except.map_eq_ok_iff.mpr ⟨jsons, recordsWritten, rfl⟩,
    Except.bind_eq_ok_iff.mpr ⟨metadataJson, metadataWritten, rfl⟩⟩⟩

end Catalogue

theorem Snapshot.exists_toJson_eq_ok {snapshot : Snapshot} (writable : snapshot.IsWritable) :
    ∃ json, snapshot.toJson = .ok json := by
  rcases snapshot.exists_canonicalText_eq_ok_iff.mpr writable with ⟨text, written⟩
  rcases Except.map_eq_ok_iff.mp written with ⟨json, written, -⟩
  exact ⟨json, written⟩

/-! ## Round trips -/

/-- Whatever can be written is read back, from each of the texts of its JSON, as it was. -/
def RoundTrips {α : Type} (write : α → Except UnwritableInstant Json)
    (parse : String → Except Fault α) (isWritable : α → Prop) : Prop :=
  ∀ value, isWritable value → ∃ json, write value = .ok json ∧
    parse json.compact = .ok value ∧ parse json.indented = .ok value ∧
      parse json.canonical = .ok value

theorem roundTrips_of_readsBack {α : Type} {write : α → Except UnwritableInstant Json}
    {read : Reader α} {isWritable : α → Prop}
    (exists_json : ∀ value, isWritable value → ∃ json, write value = .ok json)
    (readsBack : ∀ value json, isWritable value → write value = .ok json →
      ReadsBack read State.depthLimit json value) :
    RoundTrips write (ofText read) isWritable := by
  intro value writable
  rcases exists_json value writable with ⟨json, written⟩
  have reads := readsBack value json writable written
  exact ⟨json, written, reads.compact, reads.indented, reads.canonical⟩

/-- Some values can always be written. -/
theorem roundTrips_of_always {α : Type} {write : α → Json} {read : Reader α}
    {isWritable : α → Prop}
    (readsBack : ∀ value, isWritable value → ReadsBack read State.depthLimit (write value) value) :
    RoundTrips (fun value => .ok (write value)) (ofText read) isWritable := by
  refine roundTrips_of_readsBack (fun value _ => ⟨write value, rfl⟩) ?_
  intro value json writable written
  rcases Except.ok.inj written with rfl
  exact readsBack value writable

/-- Everything that is kept in JSON is read back as it was written, and a snapshot is also read
back from the text that is hashed. -/
theorem json_roundTrips :
    RoundTrips Policy.toJson Policy.parse Policy.IsWritable ∧
    RoundTrips Catalogue.toJson (ofText Catalogue.reader) Catalogue.IsWritable ∧
    RoundTrips Snapshot.toJson (ofText Snapshot.reader) Snapshot.IsWritable ∧
    RoundTrips (fun report => .ok report.toJson) (ofText Report.reader) (fun _ => True) ∧
    RoundTrips (fun diagnostic => .ok diagnostic.toJson) (ofText Diagnostic.reader)
      Diagnostic.IsPlaced ∧
    RoundTrips (fun setting => .ok setting.toJson) (ofText Setting.reader) (fun _ => True) ∧
    RoundTrips (fun resolved => .ok resolved.toJson) (ofText Resolved.reader) (fun _ => True) ∧
    RoundTrips (fun identity : Identity Signature => .ok identity.toJson)
      (ofText Identity.reader) (fun _ => True) ∧
    ∀ (snapshot : Snapshot) (text : String), snapshot.canonicalText = .ok text →
      ofText Snapshot.reader text = .ok snapshot := by
  refine ⟨?_, ?_, ?_, ?_, ?_, ?_, ?_, ?_, ?_⟩
  · exact roundTrips_of_readsBack (fun _ => Policy.exists_toJson_eq_ok)
      fun _ _ _ => Policy.readsBack
  · exact roundTrips_of_readsBack (fun _ => Catalogue.exists_toJson_eq_ok)
      fun _ _ _ => Catalogue.readsBack
  · exact roundTrips_of_readsBack (fun _ => Snapshot.exists_toJson_eq_ok)
      fun _ _ _ => Snapshot.readsBack
  · exact roundTrips_of_always fun report _ => report.readsBack
  · exact roundTrips_of_always fun _ => Diagnostic.readsBack
  · exact roundTrips_of_always fun setting _ => setting.readsBack
  · exact roundTrips_of_always fun resolved _ => resolved.readsBack
  · exact roundTrips_of_always fun identity _ => identity.readsBack
  · intro snapshot text isText
    rcases Except.map_eq_ok_iff.mp isText with ⟨json, written, rfl⟩
    exact (Snapshot.readsBack written).canonical

/-- A policy that ends at an offset is read back with the offset. -/
theorem json_roundTrips_of_sha256 :
    (Policy.ofEntries [Suite.sha256Until Suite.startOfYearAhead]).IsWritable ∧
      ∃ json, (Policy.ofEntries [Suite.sha256Until Suite.startOfYearAhead]).toJson = .ok json ∧
        Policy.parse json.compact =
          .ok (Policy.ofEntries [Suite.sha256Until Suite.startOfYearAhead]) := by
  have endWritable : Suite.startOfYearAhead.IsWritable := by
    rw [Instant.IsWritable]
    decide
  have writable : (Policy.ofEntries [Suite.sha256Until Suite.startOfYearAhead]).IsWritable := by
    refine ⟨by rintro _ ⟨⟩, by rintro _ ⟨⟩, ?_⟩
    simpa [Policy.ofEntries, Suite.sha256Until] using endWritable
  rcases json_roundTrips.1 _ writable with ⟨json, written, reads, -⟩
  exact ⟨writable, json, written, reads⟩

end AlgorithmPolicy

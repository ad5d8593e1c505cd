import AlgorithmPolicy.Proofs.Policy.Schema
import AlgorithmPolicy.Proofs.Suite.Offsets
import AlgorithmPolicy.Proofs.Suite.RoundTrip

/-! A suite that is made from a policy that was read can be shown as JSON and has a fingerprint.
Not every instant can be written, but every one that is read can, and all ends that a suite
shows are ends of its policy, at the offsets at which they were read. -/

namespace AlgorithmPolicy

open Json Json.Value

/-! ## Dates that are read -/

theorem isWritable_of_isDate {value : Value} {date : Instant} (isDate : value.IsDate date) :
    date.IsWritable := by
  rcases isDate with ⟨text, -, found⟩
  exact Rfc3339.obstacle?_eq_none_of_read found

/-- A date is absent, `null` or read, and only what is read has to be written. -/
theorem isWritable_of_defaults {fields : List String} {name : String} {value : Value}
    {date : Option Instant} (means : value.Defaults fields name none (IsNullOr IsDate) date) :
    ∀ instant ∈ date, instant.IsWritable := by
  rintro instant rfl
  rcases means with ⟨-, absent⟩ | ⟨written, -, isDate⟩
  · cases absent
  · cases isDate with
    | value isDate => exact isWritable_of_isDate isDate

/-- The items of a list that may be left out are all written somewhere. -/
theorem exists_meaning_of_defaults {α : Type} {meaning : Value → α → Prop} {fields : List String}
    {name : String} {value : Value} {results : List α}
    (means : value.Defaults fields name [] (IsListOf meaning) results) {result : α}
    (member : result ∈ results) : ∃ item, meaning item result := by
  rcases means with ⟨-, rfl⟩ | ⟨_, -, items, -, each⟩
  · cases member
  · rcases each.flip.exists_mem member with ⟨item, -, isItem⟩
    exact ⟨item, isItem⟩

theorem Policy.isWritable_of_isPolicy {value : Value} {policy : Policy}
    (isPolicy : IsPolicy value policy) : policy.IsWritable where
  issueDate := isWritable_of_defaults isPolicy.issueDate
  nextUpdate := isWritable_of_defaults isPolicy.nextUpdate
  validityEnds entry entryMember evaluation evaluationMember := by
    rcases exists_meaning_of_defaults isPolicy.entries entryMember with ⟨_, isEntry⟩
    rcases exists_meaning_of_defaults isEntry.evaluations evaluationMember with ⟨_, isEvaluation⟩
    exact isWritable_of_defaults isEvaluation.validityEnd

theorem Policy.isWritable_of_parse {text : String} {policy : Policy}
    (parses : parse text = .ok policy) : policy.IsWritable := by
  rcases Reader.ofText_eq_ok_iff.mp parses with ⟨value, -, isRead⟩
  exact isWritable_of_isPolicy ((takes_reader value policy).mp isRead)

/-! ## Where ends come from -/

/-- There is no end, or it is that of an evaluation, at the offset at which it is written there. -/
def Policy.States (policy : Policy) : Expiration → Prop
  | .unbounded => True
  | .at last => ∃ entry ∈ policy.entries, ∃ evaluation ∈ entry.evaluations,
      evaluation.validityEnd = some last

theorem Policy.states_of_evaluates {registry : Registry} {policy : Policy} {resolved : Resolved}
    {evaluation : Evaluation} (evaluated : registry.Evaluates policy.entries resolved evaluation) :
    policy.States (.ofEnd evaluation.validityEnd) := by
  rcases evaluated with ⟨entry, entryMember, -, effective⟩
  rw [Entry.effective] at effective
  split at effective
  · rcases List.mem_singleton.mp effective with rfl
    trivial
  · cases isEnd : evaluation.validityEnd with
    | none => trivial
    | some last => exact ⟨entry, entryMember, evaluation, effective, isEnd⟩

/-- Merging keeps one of two ends, so no other end and no other offset gets into the views. -/
theorem Policy.states_rows (registry : Registry) (policy : Policy) :
    (∀ row ∈ (Suite.ofPolicy registry policy).acceptability.digests, policy.States row.2) ∧
      ∀ row ∈ (Suite.ofPolicy registry policy).acceptability.keySizes, policy.States row.2 := by
  have statedEnds (resolved : Resolved) (family : EncryptionFamily) (size : UInt32) :
      ∀ chosen ∈ Acceptability.statedEnds registry (Catalogue.ofPolicy registry policy).records
        resolved family size, policy.States chosen := by
    intro chosen member
    rcases (Acceptability.mem_statedEnds_ofPolicy_iff _ _ _ _).mp member with
      ⟨evaluation, evaluated, -, rfl⟩
    exact states_of_evaluates evaluated
  refine (Acceptability.forall_rows_iff registry _ policy.States).mpr ?_
  intro subject _ chosen latest
  cases subject with
  | digest digest =>
      rcases (Acceptability.mem_digestEnds_ofPolicy_iff digest chosen).mp latest.mem with
        ⟨evaluation, evaluated, rfl⟩
      exact states_of_evaluates evaluated
  | signature signature size => exact statedEnds _ _ size chosen latest.mem
  | family family size => exact statedEnds _ _ size chosen latest.mem

theorem Policy.IsWritable.isWritable_of_states {policy : Policy} (writable : policy.IsWritable)
    {expiration : Expiration} (states : policy.States expiration) : expiration.IsWritable := by
  rintro last rfl
  rcases states with ⟨entry, entryMember, evaluation, evaluationMember, isEnd⟩
  exact writable.validityEnds entry entryMember evaluation evaluationMember last isEnd

theorem Policy.IsWritable.isWritable_snapshot {policy : Policy} (writable : policy.IsWritable)
    (registry : Registry) : (Suite.ofPolicy registry policy).snapshot.IsWritable where
  issueDate := writable.issueDate
  nextUpdate := writable.nextUpdate
  digests := List.forall_mem_map.mpr fun row member =>
    writable.isWritable_of_states ((states_rows registry policy).1 row member)
  keySizes := List.forall_mem_map.mpr <| List.forall_mem_map.mpr fun row member =>
    writable.isWritable_of_states ((states_rows registry policy).2 row member)

/-! ## Fingerprints on display -/

namespace Fingerprint

/-- The bytes that pairs of hexadecimal digits stand for. -/
def bytes? : List Char → Option (List UInt8)
  | [] => some []
  | [_] => none
  | high :: low :: rest => do
      let byte ← Hexadecimal.value? [high, low]
      let bytes ← bytes? rest
      return UInt8.ofNat byte :: bytes

def IsLowerDigit (character : Char) : Prop :=
  '0' ≤ character ∧ character ≤ '9' ∨ 'a' ≤ character ∧ character ≤ 'f'

theorem isLowerDigit_digit {value : Nat} (small : value < 16) :
    IsLowerDigit (Hexadecimal.digit value) := by
  have all : ∀ value < 16, '0' ≤ Hexadecimal.digit value ∧ Hexadecimal.digit value ≤ '9' ∨
      'a' ≤ Hexadecimal.digit value ∧ Hexadecimal.digit value ≤ 'f' := by decide
  exact all value small

theorem value?_byteDigits (byte : UInt8) :
    Hexadecimal.value? (byteDigits byte) = some byte.toNat := by
  have small := byte.toNat_lt
  have high : byte.toNat / 16 < 16 := by omega
  have low : byte.toNat % 16 < 16 := by omega
  simp only [Hexadecimal.value?, byteDigits, List.foldlM_cons, List.foldlM_nil,
    Hexadecimal.digitValue?_digit high, Hexadecimal.digitValue?_digit low, Option.map_some,
    Option.bind_eq_bind, Option.bind_some, Option.pure_def, Option.some_inj]
  omega

theorem bytes?_flatMap_byteDigits (bytes : List UInt8) :
    bytes? (bytes.flatMap byteDigits) = some bytes := by
  induction bytes with
  | nil => rfl
  | cons byte rest induction =>
      have isByte := value?_byteDigits byte
      rw [byteDigits] at isByte
      rw [List.flatMap_cons, byteDigits, List.cons_append, List.cons_append, List.nil_append,
        bytes?, isByte, induction]
      simp

/-- What is displayed tells the bytes: two digits for each of them, in lower case. -/
structure IsDisplayedAs (fingerprint : Fingerprint) (digits : List Char) : Prop where
  display : fingerprint.display = "sha256:" ++ String.ofList digits
  length : digits.length = 64
  lower : ∀ digit ∈ digits, IsLowerDigit digit
  bytes : bytes? digits = some fingerprint.bytes

theorem isDisplayedAs (fingerprint : Fingerprint) :
    fingerprint.IsDisplayedAs (fingerprint.bytes.flatMap byteDigits) where
  display := rfl
  length := by
    have twoDigits : ∀ byte, (byteDigits byte).length = 2 := fun _ => rfl
    simp [List.length_flatMap, twoDigits, fingerprint.length_bytes]
  lower digit member := by
    rcases List.mem_flatMap.mp member with ⟨byte, -, isDigit⟩
    have small := byte.toNat_lt
    simp only [byteDigits, List.mem_cons, List.not_mem_nil, or_false] at isDigit
    rcases isDigit with rfl | rfl
    · exact isLowerDigit_digit (by omega)
    · exact isLowerDigit_digit (by omega)
  bytes := bytes?_flatMap_byteDigits fingerprint.bytes

end Fingerprint

/-! ## Suites of policies that are read -/

namespace Suite

/-- All that a suite shows of its policy can be written: the ends are those of the policy, the
snapshot has its JSON, and the hash of the canonical text is its fingerprint. -/
structure CanBeInspected (policy : Policy) (suite : Suite) : Prop where
  digestEnds : ∀ row ∈ suite.acceptability.digests, policy.States row.2
  keySizeEnds : ∀ row ∈ suite.acceptability.keySizes, policy.States row.2
  ends : ∀ last, policy.States (.at last) → ∃ text, Rfc3339.write last = .ok text
  issueDate : ∀ date ∈ suite.catalogue.metadata.issueDate, ∃ text, Rfc3339.write date = .ok text
  nextUpdate : ∀ date ∈ suite.catalogue.metadata.nextUpdate, ∃ text, Rfc3339.write date = .ok text
  snapshot : ∃ json, suite.snapshot.toJson = .ok json
  fingerprint : ∃ text fingerprint digits, suite.snapshot.canonicalText = .ok text ∧
    suite.fingerprint = .ok fingerprint ∧
    fingerprint.bytes = Sha256.hash text.toUTF8.toList ∧ fingerprint.IsDisplayedAs digits

/-- Whatever text a policy was read from, its suite can be inspected, with any registry and at
any levels. -/
theorem canBeInspected_of_parse {text : String} {policy : Policy}
    (parses : Policy.parse text = .ok policy) (registry : Registry) (levels : Levels) :
    CanBeInspected policy ((ofPolicy registry policy).withLevels levels) := by
  have writable := Policy.isWritable_of_parse parses
  have snapshotWritable := writable.isWritable_snapshot registry
  rcases (Snapshot.exists_canonicalText_eq_ok_iff _).mpr snapshotWritable with ⟨hashed, isHashed⟩
  have isFingerprint : ((ofPolicy registry policy).withLevels levels).fingerprint =
      .ok (.ofText hashed) := Except.map_eq_ok_iff.mpr ⟨hashed, isHashed, rfl⟩
  exact {
    digestEnds := (Policy.states_rows registry policy).1
    keySizeEnds := (Policy.states_rows registry policy).2
    ends := fun last states =>
      (Instant.isWritable_iff last).mp (writable.isWritable_of_states states last rfl)
    issueDate := fun date member =>
      (Instant.isWritable_iff date).mp (writable.issueDate date member)
    nextUpdate := fun date member =>
      (Instant.isWritable_iff date).mp (writable.nextUpdate date member)
    snapshot := Snapshot.exists_toJson_eq_ok snapshotWritable
    fingerprint := ⟨hashed, _, _, isHashed, isFingerprint, rfl, Fingerprint.isDisplayedAs _⟩ }

/-- The end and the next update are written an hour ahead of UTC. -/
def aheadText : String :=
  "\x7b\"next_update\": \"2030-01-01T01:00:00+01:00\", \"algorithms\": [\x7b\"identifier\": " ++
    "\x7b\"name\": \"SHA-256\"\x7d, \"evaluations\": [\x7b\"validity_end\": " ++
    "\"2030-01-01T01:00:00+01:00\"\x7d]\x7d]\x7d"

theorem canBeInspected_of_aheadText :
    Policy.parse aheadText = .ok (untilStartOfYear startOfYearAhead) ∧
      CanBeInspected (untilStartOfYear startOfYearAhead)
        ((ofPolicy Directory.standard.registry (untilStartOfYear startOfYearAhead)).withLevels
          .initial) := by
  have parses : Policy.parse aheadText = .ok (untilStartOfYear startOfYearAhead) := by
    decide +kernel
  exact ⟨parses, canBeInspected_of_parse parses Directory.standard.registry .initial⟩

end Suite

end AlgorithmPolicy

import AlgorithmPolicy.Policy.Encoding
import AlgorithmPolicy.Proofs.Json.Record

/-! The schema of policies. A text is read as a policy if it spells a value that is one by the
schema, and then the policy says what is written there and nothing else. -/

namespace AlgorithmPolicy.Policy

open Json Json.Attempt Json.Reader Json.Record Json.Value

/-! ## Structures -/

/-- The structures that a policy consists of. -/
inductive Shape
  | policy
  | title
  | publisher
  | entry
  | identifier
  | evaluation
  | parameter

/-- The fields of a structure, in the order in which an array gives their values. -/
def Shape.fields : Shape → List String
  | .policy =>
      ["policy_name", "publisher", "policy_issue_date", "next_update", "usage", "version", "lang",
        "id", "algorithms"]
  | .title => ["name", "object_identifier", "uri"]
  | .publisher => ["name", "address", "uri"]
  | .entry => ["identifier", "evaluations", "information"]
  | .identifier => ["name", "object_identifiers", "uris"]
  | .evaluation => ["validity_end", "parameters", "usage", "recommendation"]
  | .parameter => ["name", "min", "max"]

/-! ## What values say

For each structure, what a value has to be that is read as one, and what it says then. -/

structure IsTitle (value : Value) (title : Title) : Prop where
  isRecord : value.IsRecord Shape.title.fields
  name : value.Requires Shape.title.fields "name" IsString title.name
  objectIdentifier : value.Defaults Shape.title.fields "object_identifier" none
    (IsNullOr IsString) title.objectIdentifier
  uri : value.Defaults Shape.title.fields "uri" none (IsNullOr IsString) title.uri

structure IsPublisher (value : Value) (publisher : Publisher) : Prop where
  isRecord : value.IsRecord Shape.publisher.fields
  name : value.Requires Shape.publisher.fields "name" IsString publisher.name
  address : value.Defaults Shape.publisher.fields "address" none (IsNullOr IsString)
    publisher.address
  uri : value.Defaults Shape.publisher.fields "uri" none (IsNullOr IsString) publisher.uri

structure IsIdentifier (value : Value) (identifier : Identifier) : Prop where
  isRecord : value.IsRecord Shape.identifier.fields
  name : value.Requires Shape.identifier.fields "name" IsString identifier.name
  objectIdentifiers : value.Defaults Shape.identifier.fields "object_identifiers" []
    (IsListOf IsString) identifier.objectIdentifiers
  uris : value.Defaults Shape.identifier.fields "uris" [] (IsListOf IsString) identifier.uris

/-- A bound of a parameter is an integer of 64 bits. -/
def IsBound (value : Value) (bound : Int64) : Prop :=
  value.IsInteger bound.toInt

structure IsParameter (value : Value) (parameter : Parameter) : Prop where
  isRecord : value.IsRecord Shape.parameter.fields
  name : value.Requires Shape.parameter.fields "name" IsString parameter.name
  min : value.Defaults Shape.parameter.fields "min" none (IsNullOr IsBound) parameter.min
  max : value.Defaults Shape.parameter.fields "max" none (IsNullOr IsBound) parameter.max

structure IsEvaluation (value : Value) (evaluation : Evaluation) : Prop where
  isRecord : value.IsRecord Shape.evaluation.fields
  validityEnd : value.Defaults Shape.evaluation.fields "validity_end" none (IsNullOr IsDate)
    evaluation.validityEnd
  parameters : value.Defaults Shape.evaluation.fields "parameters" [] (IsListOf IsParameter)
    evaluation.parameters
  usage : value.Defaults Shape.evaluation.fields "usage" [] (IsListOf IsString) evaluation.usage
  recommendation : value.Defaults Shape.evaluation.fields "recommendation" none
    (IsNullOr IsString) evaluation.recommendation

structure IsEntry (value : Value) (entry : Entry) : Prop where
  isRecord : value.IsRecord Shape.entry.fields
  identifier : value.Requires Shape.entry.fields "identifier" IsIdentifier entry.identifier
  evaluations : value.Defaults Shape.entry.fields "evaluations" [] (IsListOf IsEvaluation)
    entry.evaluations
  information : value.Defaults Shape.entry.fields "information" [] (IsListOf IsString)
    entry.information

structure IsPolicy (value : Value) (policy : Policy) : Prop where
  isRecord : value.IsRecord Shape.policy.fields
  title : value.Defaults Shape.policy.fields "policy_name" none (IsNullOr IsTitle) policy.title
  publisher : value.Defaults Shape.policy.fields "publisher" none (IsNullOr IsPublisher)
    policy.publisher
  issueDate : value.Defaults Shape.policy.fields "policy_issue_date" none (IsNullOr IsDate)
    policy.issueDate
  nextUpdate : value.Defaults Shape.policy.fields "next_update" none (IsNullOr IsDate)
    policy.nextUpdate
  usage : value.Defaults Shape.policy.fields "usage" none (IsNullOr IsString) policy.usage
  version : value.Defaults Shape.policy.fields "version" none (IsNullOr IsString) policy.version
  language : value.Defaults Shape.policy.fields "lang" none (IsNullOr IsString) policy.language
  id : value.Defaults Shape.policy.fields "id" none (IsNullOr IsString) policy.id
  entries : value.Defaults Shape.policy.fields "algorithms" [] (IsListOf IsEntry) policy.entries

/-! ## What is read

A structure is nested in others, so there has to be room for as many arrays and objects as its
own lists and structures are deep. -/

section Reading

variable {room : Nat}

theorem takes_optionalString : (nullable string).Takes room (IsNullOr IsString) :=
  takes_nullable takes_string nofun

theorem takes_optionalDate : (nullable instant).Takes room (IsNullOr IsDate) :=
  takes_nullable takes_instant (by rintro _ ⟨_, ⟨⟩, _⟩)

theorem takes_optionalBound : (nullable int64).Takes room (IsNullOr IsBound) :=
  takes_nullable takes_int64 (by rintro _ ⟨_, ⟨⟩⟩)

theorem takes_strings : (list string).Takes (room + 1) (IsListOf IsString) :=
  takes_list takes_string

theorem Title.takes_reader : Title.reader.Takes (room + 1) IsTitle := by
  intro value title
  rw [Title.reader, Declaration.read_eq_ok_iff rfl]
  simp only [seq_eq_success_iff, map_eq_success_iff, required_eq_success_iff takes_string,
    defaulted_eq_success_iff takes_optionalString]
  constructor
  · rintro ⟨isRecord, _, uri, ⟨_, objectIdentifier, ⟨name, isName, rfl⟩, isObjectIdentifier, rfl⟩,
      isUri, rfl⟩
    exact ⟨isRecord, isName, isObjectIdentifier, isUri⟩
  · rintro ⟨isRecord, isName, isObjectIdentifier, isUri⟩
    exact ⟨isRecord, _, _, ⟨_, _, ⟨_, isName, rfl⟩, isObjectIdentifier, rfl⟩, isUri, rfl⟩

theorem Publisher.takes_reader : Publisher.reader.Takes (room + 1) IsPublisher := by
  intro value publisher
  rw [Publisher.reader, Declaration.read_eq_ok_iff rfl]
  simp only [seq_eq_success_iff, map_eq_success_iff, required_eq_success_iff takes_string,
    defaulted_eq_success_iff takes_optionalString]
  constructor
  · rintro ⟨isRecord, _, uri, ⟨_, address, ⟨name, isName, rfl⟩, isAddress, rfl⟩, isUri, rfl⟩
    exact ⟨isRecord, isName, isAddress, isUri⟩
  · rintro ⟨isRecord, isName, isAddress, isUri⟩
    exact ⟨isRecord, _, _, ⟨_, _, ⟨_, isName, rfl⟩, isAddress, rfl⟩, isUri, rfl⟩

theorem Identifier.takes_reader : Identifier.reader.Takes (room + 2) IsIdentifier := by
  intro value identifier
  rw [Identifier.reader, Declaration.read_eq_ok_iff rfl]
  simp only [seq_eq_success_iff, map_eq_success_iff, required_eq_success_iff takes_string,
    defaulted_eq_success_iff takes_strings]
  constructor
  · rintro ⟨isRecord, _, uris, ⟨_, objectIdentifiers, ⟨name, isName, rfl⟩, areObjectIdentifiers,
      rfl⟩, areUris, rfl⟩
    exact ⟨isRecord, isName, areObjectIdentifiers, areUris⟩
  · rintro ⟨isRecord, isName, areObjectIdentifiers, areUris⟩
    exact ⟨isRecord, _, _, ⟨_, _, ⟨_, isName, rfl⟩, areObjectIdentifiers, rfl⟩, areUris, rfl⟩

theorem Parameter.takes_reader : Parameter.reader.Takes (room + 1) IsParameter := by
  intro value parameter
  rw [Parameter.reader, Declaration.read_eq_ok_iff rfl]
  simp only [seq_eq_success_iff, map_eq_success_iff, required_eq_success_iff takes_string,
    defaulted_eq_success_iff takes_optionalBound]
  constructor
  · rintro ⟨isRecord, _, max, ⟨_, min, ⟨name, isName, rfl⟩, isMin, rfl⟩, isMax, rfl⟩
    exact ⟨isRecord, isName, isMin, isMax⟩
  · rintro ⟨isRecord, isName, isMin, isMax⟩
    exact ⟨isRecord, _, _, ⟨_, _, ⟨_, isName, rfl⟩, isMin, rfl⟩, isMax, rfl⟩

theorem Evaluation.takes_reader : Evaluation.reader.Takes (room + 3) IsEvaluation := by
  intro value evaluation
  rw [Evaluation.reader, Declaration.read_eq_ok_iff rfl]
  simp only [seq_eq_success_iff, map_eq_success_iff,
    defaulted_eq_success_iff takes_optionalDate,
    defaulted_eq_success_iff (takes_list Parameter.takes_reader),
    defaulted_eq_success_iff takes_strings, defaulted_eq_success_iff takes_optionalString]
  constructor
  · rintro ⟨isRecord, _, recommendation, ⟨_, usage, ⟨_, parameters, ⟨validityEnd, isEnd, rfl⟩,
      areParameters, rfl⟩, isUsage, rfl⟩, isRecommendation, rfl⟩
    exact ⟨isRecord, isEnd, areParameters, isUsage, isRecommendation⟩
  · rintro ⟨isRecord, isEnd, areParameters, isUsage, isRecommendation⟩
    exact ⟨isRecord, _, _, ⟨_, _, ⟨_, _, ⟨_, isEnd, rfl⟩, areParameters, rfl⟩, isUsage, rfl⟩,
      isRecommendation, rfl⟩

theorem Entry.takes_reader : Entry.reader.Takes (room + 5) IsEntry := by
  intro value entry
  rw [Entry.reader, Declaration.read_eq_ok_iff rfl]
  simp only [seq_eq_success_iff, map_eq_success_iff,
    required_eq_success_iff Identifier.takes_reader,
    defaulted_eq_success_iff (takes_list Evaluation.takes_reader),
    defaulted_eq_success_iff takes_strings]
  constructor
  · rintro ⟨isRecord, _, information, ⟨_, evaluations, ⟨identifier, isIdentifier, rfl⟩,
      areEvaluations, rfl⟩, isInformation, rfl⟩
    exact ⟨isRecord, isIdentifier, areEvaluations, isInformation⟩
  · rintro ⟨isRecord, isIdentifier, areEvaluations, isInformation⟩
    exact ⟨isRecord, _, _, ⟨_, _, ⟨_, isIdentifier, rfl⟩, areEvaluations, rfl⟩, isInformation, rfl⟩

theorem takes_reader : reader.Takes (room + 7) IsPolicy := by
  have takesTitle : (nullable Title.reader).Takes (room + 6) (IsNullOr IsTitle) :=
    takes_nullable Title.takes_reader fun _ isTitle => isTitle.isRecord
  have takesPublisher : (nullable Publisher.reader).Takes (room + 6) (IsNullOr IsPublisher) :=
    takes_nullable Publisher.takes_reader fun _ isPublisher => isPublisher.isRecord
  intro value policy
  rw [reader, Declaration.read_eq_ok_iff rfl]
  simp only [seq_eq_success_iff, map_eq_success_iff, defaulted_eq_success_iff takesTitle,
    defaulted_eq_success_iff takesPublisher, defaulted_eq_success_iff takes_optionalDate,
    defaulted_eq_success_iff takes_optionalString,
    defaulted_eq_success_iff (takes_list Entry.takes_reader)]
  constructor
  · rintro ⟨isRecord, _, entries, ⟨_, id, ⟨_, language, ⟨_, version, ⟨_, usage, ⟨_, nextUpdate,
      ⟨_, issueDate, ⟨_, publisher, ⟨title, isTitle, rfl⟩, isPublisher, rfl⟩, isIssueDate, rfl⟩,
      isNextUpdate, rfl⟩, isUsage, rfl⟩, isVersion, rfl⟩, isLanguage, rfl⟩, isId, rfl⟩,
      areEntries, rfl⟩
    exact ⟨isRecord, isTitle, isPublisher, isIssueDate, isNextUpdate, isUsage, isVersion,
      isLanguage, isId, areEntries⟩
  · rintro ⟨isRecord, isTitle, isPublisher, isIssueDate, isNextUpdate, isUsage, isVersion,
      isLanguage, isId, areEntries⟩
    exact ⟨isRecord, _, _, ⟨_, _, ⟨_, _, ⟨_, _, ⟨_, _, ⟨_, _, ⟨_, _, ⟨_, _, ⟨_, isTitle, rfl⟩,
      isPublisher, rfl⟩, isIssueDate, rfl⟩, isNextUpdate, rfl⟩, isUsage, rfl⟩, isVersion, rfl⟩,
      isLanguage, rfl⟩, isId, rfl⟩, areEntries, rfl⟩

end Reading

/-! ## Added members -/

/-- Where structures stand: by themselves or `null` instead, or as the items of a list. -/
inductive Place
  | one (shape : Shape)
  | many (shape : Shape)

/-- The structures that a field of a structure holds. -/
def Shape.place? : Shape → String → Option Place
  | .policy, "policy_name" => some (.one .title)
  | .policy, "publisher" => some (.one .publisher)
  | .policy, "algorithms" => some (.many .entry)
  | .entry, "identifier" => some (.one .identifier)
  | .entry, "evaluations" => some (.many .evaluation)
  | .evaluation, "parameters" => some (.many .parameter)
  | _, _ => none

/-- Another member is put into an object that stands for a structure somewhere in a value. Its
name is no field of the structure, or is there already. -/
inductive Adds : Place → Value → Value → Prop
  | here {shape : Shape} {name : MemberName} {front back : List (MemberName × Value)}
      (extra : Value) :
      (∀ field ∈ shape.fields, name ≠ some field) ∨ name ∈ (front ++ back).map (·.1) →
        Adds (.one shape) (.object (front ++ back)) (.object (front ++ (name, extra) :: back))
  | inMember {shape : Shape} {place : Place} {name : String}
      {front back : List (MemberName × Value)} {value changed : Value} :
      shape.place? name = some place → Adds place value changed →
        Adds (.one shape) (.object (front ++ (some name, value) :: back))
          (.object (front ++ (some name, changed) :: back))
  | inField {shape : Shape} {place : Place} {name : String} {front back : List Value}
      {value changed : Value} :
      shape.fields[front.length]? = some name → shape.place? name = some place →
        Adds place value changed →
          Adds (.one shape) (.array (front ++ value :: back)) (.array (front ++ changed :: back))
  | inList {shape : Shape} {front back : List Value} {value changed : Value} :
      Adds (.one shape) value changed →
        Adds (.many shape) (.array (front ++ value :: back)) (.array (front ++ changed :: back))

/-- A value is read as a structure, whatever it says. -/
def Shape.Admits (value : Value) : Shape → Prop
  | .policy => ∃ policy, IsPolicy value policy
  | .title => ∃ title, IsTitle value title
  | .publisher => ∃ publisher, IsPublisher value publisher
  | .entry => ∃ entry, IsEntry value entry
  | .identifier => ∃ identifier, IsIdentifier value identifier
  | .evaluation => ∃ evaluation, IsEvaluation value evaluation
  | .parameter => ∃ parameter, IsParameter value parameter

def Place.Admits (value : Value) : Place → Prop
  | .one shape => value ≠ .null → shape.Admits value
  | .many shape => ∃ items, value = .array items ∧ ∀ item ∈ items, shape.Admits item

theorem Shape.Admits.isRecord {value : Value} {shape : Shape} (admits : shape.Admits value) :
    value.IsRecord shape.fields := by
  cases shape <;> rcases admits with ⟨_, means⟩ <;> exact means.isRecord

theorem exists_of_isListOf {α : Type} {meaning : Value → α → Prop} {value : Value}
    {results : List α} (means : IsListOf meaning value results) :
    ∃ items, value = .array items ∧ ∀ item ∈ items, ∃ result, meaning item result := by
  rcases means with ⟨items, rfl, each⟩
  refine ⟨items, rfl, fun item member => ?_⟩
  rcases each.exists_mem member with ⟨result, -, isItem⟩
  exact ⟨result, isItem⟩

theorem exists_of_isNullOr {α : Type} {meaning : Value → α → Prop} {value : Value}
    {result : Option α} (means : IsNullOr meaning value result) (notNull : value ≠ .null) :
    ∃ result, meaning value result := by
  cases means with
  | null => exact absurd rfl notNull
  | value means => exact ⟨_, means⟩

/-- What is read as a structure has fields that are read as the structures they hold. -/
theorem Shape.Admits.field {value inner : Value} {shape : Shape} {place : Place} {name : String}
    (admits : shape.Admits value) (holds : shape.place? name = some place)
    (field : value.field? shape.fields name = some inner) : place.Admits inner := by
  unfold Shape.place? at holds
  split at holds
  all_goals cases holds
  all_goals rcases admits with ⟨_, means⟩
  · exact exists_of_isNullOr (means.title.of_field? field)
  · exact exists_of_isNullOr (means.publisher.of_field? field)
  · exact exists_of_isListOf (means.entries.of_field? field)
  · exact fun _ => ⟨_, means.identifier.of_field? field⟩
  · exact exists_of_isListOf (means.evaluations.of_field? field)
  · exact exists_of_isListOf (means.parameters.of_field? field)

theorem Shape.nodup_fields (shape : Shape) : shape.fields.Nodup := by
  cases shape <;> decide

/-- A value with such a member is not read. -/
theorem not_admits_of_adds {place : Place} {value changed : Value}
    (adds : Adds place value changed) : ¬ place.Admits changed := by
  induction adds with
  | @here shape name front back extra excess =>
      intro admits
      rcases (admits nofun).isRecord with ⟨nodup, declared⟩
      rcases excess with undeclared | present
      · rcases declared name (by simp) with ⟨field, isField, isName⟩
        exact undeclared field isField isName
      · rw [List.map_append, List.map_cons, List.nodup_middle, List.nodup_cons,
          ← List.map_append] at nodup
        exact nodup.1 present
  | @inMember shape place name front back value changed holds adds induction =>
      intro admits
      have admitsObject := admits nofun
      exact induction (admitsObject.field holds (admitsObject.isRecord.field?_of_mem (by simp)))
  | @inField shape place name front back value changed isField holds adds induction =>
      intro admits
      exact induction ((admits nofun).field holds (field?_array shape.nodup_fields isField))
  | inList adds induction =>
      rintro ⟨items, same, admits⟩
      rcases Value.array.inj same with rfl
      exact induction fun _ => admits _ (by simp)

/-- The policy that a text is read as says exactly what the text spells. A text with a member
that the schema does not provide for is read as none. -/
theorem parse_follows_schema (text : String) :
    (∀ policy, parse text = .ok policy ↔
      ∃ value : Value, value.IsSpelledBy text ∧ IsPolicy value policy) ∧
    ∀ value changed, Adds (.one .policy) value changed → changed.IsSpelledBy text →
      ∀ policy, parse text ≠ .ok policy := by
  constructor
  · intro policy
    rw [parse, ofText_eq_ok_iff]
    exact exists_congr fun value => and_congr_right fun _ => takes_reader value policy
  · intro value changed adds spells policy parses
    have isPolicy := (takes_reader _ policy).mp ((ofText_of_isSpelledBy spells).mp parses)
    exact not_admits_of_adds adds fun _ => ⟨policy, isPolicy⟩

end AlgorithmPolicy.Policy

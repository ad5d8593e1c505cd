import AlgorithmPolicy.Proofs.Configuration.Fields
import AlgorithmPolicy.Proofs.Configuration.Files

/-! What is accepted keeps to its limits: files that are loaded, and configurations, of which
nothing is accepted that is not declared. -/

namespace AlgorithmPolicy

namespace Configuration

variable {configuration : Configuration}

/-! ## Accepted texts -/

theorem check_eq_ok_iff :
    configuration.check = .ok () ↔
      ∀ path, configuration.policyPath = some path → path ≠ "" ∧ Path.IsBounded path := by
  rw [check]
  cases configuration.policyPath with
  | none => simp
  | some path =>
      by_cases isEmpty : path = ""
      · simp [isEmpty]
      · simp [isEmpty, Path.check_eq_ok_iff]

theorem parse_eq_ok_iff {text : String} :
    parse text = .ok configuration ↔
      ∃ entries, Toml.read text = some entries ∧ ofEntries? entries = some configuration ∧
        configuration.check = .ok () := by
  rw [parse]
  constructor
  · intro accepted
    split at accepted
    · cases accepted
    · next stated isStated =>
        rcases Option.bind_eq_some_iff.mp isStated with ⟨entries, isRead, isStated⟩
        rcases Except.bind_eq_ok_iff.mp accepted with ⟨_, isChecked, same⟩
        cases same
        exact ⟨entries, isRead, isStated, isChecked⟩
  · intro accepted
    rcases accepted with ⟨entries, isRead, isStated, isChecked⟩
    rw [isRead, Option.bind_some, isStated]
    exact Except.bind_eq_ok_iff.mpr ⟨(), isChecked, rfl⟩

example : (parse "policy.path = \"p\"").toOption.map (·.policyPath) = some (some "p") := by
  decide +kernel

/-- What stands beyond the fields of an array may be undeclared. -/
example : (parse "policy = ['p', \x7b undeclared = 1 \x7d]").toOption.map (·.policyPath) =
    some (some "p") := by
  decide +kernel

/-- Where the document of a configuration says something, it is declared, and the policy is at a
path that may be looked at. -/
structure IsAccepted (entries : Toml.Entries) (configuration : Configuration) : Prop where
  isUnplaced : configuration.directory = none
  ofDocument : ∀ key ∈ entries.map Prod.fst, key ∈ ["policy", "levels"]
  ofPolicy : ∀ value, entries.value? "policy" = some value → ∀ key ∈ value.keys, key ∈ ["path"]
  ofLevels : ∀ value, entries.value? "levels" = some value → ∀ key ∈ value.keys,
    key ∈ ["default", "digest_algorithms", "signature_algorithms", "signature_min_key_size",
      "algorithm_expiration", "expiration_after_policy_update"]
  ofPath : ∀ path, configuration.policyPath = some path → path ≠ "" ∧ Path.IsBounded path

theorem isAccepted_of_ofEntries? {entries : Toml.Entries}
    (accepted : ofEntries? entries = some configuration)
    (isChecked : configuration.check = .ok ()) :
    IsAccepted entries configuration := by
  simp only [ofEntries?, Option.bind_eq_bind, Option.bind_eq_some_iff, pure, Option.some.injEq]
    at accepted
  rcases accepted with ⟨fields, areFields, policyPath, isPolicy, levels, areLevels, rfl⟩
  have areDeclared := mem_of_fields? areFields
  have areEntries := fields?_table areFields
  subst areEntries
  constructor
  case isUnplaced => rfl
  case ofDocument => exact areDeclared
  case ofPolicy =>
    intro value isStated
    rcases exists_of_optional isPolicy isStated with ⟨path, isRead⟩
    exact mem_of_policyPath? isRead
  case ofLevels =>
    intro value isStated
    rcases exists_of_optional areLevels isStated with ⟨stated, isRead⟩
    exact mem_of_levels? isRead
  case ofPath => exact check_eq_ok_iff.mp isChecked

theorem exists_isAccepted_of_parse {text : String} (accepted : parse text = .ok configuration) :
    ∃ entries, Toml.read text = some entries ∧ IsAccepted entries configuration := by
  rcases parse_eq_ok_iff.mp accepted with ⟨entries, isRead, isStated, isChecked⟩
  exact ⟨entries, isRead, isAccepted_of_ofEntries? isStated isChecked⟩

/-- What the text of a configuration file says if the file is at a path. -/
def parseAt (path text : String) : Except LoadError Configuration :=
  (parse text).map fun configuration => { configuration with directory := Path.parent? path }

theorem loadsText_load (files : FileSystem Id) (path : String) (value : Option ByteArray) :
    LoadsText files "config" path fileLimit (parseAt path) (load files (some path) value) := by
  change LoadsText files "config" path fileLimit (parseAt path)
    ((loadFile files "config" path fileLimit parse).map _)
  rw [map_loadFile]
  exact loadsText_loadFile

end Configuration

/-- Policies and configurations are loaded within their limits, and configurations are accepted
within theirs. -/
structure KeepsLimits (files : FileSystem Id) : Prop where
  policies : ∀ path,
    LoadsText files "policy" path 8388608 Policy.parseFile (Policy.load files path)
  configurations : ∀ path value,
    LoadsText files "config" path 1048576 (Configuration.parseAt path)
      (Configuration.load files (some path) value)
  accepted : ∀ text configuration, Configuration.parse text = .ok configuration →
    ∃ entries, Toml.read text = some entries ∧ Configuration.IsAccepted entries configuration

theorem keepsLimits (files : FileSystem Id) : KeepsLimits files := by
  constructor
  case policies => exact fun _ => loadsText_loadFile
  case configurations => exact Configuration.loadsText_load files
  case accepted => exact fun _ _ => Configuration.exists_isAccepted_of_parse

end AlgorithmPolicy

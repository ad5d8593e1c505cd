import AlgorithmPolicy.CommandLine
import AlgorithmPolicy.Proofs.Configuration.Files
import AlgorithmPolicy.Proofs.Suite.Inspection

/-! What commands load. Whatever is loaded can be shown: a policy that comes from a file was
read from a text. -/

namespace AlgorithmPolicy

/-! ## Files -/

theorem Policy.isWritable_of_load {look : FileSystem Id} {path : String} {policy : Policy}
    (loaded : Policy.load look path = .ok policy) : policy.IsWritable := by
  rcases loadFile_eq_ok_iff.mp loaded with ⟨text, -, parsed⟩
  exact isWritable_of_parse (Except.mapError_eq_ok_iff.mp parsed)

namespace CommandLine

variable {surroundings : Surroundings Id}

/-! ## Configurations -/

section Configurations

variable {given : Option String}

/-- A configuration file is named, or there is one at the default path. A variable names a file
even if its value is no text. -/
inductive HasConfiguration (surroundings : Surroundings Id) : Option String → Prop
  | given (path : String) : HasConfiguration surroundings (some path)
  | set {given : Option String} {value : ByteArray}
      (isSet : surroundings.variableValue = some value) : HasConfiguration surroundings given
  | present {given : Option String}
      (isPresent : (surroundings.look Configuration.defaultPath : Lookup).isPresent) :
      HasConfiguration surroundings given

theorem loadOrInitial_of_hasConfiguration (has : HasConfiguration surroundings given) :
    Configuration.loadOrInitial surroundings.look given surroundings.variableValue =
      Configuration.load surroundings.look given surroundings.variableValue := by
  rw [Configuration.loadOrInitial]
  cases has with
  | given path => exact if_neg fun unnamed => nomatch unnamed.1
  | set isSet =>
      rw [isSet]
      exact if_neg fun unnamed => nomatch unnamed.2
  | present isPresent =>
      split
      · exact if_pos isPresent
      · rfl

theorem named_eq_none_of_not_hasConfiguration (hasNone : ¬ HasConfiguration surroundings given) :
    given = none ∧ surroundings.variableValue = none := by
  constructor
  · cases given with
    | none => rfl
    | some path => exact absurd (.given path) hasNone
  · cases isSet : surroundings.variableValue with
    | none => rfl
    | some value => exact absurd (.set isSet) hasNone

theorem loadOrInitial_of_not_hasConfiguration (hasNone : ¬ HasConfiguration surroundings given) :
    Configuration.loadOrInitial surroundings.look given surroundings.variableValue =
      .ok Configuration.initial := by
  have isAbsent : ¬ (surroundings.look Configuration.defaultPath : Lookup).isPresent :=
    fun isPresent => hasNone (.present isPresent)
  rcases named_eq_none_of_not_hasConfiguration hasNone with ⟨notGiven, notSet⟩
  rw [Configuration.loadOrInitial, notGiven, notSet]
  exact if_neg isAbsent

/-- Without a configuration it is the default path that is read, and nothing is there. -/
theorem load_of_not_hasConfiguration (hasNone : ¬ HasConfiguration surroundings given) :
    ∃ error, Configuration.load surroundings.look given surroundings.variableValue =
      .error error := by
  rcases named_eq_none_of_not_hasConfiguration hasNone with ⟨notGiven, notSet⟩
  rw [notGiven, notSet]
  have checked : Path.check "config" Configuration.defaultPath = .ok () := by decide
  cases found : (surroundings.look Configuration.defaultPath : Lookup) with
  | present content =>
      have isPresent : (surroundings.look Configuration.defaultPath : Lookup).isPresent := by
        rw [found]
        rfl
      exact absurd (.present isPresent) hasNone
  | absent failure =>
      refine ⟨.unreadable failure, ?_⟩
      change (loadFile surroundings.look "config" Configuration.defaultPath
        Configuration.fileLimit Configuration.parse).map _ = _
      rw [loadFile, checked, found]
      rfl

end Configurations

theorem isWritable_of_loadPolicy {look : FileSystem Id} {path : String} {policy : Policy}
    (loaded : loadPolicy look path = .ok policy) : policy.IsWritable :=
  Policy.isWritable_of_load (Except.mapError_eq_ok_iff.mp loaded)

/-! ## Validation -/

section Validation

variable {given : Option String} {configuration : Configuration}

theorem validateConfiguration_of_error {error : LoadError}
    (failed : Configuration.load surroundings.look given surroundings.variableValue =
      .error error) :
    validateConfiguration surroundings given = .error (.configuration error) := by
  simp only [validateConfiguration, failed, bind, pure]

section Loaded

variable (loaded : Configuration.load surroundings.look given surroundings.variableValue =
  .ok configuration)

include loaded

theorem validateConfiguration_of_pathless (pathless : configuration.resolvedPolicyPath = none) :
    validateConfiguration surroundings given = .ok ⟨0, lineOf "config ok"⟩ := by
  simp only [validateConfiguration, loaded, pathless, bind, pure]

theorem validateConfiguration_of_path {path : String}
    (isPath : configuration.resolvedPolicyPath = some path) :
    validateConfiguration surroundings given =
      (loadPolicy surroundings.look path).map fun _ => ⟨0, lineOf "config ok"⟩ := by
  simp only [validateConfiguration, loaded, isPath, bind, pure]

end Loaded

/-- The configuration can be loaded, and the policy too if it names one. -/
def IsValid (surroundings : Surroundings Id) (given : Option String) : Prop :=
  ∃ configuration,
    Configuration.load surroundings.look given surroundings.variableValue = .ok configuration ∧
      ∀ path, configuration.resolvedPolicyPath = some path →
        ∃ policy, loadPolicy surroundings.look path = .ok policy

theorem validateConfiguration_eq_ok_iff {result : Result} :
    validateConfiguration surroundings given = .ok result ↔
      IsValid surroundings given ∧ result = ⟨0, lineOf "config ok"⟩ := by
  constructor
  · intro validated
    cases loaded : (Configuration.load surroundings.look given surroundings.variableValue :
        Except LoadError Configuration) with
    | error error =>
        rw [validateConfiguration_of_error loaded] at validated
        cases validated
    | ok configuration =>
        cases isPath : configuration.resolvedPolicyPath with
        | none =>
            rw [validateConfiguration_of_pathless loaded isPath] at validated
            cases validated
            have noPath : ∀ path, configuration.resolvedPolicyPath = some path →
                ∃ policy, loadPolicy surroundings.look path = .ok policy := by
              rw [isPath]
              nofun
            exact ⟨⟨configuration, loaded, noPath⟩, rfl⟩
        | some path =>
            rw [validateConfiguration_of_path loaded isPath] at validated
            rcases Except.map_eq_ok_iff.mp validated with ⟨policy, read, same⟩
            refine ⟨⟨configuration, loaded, ?_⟩, same.symm⟩
            intro other isOther
            cases isPath.symm.trans isOther
            exact ⟨policy, read⟩
  · intro valid
    rcases valid with ⟨⟨configuration, loaded, loads⟩, rfl⟩
    cases isPath : configuration.resolvedPolicyPath with
    | none => exact validateConfiguration_of_pathless loaded isPath
    | some path =>
        rcases loads path isPath with ⟨policy, read⟩
        rw [validateConfiguration_of_path loaded isPath, read]
        rfl

theorem not_isValid_of_error {failure : Failure}
    (notValid : validateConfiguration surroundings given = .error failure) :
    ¬ IsValid surroundings given := by
  intro valid
  cases notValid.symm.trans (validateConfiguration_eq_ok_iff.mpr ⟨valid, rfl⟩)

end Validation

/-! ## Suites -/

section Suites

variable {source : Source} {configuration : Configuration} {path : String} {policy : Policy}
  {levels : Levels}

theorem loadSource_of_misconfigured {error : LoadError}
    (misconfigured : Configuration.loadOrInitial surroundings.look source.configuration
      surroundings.variableValue = .error error) :
    loadSource surroundings source = .error (.configuration error) := by
  simp only [loadSource, misconfigured, bind, pure]

section Configured

variable (configured : Configuration.loadOrInitial surroundings.look source.configuration
  surroundings.variableValue = .ok configuration)

include configured

theorem loadSource_of_pathless
    (pathless : source.policy.or configuration.resolvedPolicyPath = none) :
    loadSource surroundings source = .error .noPolicy := by
  simp only [loadSource, configured, pathless, bind, pure]

theorem loadSource_of_path
    (isPath : source.policy.or configuration.resolvedPolicyPath = some path) :
    loadSource surroundings source = (loadPolicy surroundings.look path).map fun policy =>
      (policy, configuration.levels.toLevels) := by
  simp only [loadSource, configured, isPath, bind, pure]

end Configured

theorem isWritable_of_loadSource
    (loaded : loadSource surroundings source = .ok (policy, levels)) : policy.IsWritable := by
  cases configured : (Configuration.loadOrInitial surroundings.look source.configuration
      surroundings.variableValue : Except LoadError Configuration) with
  | error error =>
      rw [loadSource_of_misconfigured configured] at loaded
      cases loaded
  | ok configuration =>
      cases isPath : source.policy.or configuration.resolvedPolicyPath with
      | none =>
          rw [loadSource_of_pathless configured isPath] at loaded
          cases loaded
      | some path =>
          rw [loadSource_of_path configured isPath] at loaded
          rcases Except.map_eq_ok_iff.mp loaded with ⟨read, isRead, same⟩
          cases same
          exact isWritable_of_loadPolicy isRead

/-- The suite that commands ask. -/
def suiteOf (policy : Policy) (levels : Levels) : Suite :=
  (Suite.ofPolicy standardRegistry policy).withLevels levels

theorem withSuite_of_error {failure : Failure}
    (failed : loadSource surroundings source = .error failure)
    (isVerbose : Bool) (answer : Suite → Except Failure Result) :
    withSuite surroundings isVerbose source answer = surroundings.output "" (.error failure) := by
  simp only [withSuite, failed, bind, pure]

/-- Diagnostics are written once the suite is loaded, whatever comes of it. -/
theorem withSuite_of_ok (loaded : loadSource surroundings source = .ok (policy, levels))
    (isVerbose : Bool) (answer : Suite → Except Failure Result) :
    withSuite surroundings isVerbose source answer =
      surroundings.output (if isVerbose then diagnosticLines policy else "")
        (answer (suiteOf policy levels)) := by
  simp only [withSuite, loaded, bind, pure, suiteOf]

/-- Every suite of a policy that was read can be inspected. -/
theorem exists_inspectSuite_eq_ok (writable : policy.IsWritable) (levels : Levels)
    (fingerprintOnly : Bool) :
    ∃ lines, inspectSuite fingerprintOnly (suiteOf policy levels) = .ok ⟨0, lines⟩ := by
  have snapshotWritable := writable.isWritable_snapshot standardRegistry
  rw [inspectSuite]
  cases fingerprintOnly with
  | true =>
      rcases (Snapshot.exists_canonicalText_eq_ok_iff _).mpr snapshotWritable with
        ⟨text, written⟩
      have isFingerprint : (suiteOf policy levels).fingerprint = .ok (.ofText text) :=
        Except.map_eq_ok_iff.mpr ⟨text, written, rfl⟩
      rw [isFingerprint]
      exact ⟨_, rfl⟩
  | false =>
      rcases Snapshot.exists_toJson_eq_ok snapshotWritable with ⟨json, written⟩
      have isSnapshot : (suiteOf policy levels).snapshot.toJson = .ok json := written
      rw [isSnapshot]
      exact ⟨_, rfl⟩

end Suites

end CommandLine

end AlgorithmPolicy

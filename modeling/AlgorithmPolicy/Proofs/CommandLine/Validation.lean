import AlgorithmPolicy.Proofs.CommandLine.Status

/-! Validating a configuration vouches for it: where a policy is named, inspecting comes to a
result exactly if the configuration is valid, and otherwise both fail for the same reason. The
two load the configuration in different ways, and only inspecting does anything with what is
loaded. -/

namespace AlgorithmPolicy.CommandLine

variable {surroundings : Surroundings Id} {given : Option String}

/-- The configuration can be loaded, and it names a policy. -/
def NamesPolicy (surroundings : Surroundings Id) (given : Option String) : Prop :=
  ∃ configuration path,
    Configuration.load surroundings.look given surroundings.variableValue = .ok configuration ∧
      configuration.policyPath = some path

theorem namesPolicy_iff {configuration : Configuration}
    (loaded : Configuration.load surroundings.look given surroundings.variableValue =
      .ok configuration) :
    NamesPolicy surroundings given ↔ ∃ path, configuration.resolvedPolicyPath = some path := by
  constructor
  · intro names
    rcases names with ⟨named, path, isLoaded, isPath⟩
    cases loaded.symm.trans isLoaded
    rw [Configuration.resolvedPolicyPath, isPath]
    exact ⟨_, rfl⟩
  · intro resolved
    rcases resolved with ⟨resolved, isResolved⟩
    rcases Option.map_eq_some_iff.mp isResolved with ⟨path, isPath, -⟩
    exact ⟨configuration, path, loaded, isPath⟩

/-! ## Loading -/

/-- What comes of a validation, and what is loaded with the same configuration for a suite. -/
inductive LoadsAlike (surroundings : Surroundings Id) (given : Option String) : Prop
  | refused {failure : Failure}
      (notValid : validateConfiguration surroundings given = .error failure)
      (notLoaded : loadSource surroundings ⟨given, none⟩ = .error failure)
  | withoutPolicy (valid : IsValid surroundings given)
      (unnamed : ¬ NamesPolicy surroundings given)
      (notLoaded : loadSource surroundings ⟨given, none⟩ = .error .noPolicy)
  | withPolicy {policy : Policy} {levels : Levels} (valid : IsValid surroundings given)
      (names : NamesPolicy surroundings given)
      (loaded : loadSource surroundings ⟨given, none⟩ = .ok (policy, levels))

theorem loadsAlike (has : HasConfiguration surroundings given) :
    LoadsAlike surroundings given := by
  -- There is something to load, so both load it; from there on they look up the same path.
  have same := loadOrInitial_of_hasConfiguration has
  cases loaded : (Configuration.load surroundings.look given surroundings.variableValue :
      Except LoadError Configuration) with
  | error error =>
      exact .refused (validateConfiguration_of_error loaded)
        (loadSource_of_misconfigured (same.trans loaded))
  | ok configuration =>
      have names_iff := namesPolicy_iff loaded
      cases isPath : configuration.resolvedPolicyPath with
      | none =>
          have validated := validateConfiguration_of_pathless loaded isPath
          refine .withoutPolicy (validateConfiguration_eq_ok_iff.mp validated).1 ?_
            (loadSource_of_pathless (same.trans loaded) isPath)
          rw [names_iff, isPath]
          nofun
      | some path =>
          have validated := validateConfiguration_of_path loaded isPath
          have isLoaded : loadSource surroundings ⟨given, none⟩ = _ :=
            loadSource_of_path (same.trans loaded) isPath
          cases read : (loadPolicy surroundings.look path : Except Failure Policy) with
          | error failure =>
              rw [read] at validated isLoaded
              exact .refused validated isLoaded
          | ok policy =>
              rw [read] at validated isLoaded
              exact .withPolicy (validateConfiguration_eq_ok_iff.mp validated).1
                (names_iff.mpr ⟨path, isPath⟩) isLoaded

/-- Without a configuration there is nothing to validate, and no policy to inspect. -/
theorem fail_of_not_hasConfiguration (hasNone : ¬ HasConfiguration surroundings given) :
    (∃ failure, validateConfiguration surroundings given = .error failure) ∧
      loadSource surroundings ⟨given, none⟩ = .error .noPolicy := by
  constructor
  · rcases load_of_not_hasConfiguration hasNone with ⟨error, failed⟩
    exact ⟨_, validateConfiguration_of_error failed⟩
  · exact loadSource_of_pathless (loadOrInitial_of_not_hasConfiguration hasNone) rfl

/-! ## Outputs -/

section Outputs

variable {arguments : List String} {failure : Failure}

theorem exitStatus_of_error
    (failed : run surroundings arguments = surroundings.output "" (.error failure)) :
    exitStatus surroundings arguments = 1 := by
  rw [exitStatus, failed]
  rfl

theorem run_validation_of_error (requests : Requests arguments (.validateConfiguration given))
    (failed : validateConfiguration surroundings given = .error failure) :
    run surroundings arguments = surroundings.output "" (.error failure) := by
  rcases run_of_requests requests surroundings with ⟨isVerbose, isRun⟩
  simp only [isRun, runCommand, failed, bind, pure]

theorem exitStatus_validation_of_isValid
    (requests : Requests arguments (.validateConfiguration given))
    (valid : IsValid surroundings given) : exitStatus surroundings arguments = 0 := by
  rcases run_of_requests requests surroundings with ⟨isVerbose, isRun⟩
  have validated := validateConfiguration_eq_ok_iff.mpr ⟨valid, rfl⟩
  simp only [exitStatus, isRun, runCommand, validated, bind, pure]
  rfl

theorem run_inspection_of_error {source : Source} {fingerprintOnly : Bool}
    (requests : Requests arguments (.inspect source fingerprintOnly))
    (failed : loadSource surroundings source = .error failure) :
    run surroundings arguments = surroundings.output "" (.error failure) := by
  rcases run_of_requests requests surroundings with ⟨isVerbose, isRun⟩
  rw [isRun, runCommand, withSuite_of_error failed]

theorem exitStatus_inspection_of_ok {source : Source} {fingerprintOnly : Bool} {policy : Policy}
    {levels : Levels} (requests : Requests arguments (.inspect source fingerprintOnly))
    (loaded : loadSource surroundings source = .ok (policy, levels)) :
    exitStatus surroundings arguments = 0 := by
  rcases run_of_requests requests surroundings with ⟨isVerbose, isRun⟩
  rcases exists_inspectSuite_eq_ok (isWritable_of_loadSource loaded) levels fingerprintOnly with
    ⟨lines, isResult⟩
  rw [exitStatus, isRun, runCommand, withSuite_of_ok loaded, isResult]
  rfl

end Outputs

/-! ## Vouching -/

/-- A validation accepts what is valid. It accepts a configuration that names a policy if
inspecting comes to a result, and only then. If it refuses a configuration, inspecting fails
with the same message. -/
structure Vouches (surroundings : Surroundings Id) (given : Option String)
    (validation inspection : List String) : Prop where
  judges : exitStatus surroundings validation = 0 ↔ IsValid surroundings given
  accepts : exitStatus surroundings validation = 0 ∧ NamesPolicy surroundings given ↔
    exitStatus surroundings inspection = 0
  refuses : exitStatus surroundings validation = 1 → HasConfiguration surroundings given →
    exitStatus surroundings inspection = 1 ∧
      (run surroundings inspection : Output).standardError =
        (run surroundings validation : Output).standardError

/-- Whatever files there are, and with or without a configuration that is named. -/
theorem vouches (surroundings : Surroundings Id) {given : Option String}
    {fingerprintOnly : Bool} {validation inspection : List String}
    (validates : Requests validation (.validateConfiguration given))
    (inspects : Requests inspection (.inspect ⟨given, none⟩ fingerprintOnly)) :
    Vouches surroundings given validation inspection := by
  by_cases has : HasConfiguration surroundings given
  · cases loadsAlike has with
    | refused notValid notLoaded =>
        have validated := run_validation_of_error validates notValid
        have inspected := run_inspection_of_error inspects notLoaded
        have isRefused := exitStatus_of_error validated
        have isOne := exitStatus_of_error inspected
        exact {
          judges := by simp [isRefused, not_isValid_of_error notValid]
          accepts := by simp [isRefused, isOne]
          refuses := fun _ _ => ⟨isOne, by rw [inspected, validated]⟩ }
    | withoutPolicy valid unnamed notLoaded =>
        have isAccepted := exitStatus_validation_of_isValid validates valid
        have isOne := exitStatus_of_error (run_inspection_of_error inspects notLoaded)
        exact {
          judges := by simp [isAccepted, valid]
          accepts := by simp [unnamed, isOne]
          refuses := by simp [isAccepted] }
    | withPolicy valid names loaded =>
        have isAccepted := exitStatus_validation_of_isValid validates valid
        have isZero := exitStatus_inspection_of_ok inspects loaded
        exact {
          judges := by simp [isAccepted, valid]
          accepts := by simp [isAccepted, names, isZero]
          refuses := by simp [isAccepted] }
  · rcases fail_of_not_hasConfiguration has with ⟨⟨failure, notValid⟩, notLoaded⟩
    have isRefused := exitStatus_of_error (run_validation_of_error validates notValid)
    have isOne := exitStatus_of_error (run_inspection_of_error inspects notLoaded)
    exact {
      judges := by simp [isRefused, not_isValid_of_error notValid]
      accepts := by simp [isRefused, isOne]
      refuses := fun _ isThere => absurd isThere has }

/-- A working directory with a configuration that names a policy without entries. -/
def directoryWithPolicy : Surroundings Id where
  look := FileTree.lookUp <|
    (FileTree.empty.add "cryptosuite.toml" "[policy]\npath = \"policy.json\"".toUTF8).add
      "policy.json" "\x7b\"algorithms\": []\x7d".toUTF8
  variableValue := none
  now := Suite.startOfYear
  explain := fun _ => "malformed configuration"

theorem vouches_of_directoryWithPolicy :
    Requests ["config", "validate"] (.validateConfiguration none) ∧
      Requests ["inspect", "--fingerprint"] (.inspect ⟨none, none⟩ true) ∧
      exitStatus directoryWithPolicy ["config", "validate"] = 0 ∧
      Vouches directoryWithPolicy none ["config", "validate"] ["inspect", "--fingerprint"] := by
  have validates : Requests ["config", "validate"] (.validateConfiguration none) :=
    ⟨false, by decide⟩
  have inspects : Requests ["inspect", "--fingerprint"] (.inspect ⟨none, none⟩ true) :=
    ⟨false, by decide⟩
  exact ⟨validates, inspects, by decide +kernel, vouches directoryWithPolicy validates inspects⟩

end AlgorithmPolicy.CommandLine

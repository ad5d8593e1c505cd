import AlgorithmPolicy.FileSystem.Tree
import AlgorithmPolicy.Proofs.CommandLine.Loading

/-! The status with which commands exit. It is 2 where a check finds a failure, 1 where nothing
comes of a command, and 0 everywhere else. Arguments that are no request are the exception: they
are refused with 2, before any command is run. -/

namespace AlgorithmPolicy

theorem Report.isAcceptable_eq_false_iff (report : Report) :
    report.isAcceptable = false ↔ ∃ violation ∈ report.violations, violation.level = .fail := by
  simp [isAcceptable]

namespace CommandLine

variable {surroundings : Surroundings Id} {arguments : List String} {command : Command}
  {moment : Instant} {report : Report}

/-! ## Requests -/

/-- Arguments ask for a command, and not for the version instead. -/
def Requests (arguments : List String) (command : Command) : Prop :=
  ∃ isVerbose, parse arguments = .ok ⟨false, isVerbose, some command⟩

theorem run_of_requests (requests : Requests arguments command)
    (surroundings : Surroundings Id) :
    ∃ isVerbose, run surroundings arguments = runCommand surroundings isVerbose command := by
  rcases requests with ⟨isVerbose, parsed⟩
  refine ⟨isVerbose, ?_⟩
  rw [run, parsed]
  rfl

def exitStatus (surroundings : Surroundings Id) (arguments : List String) : UInt8 :=
  (run surroundings arguments : Output).status

theorem exitStatus_of_usage (isUsage : parse arguments = .error .usage)
    (surroundings : Surroundings Id) : exitStatus surroundings arguments = 2 := by
  rw [exitStatus, run, isUsage]
  rfl

/-- Help and the version are always shown. -/
theorem exitStatus_of_not_requests (notUsage : parse arguments ≠ .error .usage)
    (noCommand : ∀ command, ¬ Requests arguments command) (surroundings : Surroundings Id) :
    exitStatus surroundings arguments = 0 := by
  rw [exitStatus, run]
  cases parsed : parse arguments with
  | error refusal =>
      cases refusal with
      | help => rfl
      | usage => exact absurd parsed notUsage
  | ok request =>
      rcases request with ⟨showsVersion, isVerbose, command⟩
      cases showsVersion with
      | true => rfl
      | false =>
          cases command with
          | none => rfl
          | some command => exact absurd ⟨isVerbose, parsed⟩ (noCommand command)

/-! ## Checks -/

section Checks

variable {α : Type} {source : Source} {resolved : Except Failure α} {text : Option String}
  {subject : α} {policy : Policy} {levels : Levels}

/-- Everything that a check asks for is there. -/
structure IsReady (surroundings : Surroundings Id) (source : Source)
    (resolved : Except Failure α) (text : Option String) (subject : α) (moment : Instant)
    (policy : Policy) (levels : Levels) : Prop where
  resolved : resolved = .ok subject
  moment : momentOf surroundings text = .ok moment
  suite : loadSource surroundings source = .ok (policy, levels)

/-- Something that a check asks for is not there. What else is missing, and what is looked for
first, makes no difference. -/
inductive IsHindered (surroundings : Surroundings Id) (source : Source)
    (resolved : Except Failure α) (text : Option String) : Prop
  | resolved {failure : Failure} (failed : resolved = .error failure)
  | moment {failure : Failure} (failed : momentOf surroundings text = .error failure)
  | suite {failure : Failure} (failed : loadSource surroundings source = .error failure)

theorem isHindered_or_isReady (surroundings : Surroundings Id) (source : Source)
    (resolved : Except Failure α) (text : Option String) :
    IsHindered surroundings source resolved text ∨ ∃ subject moment policy levels,
      IsReady surroundings source resolved text subject moment policy levels := by
  cases isResolved : resolved with
  | error failure => exact .inl (.resolved rfl)
  | ok subject =>
      cases isMoment : (momentOf surroundings text : Except Failure Instant) with
      | error failure => exact .inl (.moment isMoment)
      | ok moment =>
          cases isSuite : (loadSource surroundings source : Except Failure (Policy × Levels)) with
          | error failure => exact .inl (.suite isSuite)
          | ok loaded => exact .inr ⟨subject, moment, loaded.1, loaded.2, rfl, isMoment, isSuite⟩

theorem runCheck_of_isReady
    (ready : IsReady surroundings source resolved text subject moment policy levels)
    (isVerbose : Bool) (answer : α → Instant → Suite → Except Failure Result) :
    runCheck surroundings isVerbose source resolved text answer =
      surroundings.output (if isVerbose then diagnosticLines policy else "")
        (answer subject moment (suiteOf policy levels)) := by
  simp only [runCheck, ready.resolved, ready.moment, bind]
  exact withSuite_of_ok ready.suite isVerbose _

theorem status_runCheck_of_isHindered
    (hindered : IsHindered surroundings source resolved text) (isVerbose : Bool)
    (answer : α → Instant → Suite → Except Failure Result) :
    (runCheck surroundings isVerbose source resolved text answer : Output).status = 1 := by
  cases isResolved : resolved with
  | error failure => rfl
  | ok subject =>
      cases isMoment : (momentOf surroundings text : Except Failure Instant) with
      | error failure =>
          simp only [runCheck, isMoment, bind, pure]
          rfl
      | ok moment =>
          simp only [runCheck, isMoment, bind]
          -- Only the suite is left to be missing.
          cases hindered with
          | resolved failed => cases isResolved.symm.trans failed
          | moment failed => cases isMoment.symm.trans failed
          | suite failed =>
              rw [withSuite_of_error failed]
              rfl

theorem reportResult_of_isWritable (writable : moment.IsWritable) (format : Format)
    (name : String) (report : Report) :
    ∃ lines, reportResult format name moment report = .ok ⟨reportStatus report, lines⟩ := by
  rcases (Instant.isWritable_iff moment).mp writable with ⟨written, isWritten⟩
  rw [reportResult, isWritten]
  exact ⟨_, rfl⟩

theorem reportResult_of_not_isWritable (unwritable : ¬ moment.IsWritable) (format : Format)
    (name : String) (report : Report) :
    ∃ failure, reportResult format name moment report = .error failure := by
  rw [reportResult]
  cases isWritten : Rfc3339.write moment with
  | error obstacle => exact ⟨_, rfl⟩
  | ok written => exact absurd ((Instant.isWritable_iff moment).mpr ⟨written, isWritten⟩) unwritable

end Checks

/-- A check comes to a report on a moment. -/
inductive Reports (surroundings : Surroundings Id) : Command → Instant → Report → Prop
  | digest {source : Source} {algorithm : String} {text : Option String} {format : Format}
      {digest : Digest} {moment : Instant} {policy : Policy} {levels : Levels}
      (ready : IsReady surroundings source (resolveDigest algorithm) text digest moment policy
        levels) :
      Reports surroundings (.checkDigest source algorithm text format) moment
        ((suiteOf policy levels).checkDigest digest moment)
  | signature {source : Source} {algorithm : String} {keySize : UInt32} {text : Option String}
      {format : Format} {signature : Signature} {moment : Instant} {policy : Policy}
      {levels : Levels}
      (ready : IsReady surroundings source (resolveSignature algorithm) text signature moment
        policy levels) :
      Reports surroundings (.checkSignature source algorithm keySize text format) moment
        ((suiteOf policy levels).checkSignature signature keySize moment)

/-- A command comes to no result. A report is none if its moment cannot be written. -/
inductive Fails (surroundings : Surroundings Id) : Command → Prop
  | inspect {source : Source} {fingerprintOnly : Bool} {failure : Failure}
      (failed : loadSource surroundings source = .error failure) :
      Fails surroundings (.inspect source fingerprintOnly)
  | digest {source : Source} {algorithm : String} {text : Option String} {format : Format}
      (hindered : IsHindered surroundings source (resolveDigest algorithm) text) :
      Fails surroundings (.checkDigest source algorithm text format)
  | signature {source : Source} {algorithm : String} {keySize : UInt32} {text : Option String}
      {format : Format}
      (hindered : IsHindered surroundings source (resolveSignature algorithm) text) :
      Fails surroundings (.checkSignature source algorithm keySize text format)
  | unwritable {command : Command} {moment : Instant} {report : Report}
      (reports : Reports surroundings command moment report)
      (unwritable : ¬ moment.IsWritable) : Fails surroundings command
  | validate {path : Option String} {failure : Failure}
      (failed : validateConfiguration surroundings path = .error failure) :
      Fails surroundings (.validateConfiguration path)

theorem runCommand_of_reports (reports : Reports surroundings command moment report)
    (isVerbose : Bool) :
    ∃ diagnostics format name, runCommand surroundings isVerbose command =
      surroundings.output diagnostics (reportResult format name moment report) := by
  cases reports with
  | digest ready =>
      rw [runCommand, runCheck_of_isReady ready]
      exact ⟨_, _, _, rfl⟩
  | signature ready =>
      rw [runCommand, runCheck_of_isReady ready]
      exact ⟨_, _, _, rfl⟩

theorem status_of_reports (reports : Reports surroundings command moment report)
    (writable : moment.IsWritable) (isVerbose : Bool) :
    (runCommand surroundings isVerbose command : Output).status = reportStatus report := by
  rcases runCommand_of_reports reports isVerbose with ⟨diagnostics, format, name, isOutput⟩
  rcases reportResult_of_isWritable writable format name report with ⟨lines, isResult⟩
  rw [isOutput, isResult]
  rfl

theorem status_of_fails (fails : Fails surroundings command) (isVerbose : Bool) :
    (runCommand surroundings isVerbose command : Output).status = 1 := by
  cases fails with
  | inspect failed =>
      rw [runCommand, withSuite_of_error failed]
      rfl
  | digest hindered =>
      rw [runCommand]
      exact status_runCheck_of_isHindered hindered isVerbose _
  | signature hindered =>
      rw [runCommand]
      exact status_runCheck_of_isHindered hindered isVerbose _
  | @unwritable _ moment report reports unwritable =>
      rcases runCommand_of_reports reports isVerbose with ⟨diagnostics, format, name, isOutput⟩
      rcases reportResult_of_not_isWritable unwritable format name report with
        ⟨failure, isFailure⟩
      rw [isOutput, isFailure]
      rfl
  | validate failed =>
      simp only [runCommand, failed, bind, pure]
      rfl

/-- Every command fails, or comes to a report, or is done. -/
theorem status_cases (surroundings : Surroundings Id) (command : Command) (isVerbose : Bool) :
    Fails surroundings command ∨
      (∃ moment report, Reports surroundings command moment report) ∨
      (runCommand surroundings isVerbose command : Output).status = 0 := by
  cases command with
  | inspect source fingerprintOnly =>
      cases isSuite : (loadSource surroundings source : Except Failure (Policy × Levels)) with
      | error failure => exact .inl (.inspect isSuite)
      | ok loaded =>
          rcases exists_inspectSuite_eq_ok (isWritable_of_loadSource isSuite) loaded.2
            fingerprintOnly with ⟨lines, isResult⟩
          right
          right
          rw [runCommand, withSuite_of_ok isSuite, isResult]
          rfl
  | checkDigest source algorithm text format =>
      rcases isHindered_or_isReady surroundings source (resolveDigest algorithm) text with
        hindered | ⟨digest, moment, policy, levels, ready⟩
      · exact .inl (.digest hindered)
      · exact .inr (.inl ⟨moment, _, .digest ready⟩)
  | checkSignature source algorithm keySize text format =>
      rcases isHindered_or_isReady surroundings source (resolveSignature algorithm) text with
        hindered | ⟨signature, moment, policy, levels, ready⟩
      · exact .inl (.signature hindered)
      · exact .inr (.inl ⟨moment, _, .signature ready⟩)
  | validateConfiguration path =>
      cases isValid : (validateConfiguration surroundings path : Except Failure Result) with
      | error failure => exact .inl (.validate isValid)
      | ok result =>
          right
          right
          simp only [runCommand, isValid, bind, pure]
          rw [(validateConfiguration_eq_ok_iff.mp isValid).2]
          rfl
  | exampleConfiguration => exact .inr (.inr rfl)

/-! ## Failures apart -/

/-- A check that is asked for finds a failure at a moment. -/
def FindsFailureAt (surroundings : Surroundings Id) (arguments : List String)
    (moment : Instant) : Prop :=
  ∃ command report, Requests arguments command ∧ Reports surroundings command moment report ∧
    ∃ violation ∈ report.violations, violation.level = .fail

def FindsFailure (surroundings : Surroundings Id) (arguments : List String) : Prop :=
  ∃ moment, FindsFailureAt surroundings arguments moment

/-- Arguments are no request, or the command that they ask for fails. -/
inductive ComesToNothing (surroundings : Surroundings Id) (arguments : List String) : Prop
  | usage (isUsage : parse arguments = .error .usage)
  | fails {command : Command} (requests : Requests arguments command)
      (fails : Fails surroundings command)

/-- The status tells whether a check finds a failure or nothing comes of the arguments. -/
structure TellsFailures (surroundings : Surroundings Id) (arguments : List String) : Prop where
  two : exitStatus surroundings arguments = 2 ↔ FindsFailure surroundings arguments
  one : exitStatus surroundings arguments = 1 ↔
    ¬ FindsFailure surroundings arguments ∧ ComesToNothing surroundings arguments
  zero : exitStatus surroundings arguments = 0 ↔
    ¬ FindsFailure surroundings arguments ∧ ¬ ComesToNothing surroundings arguments

/-- A moment that is stated was read, so it can be written. -/
theorem isWritable_of_momentOf_some {text : String}
    (isMoment : momentOf surroundings (some text) = .ok moment) : moment.IsWritable := by
  rw [momentOf] at isMoment
  cases isRead : Rfc3339.read text with
  | none =>
      rw [isRead] at isMoment
      cases isMoment
  | some read =>
      rw [isRead] at isMoment
      cases isMoment
      exact Rfc3339.obstacle?_eq_none_of_read isRead

theorem IsReady.moment_eq_or_isWritable {α : Type} {source : Source}
    {resolved : Except Failure α} {text : Option String} {subject : α} {policy : Policy}
    {levels : Levels}
    (ready : IsReady surroundings source resolved text subject moment policy levels) :
    moment = surroundings.now ∨ moment.IsWritable := by
  cases text with
  | none =>
      left
      cases ready.moment
      rfl
  | some text => exact .inr (isWritable_of_momentOf_some ready.moment)

theorem Reports.moment_eq_or_isWritable (reports : Reports surroundings command moment report) :
    moment = surroundings.now ∨ moment.IsWritable := by
  cases reports with
  | digest ready => exact ready.moment_eq_or_isWritable
  | signature ready => exact ready.moment_eq_or_isWritable

theorem exitStatus_of_findsFailureAt (finds : FindsFailureAt surroundings arguments moment)
    (writable : moment.IsWritable) : exitStatus surroundings arguments = 2 := by
  rcases finds with ⟨command, report, requests, reports, failure⟩
  rcases run_of_requests requests surroundings with ⟨isVerbose, isRun⟩
  have notAcceptable := report.isAcceptable_eq_false_iff.mpr failure
  rw [exitStatus, isRun, status_of_reports reports writable, reportStatus, notAcceptable]
  rfl

theorem exitStatus_of_fails (requests : Requests arguments command)
    (fails : Fails surroundings command) : exitStatus surroundings arguments = 1 := by
  rcases run_of_requests requests surroundings with ⟨isVerbose, isRun⟩
  rw [exitStatus, isRun, status_of_fails fails]

theorem exitStatus_of_neither (noFailure : ¬ FindsFailure surroundings arguments)
    (something : ¬ ComesToNothing surroundings arguments) :
    exitStatus surroundings arguments = 0 := by
  by_cases asks : ∃ command, Requests arguments command
  · rcases asks with ⟨command, requests⟩
    rcases run_of_requests requests surroundings with ⟨isVerbose, isRun⟩
    rw [exitStatus, isRun]
    rcases status_cases surroundings command isVerbose with
      fails | ⟨moment, report, reports⟩ | isDone
    · exact absurd (.fails requests fails) something
    · have writable : moment.IsWritable := by
        by_contra unwritable
        exact something (.fails requests (.unwritable reports unwritable))
      rw [status_of_reports reports writable, reportStatus]
      have isAcceptable : report.isAcceptable = true := by
        by_contra notAcceptable
        have failure :=
          report.isAcceptable_eq_false_iff.mp (Bool.eq_false_iff.mpr notAcceptable)
        exact noFailure ⟨moment, command, report, requests, reports, failure⟩
      rw [isAcceptable]
      rfl
    · exact isDone
  · exact exitStatus_of_not_requests (fun isUsage => something (.usage isUsage))
      (not_exists.mp asks) surroundings

/-- Failures are told apart, save where arguments are no request, and where a check finds a
failure at a present moment that cannot be written. -/
theorem tellsFailures_iff (surroundings : Surroundings Id) (arguments : List String) :
    TellsFailures surroundings arguments ↔
      parse arguments ≠ .error .usage ∧
        (FindsFailureAt surroundings arguments surroundings.now →
          (surroundings.now : Instant).IsWritable) := by
  constructor
  · intro tells
    constructor
    · intro isUsage
      rcases tells.two.mp (exitStatus_of_usage isUsage surroundings) with
        ⟨moment, command, report, ⟨isVerbose, parsed⟩, -⟩
      cases isUsage.symm.trans parsed
    · intro finds
      by_contra unwritable
      have isTwo := tells.two.mpr ⟨_, finds⟩
      rcases finds with ⟨command, report, requests, reports, -⟩
      -- The report is there, but it is not written, and that is a failure of another kind.
      have isOne := exitStatus_of_fails requests (.unwritable reports unwritable)
      cases isOne.symm.trans isTwo
  · intro told
    rcases told with ⟨notUsage, writable⟩
    by_cases finds : FindsFailure surroundings arguments
    · have isTwo : exitStatus surroundings arguments = 2 := by
        rcases finds with ⟨moment, findsAt⟩
        have ⟨command, report, _, reports, _⟩ := findsAt
        rcases reports.moment_eq_or_isWritable with rfl | momentWritable
        · exact exitStatus_of_findsFailureAt findsAt (writable findsAt)
        · exact exitStatus_of_findsFailureAt findsAt momentWritable
      exact {
        two := by simp [isTwo, finds]
        one := by simp [isTwo, finds]
        zero := by simp [isTwo, finds] }
    · by_cases nothing : ComesToNothing surroundings arguments
      · have isOne : exitStatus surroundings arguments = 1 := by
          cases nothing with
          | usage isUsage => exact absurd isUsage notUsage
          | fails requests fails => exact exitStatus_of_fails requests fails
        exact {
          two := by simp [isOne, finds]
          one := by simp [isOne, finds, nothing]
          zero := by simp [isOne, nothing] }
      · have isZero := exitStatus_of_neither finds nothing
        exact {
          two := by simp [isZero, finds]
          one := by simp [isZero, nothing]
          zero := by simp [isZero, finds, nothing] }

/-- A working directory without files, at some time. -/
def emptyDirectory : Surroundings Id where
  look := FileTree.lookUp .empty
  variableValue := none
  now := Suite.startOfYear
  explain := fun _ => "malformed configuration"

/-- A check without an algorithm is no request, and it exits with the status of a failed check. -/
theorem not_tellsFailures_of_missing_algorithm :
    exitStatus emptyDirectory ["check", "digest"] = 2 ∧
      ¬ FindsFailure emptyDirectory ["check", "digest"] ∧
      ¬ TellsFailures emptyDirectory ["check", "digest"] := by
  have isUsage : parse ["check", "digest"] = .error .usage := by decide
  have isTwo := exitStatus_of_usage isUsage emptyDirectory
  have noFailure : ¬ FindsFailure emptyDirectory ["check", "digest"] := by
    intro finds
    rcases finds with ⟨moment, command, report, ⟨isVerbose, parsed⟩, -⟩
    cases isUsage.symm.trans parsed
  exact ⟨isTwo, noFailure, fun tells => noFailure (tells.two.mp isTwo)⟩

end CommandLine

end AlgorithmPolicy

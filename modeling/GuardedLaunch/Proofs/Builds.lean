import GuardedLaunch.Kernel.History
import GuardedLaunch.Program
import GuardedLaunch.Proofs.Exit

/-!
# The program in its builds

The program puts a launch together from its two halves and sets the log up in between, while
the library has it in one piece; and it is built with either of two profiles and two levels
of the log. For a command line that does not name the permitted script none of this shows,
except that one of the builds logs more: what the program prints and how it exits are settled
by slot 1 alone, whoever calls it and whether or not anybody reads what it prints.

- `Program.inStages_eq_run`: the two ways of putting a launch together.
- `refusal`, `Build.run_of_refusal`: what a launch of such a command line comes to on any host.
- `Program.run_of_refusal`: and what the program puts out.
- `ReportsLaunch`, `ReportsRefusal`, `BuildsAgree`: what is claimed of one output, and of all.
-/

namespace GuardedLaunch

/-! ## The two ways of putting a launch together -/

/-- The program in its stages puts out what a whole launch with all of its events comes to:
the first half of a launch reports nothing, so that no event comes before the log. -/
theorem Program.inStages_eq_run (build : Build) (argv : List Bytes) (stdoutOpen : Bool)
    (kernel : Kernel) :
    inStages build argv stdoutOpen kernel = run build argv stdoutOpen kernel := by
  unfold inStages run GuardedLaunch.run
  dsimp only
  cases (sanitize Kernel.host build.profile (started kernel)).1 with
  | error failure => rfl
  | ok env => rfl

theorem Program.finish_stderr (outcome : Outcome Kernel) (stdoutOpen : Bool) (stderr : String) :
    (finish outcome stdoutOpen stderr).stderr = stderr := by
  unfold finish
  repeat' split
  all_goals rfl

/-! ## Command lines that are refused -/

/-- Why a command line is refused that names no permitted script. -/
def refusal (argv : List Bytes) : Failure :=
  match argv[1]? with
  | some candidate => .scriptNotPermitted (decodeLossy candidate)
  | none => .scriptMissing

namespace Build

theorem validate_profile (build : Build) : build.profile.validate = .ok () := by
  cases build with
  | standard => exact Profile.validate_system
  | traced => exact Profile.validate_conda

/-- Every build permits the same one script. -/
theorem permits_iff (build : Build) {candidate : Bytes} :
    build.profile.Permits candidate ↔ utf8 Profile.ingestScript = candidate := by
  have scripts : build.profile.scripts = [Profile.ingestScript] := by
    cases build <;> rfl
  rw [Profile.Permits, scripts]
  simp

variable {argv : List Bytes}

theorem authorize_of_refusal (build : Build)
    (unpermitted : argv[1]? ≠ some (utf8 Profile.ingestScript)) :
    build.profile.authorize argv = .error (refusal argv) := by
  refine Profile.authorize_error_iff.mpr ?_
  rw [refusal]
  cases named : argv[1]? with
  | none => exact Or.inl ⟨Nat.lt_succ_of_le (List.getElem?_eq_none_iff.mp named), rfl⟩
  | some candidate =>
    refine Or.inr ⟨candidate, rfl, fun permits => unpermitted ?_, rfl⟩
    rw [named, build.permits_iff.mp permits]

/-- The events of a launch that refuses a command line. -/
def refusalEvents (build : Build) (argv : List Bytes) : List Event :=
  [.sanitized build.profile.environment.names, .rejected (refusal argv)]

/-- No build launches such a command line, on any host: the host is told to throw the
inherited environment away and is asked for nothing else. -/
theorem run_of_refusal {σ : Type} (host : Host σ) (build : Build)
    (unpermitted : argv[1]? ≠ some (utf8 Profile.ingestScript)) (state : σ) :
    run host build.profile argv state
      = ⟨refusal argv, build.refusalEvents argv, host.wipe state⟩ := by
  have gate := build.authorize_of_refusal unpermitted
  have exit : RunExit host build.profile argv state _ _ :=
    .launched build.validate_profile (.refused gate)
  exact exit.run_eq

end Build

/-! ## The output -/

namespace Program

variable {argv : List Bytes}

/-- The process that the program begins with outlives the loss of its diagnostic, with or
without an environment. -/
theorem outlivesBrokenPipe_started (kernel : Kernel) :
    outlivesBrokenPipe (started kernel).clearenv.process = true := by
  have ignored : Signal.brokenPipe ∈ (started kernel).clearenv.process.ignored :=
    SignalSet.mem_insert.mpr (Or.inl rfl)
  rw [outlivesBrokenPipe, decide_eq_true_iff]
  exact Or.inl ignored

theorem run_of_refusal (build : Build)
    (unpermitted : argv[1]? ≠ some (utf8 Profile.ingestScript)) (stdoutOpen : Bool)
    (kernel : Kernel) :
    run build argv stdoutOpen kernel
      = { ending := .exited (refusal argv).exitStatus.code
          stdout := if stdoutOpen then (refusal argv).message ++ "\n" else ""
          stderr := Log.text build.leastLevel (build.refusalEvents argv) } := by
  have outlives := outlivesBrokenPipe_started kernel
  rw [run, build.run_of_refusal Kernel.host unpermitted, finish]
  cases stdoutOpen with
  | true => rfl
  | false =>
    rw [if_neg Bool.false_ne_true, if_neg Bool.false_ne_true]
    exact if_pos outlives

end Program

/-! ## The log -/

/-- The traced build shows every event. -/
theorem Log.text_traced (events : List Event) :
    Log.text Build.traced.leastLevel events = String.join (events.map Log.line) := by
  have all : events.filter (·.level.shownFrom Build.traced.leastLevel) = events := by
    refine List.filter_eq_self.mpr fun event _ => ?_
    cases event.level <;> rfl
  rw [Log.text, all]

/-- The standard build shows the warnings and nothing else. -/
theorem Log.text_standard (events : List Event) :
    Log.text Build.standard.leastLevel events
      = String.join ((events.filter (·.level = .warn)).map Log.line) := by
  have shown (event : Event) :
      event.level.shownFrom Build.standard.leastLevel = decide (event.level = .warn) := by
    cases event.level <;> rfl
  rw [Log.text, funext shown]

/-- It shows a refusal and not what comes before it. -/
theorem Log.text_standard_refusal (build : Build) (argv : List Bytes) :
    Log.text Build.standard.leastLevel (build.refusalEvents argv)
      = Log.line (.rejected (refusal argv)) := by
  rw [Log.text_standard]
  show String.join [Log.line (.rejected (refusal argv))] = _
  rw [String.join, List.foldl_cons, List.foldl_nil, String.empty_append]

theorem Log.text_traced_refusal (build : Build) (argv : List Bytes) :
    Log.text Build.traced.leastLevel (build.refusalEvents argv)
      = Log.line (.sanitized build.profile.environment.names)
        ++ Log.line (.rejected (refusal argv)) := by
  rw [Log.text_traced]
  show String.join [Log.line _, Log.line _] = _
  rw [String.join, List.foldl_cons, List.foldl_cons, List.foldl_nil, String.empty_append]

/-! ## What is claimed -/

/-- An output is the report of a launch of the library, whatever host that is on: its exit
code and its diagnostic, if anybody reads it, are those of the failure, and its log is that of
the events. -/
structure ReportsLaunch (build : Build) (argv : List Bytes) (stdoutOpen : Bool)
    (output : Output) : Prop where
  ending : ∀ {σ : Type} (host : Host σ) (state : σ),
    output.ending = .exited (run host build.profile argv state).failure.exitStatus.code
  stdout : ∀ {σ : Type} (host : Host σ) (state : σ),
    output.stdout =
      if stdoutOpen then (run host build.profile argv state).failure.message ++ "\n" else ""
  stderr : ∀ {σ : Type} (host : Host σ) (state : σ),
    output.stderr = Log.text build.leastLevel (run host build.profile argv state).events

/-- An output is the refusal of a command line: a usage error without a slot 1, and the text
of slot 1 otherwise. -/
structure ReportsRefusal (argv : List Bytes) (stdoutOpen : Bool) (output : Output) : Prop where
  missing : argv[1]? = none →
    output.ending = .exited 2 ∧
      output.stdout = if stdoutOpen then "Invoke called with no arguments\n" else ""
  forbidden : ∀ candidate, argv[1]? = some candidate →
    output.ending = .exited 3 ∧
      output.stdout =
        if stdoutOpen then
          "Invoke called with invalid script: " ++ decodeLossy candidate ++ "\n"
        else ""

/-- What does not show in the output of the program for a command line. -/
structure BuildsAgree (argv : List Bytes) : Prop where
  /-- The program in its stages comes to what a launch of the library comes to. -/
  library : ∀ build stdoutOpen kernel,
    let output := Program.inStages build argv stdoutOpen kernel
    output = Program.run build argv stdoutOpen kernel ∧
      ReportsLaunch build argv stdoutOpen output ∧ ReportsRefusal argv stdoutOpen output
  /-- Of the build, the inherited process, slot 0 and the later arguments, nothing shows in
  the exit code and the diagnostic. -/
  alike : ∀ build other stdoutOpen kernel kernel' argv', argv'[1]? = argv[1]? →
    let output := Program.inStages build argv stdoutOpen kernel
    let output' := Program.inStages other argv' stdoutOpen kernel'
    output'.ending = output.ending ∧ output'.stdout = output.stdout
  /-- Without a reader the exit code and the log are the same. -/
  closed : ∀ build kernel,
    let output := Program.inStages build argv true kernel
    let output' := Program.inStages build argv false kernel
    output'.ending = output.ending ∧ output'.stderr = output.stderr
  /-- The standard log is the warning with which the traced log ends, behind the names of the
  variables, and that one has not lost an event. -/
  log : ∀ stdoutOpen kernel,
    let listed : Event := .sanitized Build.traced.profile.environment.names
    let warning : Event := .rejected (refusal argv)
    let traced := Program.inStages .traced argv stdoutOpen kernel
    warning.level = .warn ∧
      (Program.inStages .standard argv stdoutOpen kernel).stderr = Log.line warning ∧
      traced.stderr = Log.line listed ++ Log.line warning ∧
      ∀ {σ : Type} (host : Host σ) (state : σ),
        traced.stderr
          = String.join ((run host Build.traced.profile argv state).events.map Log.line)

namespace Program

variable {argv : List Bytes} (unpermitted : argv[1]? ≠ some (utf8 Profile.ingestScript))

include unpermitted

theorem reportsLaunch_run (build : Build) (stdoutOpen : Bool) (kernel : Kernel) :
    ReportsLaunch build argv stdoutOpen (run build argv stdoutOpen kernel) := by
  rw [run_of_refusal build unpermitted]
  constructor
  case ending =>
    intro σ host state
    rw [build.run_of_refusal host unpermitted]
  case stdout =>
    intro σ host state
    rw [build.run_of_refusal host unpermitted]
  case stderr =>
    intro σ host state
    rw [build.run_of_refusal host unpermitted]

theorem reportsRefusal_run (build : Build) (stdoutOpen : Bool) (kernel : Kernel) :
    ReportsRefusal argv stdoutOpen (run build argv stdoutOpen kernel) := by
  rw [run_of_refusal build unpermitted]
  constructor
  case missing =>
    intro named
    rw [refusal, named]
    exact ⟨rfl, rfl⟩
  case forbidden =>
    intro candidate named
    rw [refusal, named]
    exact ⟨rfl, rfl⟩

end Program

/-- For every command line that does not name the permitted script the builds agree, with each
other and with the library: whoever calls the program and whether or not anybody reads what it
prints. -/
theorem builds_agree (argv : List Bytes)
    (unpermitted : argv[1]? ≠ some (utf8 Profile.ingestScript)) : BuildsAgree argv := by
  constructor
  case library =>
    intro build stdoutOpen kernel
    dsimp only
    rw [Program.inStages_eq_run]
    exact ⟨rfl, Program.reportsLaunch_run unpermitted build stdoutOpen kernel,
      Program.reportsRefusal_run unpermitted build stdoutOpen kernel⟩
  case alike =>
    intro build other stdoutOpen kernel kernel' argv' same
    have unpermitted' : argv'[1]? ≠ some (utf8 Profile.ingestScript) := by
      rw [same]
      exact unpermitted
    have refused : refusal argv' = refusal argv := by
      rw [refusal, refusal, same]
    rw [Program.inStages_eq_run, Program.inStages_eq_run, Program.run_of_refusal _ unpermitted,
      Program.run_of_refusal _ unpermitted', refused]
    exact ⟨rfl, rfl⟩
  case closed =>
    intro build kernel
    rw [Program.inStages_eq_run, Program.inStages_eq_run, Program.run_of_refusal _ unpermitted,
      Program.run_of_refusal _ unpermitted]
    exact ⟨rfl, rfl⟩
  case log =>
    intro stdoutOpen kernel
    dsimp only
    rw [Program.inStages_eq_run, Program.inStages_eq_run, Program.run_of_refusal _ unpermitted,
      Program.run_of_refusal _ unpermitted]
    refine ⟨rfl, Log.text_standard_refusal .standard argv, Log.text_traced_refusal .traced argv,
      ?_⟩
    intro σ host state
    rw [Build.run_of_refusal host .traced unpermitted]
    exact Log.text_traced _

/-- A path that is no text, asked for by the superuser, and under another name and with an
argument by a user who left an environment and closed the output. Both logs end with the refusal,
and the longer one lists the variables of its own profile. -/
theorem builds_agree_illFormedPath :
    let argv := [utf8 "invoke", [0x2F, 0xFF]]
    let user := Kernel.initial.configure
      { uid := some ⟨1000, 0, 0⟩, env := some [⟨"PYTHONPATH", "/home/user"⟩] }
    let output := Program.inStages .standard argv true .initial
    let output' := Program.inStages .traced [[], [0x2F, 0xFF], utf8 "-x"] true user
    let unread := Program.inStages .traced argv false user
    let names := ["PYTHONPATH", "CONDA_DEFAULT_ENV", "CONDA_PREFIX"]
    let refused := " WARN rejected: Invoke called with invalid script: /\ufffd "
      ++ "stage=env-sanitized\n"
    argv[1]? ≠ some (utf8 Profile.ingestScript) ∧
      output.ending = .exited 3 ∧
      output.stdout = "Invoke called with invalid script: /\ufffd\n" ∧
      output'.ending = output.ending ∧ output'.stdout = output.stdout ∧
      unread.ending = .exited 3 ∧ unread.stdout = "" ∧
      output.stderr = refused ∧ unread.stderr = Log.line (.sanitized names) ++ refused := by
  intro argv user output output' unread names refused
  have unpermitted : argv[1]? ≠ some (utf8 Profile.ingestScript) := by decide +kernel
  obtain ⟨library, alike, -, log⟩ := builds_agree argv unpermitted
  obtain ⟨-, -, reports⟩ := library .standard true .initial
  obtain ⟨-, -, reports'⟩ := library .traced false user
  obtain ⟨ending, stdout⟩ := reports.forbidden [0x2F, 0xFF] rfl
  obtain ⟨ending', stdout'⟩ := reports'.forbidden [0x2F, 0xFF] rfl
  obtain ⟨-, stderr, -, -⟩ := log true .initial
  obtain ⟨-, -, stderr', -⟩ := log false user
  have same := alike .standard .traced true .initial user [[], [0x2F, 0xFF], utf8 "-x"] rfl
  have text : decodeLossy [0x2F, 0xFF] = "/\ufffd" := by decide +kernel
  have warning : Log.line (.rejected (refusal argv)) = refused := by decide +kernel
  have listed : Build.traced.profile.environment.names = names := by decide +kernel
  refine ⟨unpermitted, ending, ?_, same.1, same.2, ending', stdout', ?_, ?_⟩
  · rw [stdout, text]
    rfl
  · exact stderr.trans warning
  · rw [stderr', warning, listed]

end GuardedLaunch

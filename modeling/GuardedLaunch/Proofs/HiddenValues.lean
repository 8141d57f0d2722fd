import GuardedLaunch.Program
import GuardedLaunch.Proofs.Execution
import GuardedLaunch.Proofs.TwoRuns
import Mathlib.Data.List.Forall2

/-!
# Values of variables do not show

The values of a profile's variables are for the interpreter alone. Two profiles that
differ in nothing but values are launched alike: the same failure, the same events and
the same calls, apart from the environment that is handed over. The one thing that shows
of a value is whether it holds a NUL, since such a profile is refused.

- `Profile.SameButValues`: profiles that differ in values only.
- `Profile.SameButValues.validate_eq`, `Profile.SameButValues.authorize_eq`, …: every gate
  answers alike.
- `Host.BlindToEnv`: hosts that answer alike whatever environment they are handed.
- `Unseen`: what is claimed of two profiles on a host.
-/

namespace GuardedLaunch

/-! ## Profiles that differ in values -/

/-- Variables of one name whose values are alike in whether they hold a NUL, and may
differ in all else. -/
structure Variable.SameButValue (var other : Variable) : Prop where
  name : var.name = other.name
  nul : GuardedLaunch.hasNul var.value = GuardedLaunch.hasNul other.value

/-- Profiles that differ at most in the values of their variables. -/
structure Profile.SameButValues (profile other : Profile) : Prop where
  interpreter : profile.interpreter = other.interpreter
  scripts : profile.scripts = other.scripts
  env : List.Forall₂ Variable.SameButValue profile.env other.env

namespace Variable

variable {var other : Variable}

theorem SameButValue.violation?_eq (alike : var.SameButValue other) (earlier : List String) :
    var.violation? earlier = other.violation? earlier := by
  unfold Variable.violation?
  rw [alike.name, alike.nul]

theorem SameButValue.hasNul_eq (alike : var.SameButValue other) : var.hasNul = other.hasNul := by
  unfold Variable.hasNul
  rw [alike.name, alike.nul]

end Variable

/-- Of two lists of variables that differ in values the same rule is broken first. -/
theorem envViolation?_congr {vars others : List Variable}
    (alike : List.Forall₂ Variable.SameButValue vars others) (earlier : List String) :
    envViolation? earlier vars = envViolation? earlier others := by
  induction alike generalizing earlier with
  | nil => rfl
  | @cons var other rest rest' first _ ih =>
    rw [envViolation?, envViolation?, first.violation?_eq earlier, first.name, ih]

/-- The first variable that cannot be passed on has the same name in both lists. -/
theorem find?_hasNul_congr {vars others : List Variable}
    (alike : List.Forall₂ Variable.SameButValue vars others) :
    (vars.find? Variable.hasNul).map Variable.name
      = (others.find? Variable.hasNul).map Variable.name := by
  induction alike with
  | nil => rfl
  | @cons var other rest rest' first _ ih =>
    rw [List.find?_cons, List.find?_cons, first.hasNul_eq]
    cases other.hasNul with
    | true => exact congrArg some first.name
    | false => exact ih

/-! ## The names of an environment -/

/-- Variables that differ in values have the same names in an environment. -/
theorem map_entryName_congr {vars others : List Variable}
    (alike : List.Forall₂ Variable.SameButValue vars others) :
    (vars.map Variable.entry).map Environment.entryName
      = (others.map Variable.entry).map Environment.entryName := by
  induction alike with
  | nil => rfl
  | @cons var other rest rest' first _ ih =>
    rw [List.map_cons, List.map_cons, List.map_cons, List.map_cons, ih,
      Environment.entryName_entry, Environment.entryName_entry, first.name]

/-! ## The gates -/

namespace Profile.SameButValues

variable {profile other : Profile} (alike : profile.SameButValues other)

include alike

theorem validate_eq : profile.validate = other.validate := by
  have violation : profile.violation? = other.violation? := by
    unfold Profile.violation?
    rw [alike.interpreter, alike.scripts, envViolation?_congr alike.env]
  rw [Profile.validate, Profile.validate, violation]

theorem names_eq : profile.environment.names = other.environment.names :=
  map_entryName_congr alike.env

theorem authorize_eq (argv : List Bytes) : profile.authorize argv = other.authorize argv := by
  -- only the scripts are looked at
  obtain ⟨interpreter, scripts, env⟩ := profile
  cases alike.scripts
  match argv with
  | [] => rfl
  | [_] => rfl
  | _ :: _ :: _ => rfl

/-- What is handed over differs in the environment alone, and a command line that cannot be
handed over fails with the same failure. -/
theorem handover_eq (env env' : Environment) (argv : List Bytes) :
    other.handover env' argv
      = (profile.handover env argv).map fun handover => { handover with env := env' } := by
  have bytes : other.interpreterBytes = profile.interpreterBytes := by
    rw [Profile.interpreterBytes, Profile.interpreterBytes, alike.interpreter]
  have args : other.interpreterArgv argv = profile.interpreterArgv argv := by
    rw [Profile.interpreterArgv, Profile.interpreterArgv, bytes]
  unfold Profile.handover
  rw [bytes, args]
  cases profile.interpreterBytes with
  | error failure => rfl
  | ok interpreter =>
    cases profile.interpreterArgv argv with
    | error failure => rfl
    | ok args => rfl

/-- An environment is built for both or for neither, with one failure or with the same
names. -/
theorem map_names_ofProfile :
    (Environment.ofProfile profile).map Environment.names
      = (Environment.ofProfile other).map Environment.names := by
  have first := find?_hasNul_congr alike.env
  unfold Environment.ofProfile
  cases hfind : profile.env.find? Variable.hasNul with
  | some var =>
    cases hfind' : other.env.find? Variable.hasNul with
    | some var' =>
      rw [hfind, hfind'] at first
      exact congrArg (fun name => Except.error (Violation.valueHasNul name).failure)
        (Option.some.inj first)
    | none =>
      rw [hfind, hfind'] at first
      cases first
  | none =>
    cases hfind' : other.env.find? Variable.hasNul with
    | some var' =>
      rw [hfind, hfind'] at first
      cases first
    | none => exact congrArg Except.ok alike.names_eq

theorem map_names_ofValidated :
    (Environment.ofValidated profile).map Environment.names
      = (Environment.ofValidated other).map Environment.names := by
  unfold Environment.ofValidated
  rw [alike.validate_eq]
  cases other.validate with
  | error failure => rfl
  | ok _ => exact alike.map_names_ofProfile

end Profile.SameButValues

/-! ## What is claimed -/

/-- A request without the environment that is handed over. -/
def Request.withoutEnv : Request → Request
  | exec handover => exec { handover with env := ⟨[]⟩ }
  | request => request

/-- A system call without the environment that is handed over. -/
def Syscall.withoutEnv : Syscall → Syscall
  | execve path argv _ => execve path argv []
  | call => call

/-- Records of a host that differ at most in the environment that was handed over. -/
structure Observed.SameButEnv {σ : Type} (after : σ → σ → Prop) (o other : Observed σ) :
    Prop where
  requests : o.requests.map Request.withoutEnv = other.requests.map Request.withoutEnv
  state : after o.state other.state

/-- A host answers a handover alike whatever environment comes with it. What it leaves may
depend on the environment, within limits. -/
structure Host.BlindToEnv {σ : Type} (host : Host σ) (after : σ → σ → Prop) : Prop where
  refl : ∀ state, after state state
  exec : ∀ handover env state,
    (host.exec handover state).1 = (host.exec { handover with env } state).1 ∧
      after (host.exec handover state).2 (host.exec { handover with env } state).2

/-- Two launches cannot be told apart by their failure or by their events, from which the
diagnostic, the exit code and the log are made, and what they leave is alike. -/
structure Outcome.SameBut {σ : Type} (after : σ → σ → Prop) (outcome other : Outcome σ) :
    Prop where
  failure : outcome.failure = other.failure
  events : outcome.events = other.events
  state : after outcome.state other.state

/-- Whatever is done on a host with one of two profiles cannot be told from what is done
with the other. -/
structure Unseen {σ : Type} (host : Host σ) (after : σ → σ → Prop) (profile other : Profile)
    (argv : List Bytes) (state : σ) : Prop where
  /-- Sanitizing fails alike or gives environments with the same names, and leaves the
  same. -/
  sanitized : (sanitize host profile state).1.map Environment.names
        = (sanitize host other state).1.map Environment.names ∧
      (sanitize host profile state).2 = (sanitize host other state).2
  /-- A launch ends alike, also in environments of profiles that are not fit for use and
  are not the ones that are launched. -/
  launched : ∀ source source' env env', Profile.SameButValues source source' →
    Environment.ofProfile source = .ok env → Environment.ofProfile source' = .ok env' →
    Outcome.SameBut after (launch host profile env argv state)
      (launch host other env' argv state)
  ran : Outcome.SameBut after (run host profile argv state) (run host other argv state)

/-! ## Blind hosts -/

section

variable {σ : Type} {host : Host σ} {after : σ → σ → Prop}

/-- Handovers that differ in the environment at most count as alike, and an event is looked
at as a whole. -/
def hidingEnv (after : σ → σ → Prop) (after_refl : ∀ state, after state state) :
    Comparison σ where
  handovers handover other :=
    handover.interpreter = other.interpreter ∧ handover.argv = other.argv
  shown := id
  after := after
  after_refl := after_refl
  shown_validated alike := by rw [alike.2]

theorem Host.BlindToEnv.keptBy (blind : host.BlindToEnv after) :
    (hidingEnv after blind.refl).KeptBy host := by
  rintro ⟨interpreter, argv, env⟩ ⟨_, _, env'⟩ ⟨rfl, rfl⟩ state
  exact blind.exec ⟨interpreter, argv, env⟩ env' state

/-- Watching a blind host does not open its eyes. -/
theorem Host.BlindToEnv.observed (blind : host.BlindToEnv after) :
    host.observed.BlindToEnv (Observed.SameButEnv after) where
  refl o := ⟨rfl, blind.refl o.state⟩
  exec handover env o := by
    obtain ⟨failure, state⟩ := blind.exec handover env o.state
    refine ⟨failure, ?_, state⟩
    show (o.requests ++ [Request.exec handover]).map Request.withoutEnv
      = (o.requests ++ [Request.exec { handover with env }]).map Request.withoutEnv
    rw [List.map_append, List.map_append]
    rfl

theorem outcome_sameBut {after_refl : ∀ state, after state state} {outcome other : Outcome σ}
    (h : (hidingEnv after after_refl).Outcomes outcome other) :
    outcome.SameBut after other where
  failure := h.failure
  events := by
    have hevents : outcome.events.map id = other.events.map id := h.events
    rwa [List.map_id, List.map_id] at hevents
  state := h.state

/-- On a blind host two profiles that differ in values cannot be told apart. -/
theorem unseen_of_blind (blind : host.BlindToEnv after) {profile other : Profile}
    (alike : profile.SameButValues other) (argv : List Bytes) (state : σ) :
    Unseen host after profile other argv state := by
  have gates {env env' : Environment} (names : env.names = env'.names) :
      (hidingEnv after blind.refl).Gates profile other env env' argv argv := by
    refine ⟨names, alike.authorize_eq argv, ?_⟩
    rw [alike.handover_eq env env' argv]
    cases profile.handover env argv with
    | error failure => exact .refused failure
    | ok handover => exact .passed ⟨rfl, rfl⟩
  constructor
  case sanitized => exact ⟨alike.map_names_ofValidated, rfl⟩
  case launched =>
    intro source source' env env' sources built built'
    have names := sources.map_names_ofProfile
    rw [built, built'] at names
    exact outcome_sameBut (blind.keptBy.launch (gates (Except.ok.inj names)) state)
  case ran =>
    exact outcome_sameBut
      (blind.keptBy.run alike.validate_eq (fun _ => gates alike.names_eq) state)

end

/-- A kernel is blind to the environment: it goes into the record and nowhere else. -/
theorem Kernel.host_blindToEnv :
    Kernel.host.BlindToEnv (Kernel.SameUpTo Syscall.withoutEnv) where
  refl kernel := .refl _ kernel
  exec handover env kernel := @sameUpTo_exec _ handover { handover with env } rfl rfl kernel

/-- Values of variables do not show. Profiles that differ in values alone are launched alike
on every host that is blind to the environment, the requests included, and on every kernel,
the calls included; and nobody who reads the output or the log can tell which of them it
was. -/
theorem values_do_not_show {profile other : Profile} (alike : profile.SameButValues other)
    (argv : List Bytes) :
    (∀ {σ : Type} (host : Host σ) (after : σ → σ → Prop), host.BlindToEnv after →
        ∀ state, Unseen host.observed (Observed.SameButEnv after) profile other argv
          (.fresh state)) ∧
      ∀ kernel : Kernel,
        Unseen Kernel.host (Kernel.SameUpTo Syscall.withoutEnv) profile other argv kernel ∧
          ∀ stdoutOpen least,
            let outcome := run Kernel.host profile argv kernel
            let outcome' := run Kernel.host other argv kernel
            Program.finish outcome stdoutOpen (Log.text least outcome.events)
              = Program.finish outcome' stdoutOpen (Log.text least outcome'.events) := by
  constructor
  · intro σ host after blind state
    exact unseen_of_blind blind.observed alike argv (.fresh state)
  · intro kernel
    have unseen := unseen_of_blind Kernel.host_blindToEnv alike argv kernel
    refine ⟨unseen, fun stdoutOpen least => ?_⟩
    obtain ⟨failure, events, state⟩ := unseen.ran
    show Program.finish _ _ _ = Program.finish _ _ _
    rw [Program.finish, Program.finish, failure, events, state.process]

/-- The separate installation with values that could be taken for entries of their own. -/
def Profile.elsewhere : Profile where
  interpreter := conda.interpreter
  scripts := conda.scripts
  env := [⟨"PYTHONPATH", ""⟩, ⟨"CONDA_DEFAULT_ENV", "=x\nPATH=/tmp"⟩, ⟨"CONDA_PREFIX", "/srv"⟩]

/-- The inherited process cannot tell the two installations apart, and neither can a host
that only plays a part. -/
theorem values_do_not_show_elsewhere :
    Profile.conda.SameButValues .elsewhere ∧
      Unseen Host.scripted.observed (Observed.SameButEnv Eq) .conda .elsewhere
        [[], utf8 Profile.ingestScript] (.fresh ⟨.ok ⟨48, 0, 48, 0⟩, .ok (), .scriptMissing⟩) ∧
      Unseen Kernel.host (Kernel.SameUpTo Syscall.withoutEnv) .conda .elsewhere
        [[], utf8 Profile.ingestScript] Kernel.inherited := by
  have alike : Profile.conda.SameButValues .elsewhere := by
    refine ⟨rfl, rfl, ?_⟩
    exact .cons ⟨rfl, by decide⟩ (.cons ⟨rfl, by decide⟩ (.cons ⟨rfl, by decide⟩ .nil))
  have blind : Host.scripted.BlindToEnv Eq := ⟨fun _ => rfl, fun _ _ _ => ⟨rfl, rfl⟩⟩
  obtain ⟨hosts, kernels⟩ := values_do_not_show alike [[], utf8 Profile.ingestScript]
  exact ⟨alike, hosts Host.scripted Eq blind _, (kernels Kernel.inherited).1⟩

end GuardedLaunch

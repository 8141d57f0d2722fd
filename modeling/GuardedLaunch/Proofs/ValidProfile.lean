import GuardedLaunch.Profile.Shipped
import GuardedLaunch.Proofs.Exit

/-!
# Valid profiles are not at fault

The validation, the environment, the path of the interpreter and the argument list each check
the texts of a profile on their own. A profile that passes the first check passes all the
others, so that behind the validation a launch can fail because of the command line and
because of its host, but not because of the profile. A host may blame the profile, too, and
then the launch does; so what a host answers is put on record.

- `Profile.Usable`, `Profile.usable_of_validate`: everything a valid profile is good for.
- `Exchange`, `Host.overheard`: a host with a record of what it was asked and how it answered.
- `LaunchExit.overheard`, `RunExit.overheard`: an ending with its exchanges, and who has said
  what the failure is.
- `BlamesProfile`: what is claimed of a launch that ends with the profile being blamed.
-/

namespace GuardedLaunch

/-! ## What a valid profile is good for -/

namespace Profile

/-- Nothing in a profile keeps it from being launched: its environment is built, its
interpreter can be passed to the system, and each of its scripts, under any name and with any
arguments that can be passed on, passes both gates. -/
structure Usable (profile : Profile) : Prop where
  environment : Environment.ofProfile profile = .ok profile.environment
  interpreter : profile.interpreterBytes = .ok (utf8 profile.interpreter)
  interpreter_clean : 0 ∉ utf8 profile.interpreter
  script : ∀ script ∈ profile.scripts, ∀ (name : Bytes) (args : List Bytes),
    (∀ arg ∈ args, 0 ∉ arg) →
      profile.authorize (name :: utf8 script :: args) = .ok () ∧
        profile.interpreterArgv (name :: utf8 script :: args)
          = .ok (utf8 profile.interpreter :: utf8 script :: args)

section

variable {profile : Profile} (valid : profile.validate = .ok ())

include valid

/-- A script of a valid profile can be passed on as an argument. -/
theorem zero_not_mem_script {script : String} (hscript : script ∈ profile.scripts) :
    0 ∉ utf8 script := by
  obtain ⟨-, -, absolute, -⟩ := validate_ok_iff.mp valid
  obtain ⟨-, clean⟩ := absolute script hscript
  rw [zero_mem_utf8_iff, hasNul, List.contains_iff_mem]
  exact clean

/-- A request for a script of a valid profile is accepted, whatever name it comes under. -/
theorem accepts_script {script : String} (hscript : script ∈ profile.scripts) (name : Bytes)
    {args : List Bytes} (clean : ∀ arg ∈ args, 0 ∉ arg) :
    profile.Accepts (name :: utf8 script :: args) where
  script := authorize_ok_iff.mpr ⟨script, hscript, rfl⟩
  clean := by
    intro arg harg
    rcases List.mem_cons.mp harg with rfl | harg
    · exact zero_not_mem_script valid hscript
    · exact clean arg harg

theorem usable_of_validate : profile.Usable := by
  have interpreter := interpreter_of_validate valid
  constructor
  case environment =>
    exact Environment.ofProfile_ok_iff.mpr ⟨variables_of_validate valid, rfl⟩
  case interpreter =>
    rw [interpreterBytes, interpreter]
    rfl
  case interpreter_clean =>
    rw [zero_mem_utf8_iff, interpreter]
    exact Bool.false_ne_true
  case script =>
    intro script hscript name args clean
    have accepts := accepts_script valid hscript name clean
    exact ⟨accepts.script, accepts.interpreterArgv_eq interpreter⟩

end

end Profile

/-! ## What a host answers -/

/-- A request to a host, and the failure that it was answered with, if it was. -/
structure Exchange where
  request : Request
  answer : Option Failure
  deriving DecidableEq

/-- A state together with the exchanges so far, oldest first. -/
structure Overheard (σ : Type) where
  exchanges : List Exchange
  state : σ

/-- Record an exchange and move to the state it leads to. -/
def Overheard.after {σ : Type} (o : Overheard σ) (request : Request) (answer : Option Failure)
    (state : σ) : Overheard σ :=
  ⟨o.exchanges ++ [⟨request, answer⟩], state⟩

/-- The same host with a record of what it is asked and of how it answers. -/
def Host.overheard {σ : Type} (host : Host σ) : Host (Overheard σ) where
  wipe o := o.after .wipe none (host.wipe o.state)
  normalizeIdentity o :=
    match host.normalizeIdentity o.state with
    | .ok before state => .ok before (o.after .normalizeIdentity none state)
    | .error failure state => .error failure (o.after .normalizeIdentity (some failure) state)
  resetSignals o :=
    match host.resetSignals o.state with
    | .ok () state => .ok () (o.after .resetSignals none state)
    | .error failure state => .error failure (o.after .resetSignals (some failure) state)
  exec handover o :=
    let answer := host.exec handover o.state
    (answer.1, o.after (.exec handover) (some answer.1) answer.2)

section

variable {σ : Type} {host : Host σ} {profile : Profile} {env : Environment}
  {argv : List Bytes} {state : σ} {requests : List Request} {outcome : Outcome σ}

/-- Overheard, a launch ends in the same way, and the requests of the ending are those of the
exchanges that are added to the record. If none of these gives the failure, it is about the
command line or about what was to be handed over, and nothing has been asked. -/
theorem LaunchExit.overheard (exit : LaunchExit host profile env argv state requests outcome)
    (earlier : List Exchange) :
    ∃ exchanges, launch host.overheard profile env argv ⟨earlier, state⟩
        = ⟨outcome.failure, outcome.events, ⟨earlier ++ exchanges, outcome.state⟩⟩ ∧
      exchanges.map Exchange.request = requests ∧
      ((∃ request, ⟨request, some outcome.failure⟩ ∈ exchanges) ∨
        profile.authorize argv = .error outcome.failure ∨
          profile.handover env argv = .error outcome.failure) := by
  unfold launch
  cases exit with
  | refused gate =>
    refine ⟨[], ?_, rfl, Or.inr (Or.inl gate)⟩
    rw [gate, List.append_nil]
  | unprepared script gate =>
    refine ⟨[], ?_, rfl, Or.inr (Or.inr gate)⟩
    rw [script, gate, List.append_nil]
  | @identityKept _ failure _ script prepared identity =>
    refine ⟨[⟨.normalizeIdentity, some failure⟩], ?_, rfl,
      Or.inl ⟨_, List.mem_singleton_self _⟩⟩
    rw [script, prepared]
    simp only [Host.overheard, identity]
    rfl
  | @signalsKept _ _ failure _ _ script prepared identity signals =>
    refine ⟨[⟨.normalizeIdentity, none⟩, ⟨.resetSignals, some failure⟩], ?_, rfl,
      Or.inl ⟨.resetSignals, by simp⟩⟩
    rw [script, prepared]
    simp only [Host.overheard, identity, signals, Overheard.after, List.append_assoc]
    rfl
  | @executed handover _ _ clean script prepared identity signals =>
    refine ⟨[⟨.normalizeIdentity, none⟩, ⟨.resetSignals, none⟩,
      ⟨.exec handover, some (host.exec handover clean).1⟩], ?_, rfl,
      Or.inl ⟨.exec handover, by simp⟩⟩
    rw [script, prepared]
    simp only [Host.overheard, identity, signals, Overheard.after, List.append_assoc]
    rfl

/-- Overheard, a whole launch ends in the same way, too. That the profile is unusable has been
said by the host or by the validation, and the validation is asked before the host is. -/
theorem RunExit.overheard (exit : RunExit host profile argv state requests outcome) :
    ∃ exchanges, run host.overheard profile argv ⟨[], state⟩
        = ⟨outcome.failure, outcome.events, ⟨exchanges, outcome.state⟩⟩ ∧
      exchanges.map Exchange.request = requests ∧
      ∀ reason, outcome.failure = .profileUnusable reason →
        (profile.validate = .ok () ∧ ∃ request, ⟨request, some outcome.failure⟩ ∈ exchanges) ∨
          (profile.validate = .error outcome.failure ∧ exchanges = [⟨.wipe, none⟩]) := by
  unfold run sanitize
  cases exit with
  | @unusable failure invalid =>
    refine ⟨[⟨.wipe, none⟩], ?_, rfl, fun _ _ => Or.inr ⟨invalid, rfl⟩⟩
    rw [Environment.ofValidated_error_iff.mpr invalid]
    rfl
  | launched valid exit =>
    obtain ⟨exchanges, launched, hrequests, said⟩ := exit.overheard [⟨.wipe, none⟩]
    refine ⟨⟨.wipe, none⟩ :: exchanges, ?_, by rw [List.map_cons, hrequests], ?_⟩
    · rw [Environment.ofValidated_ok_iff.mpr ⟨valid, rfl⟩]
      exact launched
    · intro reason blamed
      refine Or.inl ⟨valid, ?_⟩
      rcases said with ⟨request, answered⟩ | gate | gate
      · exact ⟨request, List.mem_cons_of_mem _ answered⟩
      -- the gates on the command line have other failures
      · rw [blamed] at gate
        rcases Profile.authorize_error_iff.mp gate with ⟨-, h⟩ | ⟨candidate, -, -, h⟩ <;> cases h
      · rw [blamed] at gate
        obtain ⟨slot, -, h⟩ :=
          (Profile.handover_error_iff (Profile.interpreter_of_validate valid)).mp gate
        cases h

/-- A launch of an accepted command line gets as far as the ids. -/
theorem RunExit.reaches_identity (exit : RunExit host profile argv state requests outcome)
    (valid : profile.validate = .ok ()) (accepts : profile.Accepts argv) :
    [.wipe, .normalizeIdentity] <+: requests := by
  have prepared := accepts.handover_eq (Profile.interpreter_of_validate valid)
  cases exit with
  | unusable invalid => cases invalid.symm.trans valid
  | launched _ exit =>
    cases exit with
    | refused gate => cases gate.symm.trans accepts.script
    | unprepared _ gate => cases gate.symm.trans (prepared _)
    | identityKept => exact ⟨[], rfl⟩
    | signalsKept => exact ⟨_, rfl⟩
    | executed => exact ⟨_, rfl⟩

end

/-! ## Who is at fault -/

/-- Where a launch ends with the profile being blamed: for a valid profile a host has said so,
and if no host has, then the validation has, and nothing has been done but to throw the
inherited environment away. -/
structure BlamesProfile (profile : Profile) (exchanges : List Exchange) (failure : Failure) :
    Prop where
  host : profile.validate = .ok () → ∃ request, ⟨request, some failure⟩ ∈ exchanges
  validation : (∀ request, ⟨request, some failure⟩ ∉ exchanges) →
    profile.validate = .error failure ∧ exchanges = [⟨.wipe, none⟩]

/-- A valid profile is not at fault for anything that happens later: it is good for all that a
launch needs of it, each of its scripts can be launched as far as the host is concerned, and
that a profile is unusable is reported only where its validation or the host says so. -/
theorem valid_profile_not_at_fault (profile : Profile) :
    (profile.validate = .ok () →
        profile.Usable ∧
          ∀ script ∈ profile.scripts, ∀ (name : Bytes) (args : List Bytes),
            (∀ arg ∈ args, 0 ∉ arg) → ∀ {σ : Type} (host : Host σ) (state : σ),
              [.wipe, .normalizeIdentity] <+:
                (run host.observed profile (name :: utf8 script :: args)
                  (.fresh state)).state.requests) ∧
      ∀ {σ : Type} (host : Host σ) (argv : List Bytes) (state : σ),
        let plain := run host profile argv state
        let heard := run host.overheard profile argv ⟨[], state⟩
        heard.failure = plain.failure ∧ heard.state.state = plain.state ∧
          ∀ reason, plain.failure = .profileUnusable reason →
            BlamesProfile profile heard.state.exchanges (.profileUnusable reason) := by
  constructor
  · intro valid
    refine ⟨Profile.usable_of_validate valid, ?_⟩
    intro script hscript name args clean σ host state
    obtain ⟨requests, exit⟩ := run_exit host profile (name :: utf8 script :: args) state
    rw [exit.observed]
    exact exit.reaches_identity valid (Profile.accepts_script valid hscript name clean)
  · intro σ host argv state
    obtain ⟨requests, exit⟩ := run_exit host profile argv state
    obtain ⟨exchanges, heard, -, said⟩ := exit.overheard
    rw [heard]
    refine ⟨rfl, rfl, fun reason blamed => ?_⟩
    have said := said reason blamed
    rw [blamed] at said
    rcases said with ⟨valid, request, answered⟩ | ⟨invalid, unasked⟩
    · exact ⟨fun _ => ⟨request, answered⟩, fun unheard => absurd answered (unheard request)⟩
    · refine ⟨fun valid => ?_, fun _ => ⟨invalid, unasked⟩⟩
      cases valid.symm.trans invalid

/-- A host that blames the profile for ids that it cannot settle. -/
def blamingHost : Replies where
  identity := .error (.profileUnusable "no ids")
  signals := .ok ()
  exec := .scriptMissing

/-- The profile of the separate installation reaches that host and is blamed by it. A profile
whose interpreter is no path of a file does not come that far. -/
theorem valid_profile_not_at_fault_blamed :
    let argv := [[], utf8 Profile.ingestScript, utf8 "N20240101S0001.fits"]
    let relative := { Profile.system with interpreter := "python" }
    let failure := Failure.profileUnusable "interpreter \"python\" is not an absolute path"
    Profile.conda.Usable ∧
      [.wipe, .normalizeIdentity] <+:
        (run Host.scripted.observed .conda argv (.fresh blamingHost)).state.requests ∧
      (∃ request, ⟨request, some (.profileUnusable "no ids")⟩ ∈
        (run Host.scripted.overheard .conda argv ⟨[], blamingHost⟩).state.exchanges) ∧
      (run Host.scripted relative argv blamingHost).failure = failure ∧
      relative.validate = .error failure := by
  intro argv relative failure
  obtain ⟨usable, blamed⟩ := valid_profile_not_at_fault .conda
  obtain ⟨-, invalid⟩ := valid_profile_not_at_fault relative
  obtain ⟨usable, reached⟩ := usable Profile.validate_conda
  have permitted : Profile.ingestScript ∈ Profile.conda.scripts := List.mem_cons_self
  have clean : ∀ arg ∈ [utf8 "N20240101S0001.fits"], 0 ∉ arg := by decide +kernel
  have elsewhere : (run Host.scripted .conda argv blamingHost).failure
      = .profileUnusable "no ids" := by decide +kernel
  have here : (run Host.scripted relative argv blamingHost).failure = failure := by
    decide +kernel
  have unheard : ∀ exchange ∈ (run Host.scripted.overheard relative argv
      ⟨[], blamingHost⟩).state.exchanges, exchange.answer ≠ some failure := by decide +kernel
  refine ⟨usable, reached _ permitted [] _ clean Host.scripted blamingHost,
    ((blamed Host.scripted argv blamingHost).2.2 _ elsewhere).host Profile.validate_conda,
    here, ?_⟩
  exact (((invalid Host.scripted argv blamingHost).2.2 _ here).validation
    fun request answered => unheard _ answered rfl).1

end GuardedLaunch

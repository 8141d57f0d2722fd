import GuardedLaunch.Launch
import GuardedLaunch.Proofs.CommandLine

/-!
# How a launch ends

A launch is the same sequence of gates on every host. Its endings are listed once, each
with what was passed before it, with the requests made by then and with the outcome, so
that whatever is claimed of a launch is a case analysis over them.

- `LaunchExit`, `launch_exit`: the five endings behind the environment.
- `RunExit`, `run_exit`: the same with the validation in front.
- `LaunchExit.launch_eq`, `RunExit.run_eq`: an ending determines its launch.
- `LaunchExit.observed`, `RunExit.observed`: a host under observation ends in the same
  way, and what it has recorded are the requests of the ending.
-/

namespace GuardedLaunch

variable {σ : Type}

/-! ## The endings -/

/-- How a launch in a given environment ends: one case for each gate, the host's own
operations included. The list holds what has been asked of the host by then. -/
inductive LaunchExit (host : Host σ) (profile : Profile) (env : Environment)
    (argv : List Bytes) (state : σ) : List Request → Outcome σ → Prop
  | refused {failure : Failure} (gate : profile.authorize argv = .error failure) :
      LaunchExit host profile env argv state []
        ⟨failure, [.sanitized env.names, .rejected failure], state⟩
  | unprepared {failure : Failure} (script : profile.authorize argv = .ok ())
      (gate : profile.handover env argv = .error failure) :
      LaunchExit host profile env argv state []
        ⟨failure, [.sanitized env.names], state⟩
  | identityKept {handover : Handover} {failure : Failure} {after : σ}
      (script : profile.authorize argv = .ok ())
      (prepared : profile.handover env argv = .ok handover)
      (identity : host.normalizeIdentity state = .error failure after) :
      LaunchExit host profile env argv state [.normalizeIdentity]
        ⟨failure, [.sanitized env.names, .validated handover.argv.length], after⟩
  | signalsKept {handover : Handover} {before : Identity} {failure : Failure}
      {settled after : σ} (script : profile.authorize argv = .ok ())
      (prepared : profile.handover env argv = .ok handover)
      (identity : host.normalizeIdentity state = .ok before settled)
      (signals : host.resetSignals settled = .error failure after) :
      LaunchExit host profile env argv state [.normalizeIdentity, .resetSignals]
        ⟨failure, [.sanitized env.names, .validated handover.argv.length, .normalized before],
          after⟩
  | executed {handover : Handover} {before : Identity} {settled clean : σ}
      (script : profile.authorize argv = .ok ())
      (prepared : profile.handover env argv = .ok handover)
      (identity : host.normalizeIdentity state = .ok before settled)
      (signals : host.resetSignals settled = .ok () clean) :
      LaunchExit host profile env argv state
        [.normalizeIdentity, .resetSignals, .exec handover]
        ⟨(host.exec handover clean).1,
          [.sanitized env.names, .validated handover.argv.length, .normalized before],
          (host.exec handover clean).2⟩

/-- How a whole launch ends: at the validation of the profile or in one of the ways
behind it. The inherited environment is thrown away first of all. -/
inductive RunExit (host : Host σ) (profile : Profile) (argv : List Bytes) (state : σ) :
    List Request → Outcome σ → Prop
  | unusable {failure : Failure} (invalid : profile.validate = .error failure) :
      RunExit host profile argv state [.wipe] ⟨failure, [], host.wipe state⟩
  | launched {requests : List Request} {outcome : Outcome σ}
      (valid : profile.validate = .ok ())
      (exit : LaunchExit host profile profile.environment argv
        (host.wipe state) requests outcome) :
      RunExit host profile argv state (.wipe :: requests) outcome

section

variable (host : Host σ) (profile : Profile) (env : Environment) (argv : List Bytes)
  (state : σ)

/-- Every launch in a given environment ends in one of these ways. -/
theorem launch_exit :
    ∃ requests, LaunchExit host profile env argv state requests
      (launch host profile env argv state) := by
  unfold launch
  cases script : profile.authorize argv with
  | error failure => exact ⟨_, .refused script⟩
  | ok _ =>
    cases prepared : profile.handover env argv with
    | error failure => exact ⟨_, .unprepared script prepared⟩
    | ok handover =>
      cases identity : host.normalizeIdentity state with
      | error failure after => exact ⟨_, .identityKept script prepared identity⟩
      | ok before settled =>
        dsimp only
        cases signals : host.resetSignals settled with
        | error failure after => exact ⟨_, .signalsKept script prepared identity signals⟩
        | ok _ clean => exact ⟨_, .executed script prepared identity signals⟩

/-- Every whole launch ends in one of these ways. -/
theorem run_exit :
    ∃ requests, RunExit host profile argv state requests (run host profile argv state) := by
  unfold run sanitize
  cases henv : Environment.ofValidated profile with
  | error failure =>
    exact ⟨_, .unusable (Environment.ofValidated_error_iff.mp henv)⟩
  | ok env =>
    obtain ⟨valid, rfl⟩ := Environment.ofValidated_ok_iff.mp henv
    obtain ⟨requests, exit⟩ := launch_exit host profile _ argv (host.wipe state)
    exact ⟨_, .launched valid exit⟩

end

/-- An ending is the ending of its launch. -/
theorem LaunchExit.launch_eq {host : Host σ} {profile : Profile} {env : Environment}
    {argv : List Bytes} {state : σ} {requests : List Request} {outcome : Outcome σ}
    (exit : LaunchExit host profile env argv state requests outcome) :
    launch host profile env argv state = outcome := by
  unfold launch
  cases exit with
  | refused gate => rw [gate]
  | unprepared script gate => rw [script, gate]
  | identityKept script prepared identity =>
    rw [script, prepared]
    simp only [identity]
  | signalsKept script prepared identity signals =>
    rw [script, prepared]
    simp only [identity, signals]
  | executed script prepared identity signals =>
    rw [script, prepared]
    simp only [identity, signals]

/-- The ending of a whole launch is its only one. -/
theorem RunExit.run_eq {host : Host σ} {profile : Profile} {argv : List Bytes} {state : σ}
    {requests : List Request} {outcome : Outcome σ}
    (exit : RunExit host profile argv state requests outcome) :
    run host profile argv state = outcome := by
  unfold run sanitize
  cases exit with
  | unusable invalid => rw [Environment.ofValidated_error_iff.mpr invalid]
  | launched valid exit =>
    rw [Environment.ofValidated_ok_iff.mpr ⟨valid, rfl⟩]
    exact exit.launch_eq

/-! ## The record of the requests -/

section Observation

variable {host : Host σ} {profile : Profile} {env : Environment} {argv : List Bytes}
  {state : σ} {requests : List Request} {outcome : Outcome σ}

/-- Under observation a launch ends in the same way, and the requests of the ending are
what is added to the record. -/
theorem LaunchExit.observed (exit : LaunchExit host profile env argv state requests outcome)
    (earlier : List Request) :
    launch host.observed profile env argv ⟨earlier, state⟩
      = ⟨outcome.failure, outcome.events, ⟨earlier ++ requests, outcome.state⟩⟩ := by
  unfold launch
  cases exit with
  | refused gate =>
    rw [gate, List.append_nil]
  | unprepared script gate =>
    rw [script, gate, List.append_nil]
  | identityKept script prepared identity =>
    rw [script, prepared]
    simp only [Host.observed, identity]
    rfl
  | signalsKept script prepared identity signals =>
    rw [script, prepared]
    simp only [Host.observed, identity, signals, Observed.after, List.append_assoc]
    rfl
  | executed script prepared identity signals =>
    rw [script, prepared]
    simp only [Host.observed, identity, signals, Observed.after, List.append_assoc]
    rfl

/-- A whole launch under observation ends in the same way, too. -/
theorem RunExit.observed (exit : RunExit host profile argv state requests outcome) :
    run host.observed profile argv (.fresh state)
      = ⟨outcome.failure, outcome.events, ⟨requests, outcome.state⟩⟩ := by
  unfold run sanitize
  cases exit with
  | unusable invalid =>
    rw [Environment.ofValidated_error_iff.mpr invalid]
    rfl
  | launched valid exit =>
    rw [Environment.ofValidated_ok_iff.mpr ⟨valid, rfl⟩]
    exact exit.observed [.wipe]

end Observation

end GuardedLaunch

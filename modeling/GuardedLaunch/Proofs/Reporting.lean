import GuardedLaunch.Profile.Shipped
import GuardedLaunch.Proofs.Exit

/-!
# What a launch reports is true

The events of a launch say how far it has got, and each of them is a consequence of what
was decided: by the two gates on the command line, and by the host about the ids. Nothing
else has a part in it. A host that fails, with whatever failure, is never reported as a
refusal of the command line.

- `Profile.Fit`: the command lines that the second gate lets through.
- `Told`: the events in full, one case for each combination of decisions.
- `Truthful`: what the events mean to somebody who reads them.
- `LaunchExit.told`, `Told.truthful`: however a launch ends, its events are told, and what is
  told is truthful.
-/

namespace GuardedLaunch

/-! ## The second gate -/

namespace Profile

/-- Neither the interpreter nor an argument from slot 1 on holds a NUL. -/
structure Fit (profile : Profile) (argv : List Bytes) : Prop where
  interpreter : hasNul profile.interpreter = false
  arguments : ∀ arg ∈ argv.tail, 0 ∉ arg

variable {profile : Profile} {env : Environment} {argv : List Bytes}

theorem Fit.handover_eq (fit : profile.Fit argv) :
    profile.handover env argv = .ok (profile.prepared env argv) :=
  handover_ok_iff.mpr ⟨fit.interpreter, fit.arguments, rfl⟩

theorem fit_of_handover {handover : Handover}
    (prepared : profile.handover env argv = .ok handover) : profile.Fit argv := by
  obtain ⟨interpreter, arguments, -⟩ := handover_ok_iff.mp prepared
  exact ⟨interpreter, arguments⟩

theorem not_fit_of_handover {failure : Failure}
    (gate : profile.handover env argv = .error failure) : ¬ profile.Fit argv := by
  intro fit
  rw [fit.handover_eq] at gate
  cases gate

end Profile

/-! ## The events in full -/

section

variable {σ : Type}

/-- The events of a launch, by what was decided. The failure is the one that the launch
ends with. -/
inductive Told (host : Host σ) (profile : Profile) (env : Environment) (argv : List Bytes)
    (state : σ) : Failure → List Event → Prop
  | refused {failure : Failure} (gate : profile.authorize argv = .error failure) :
      Told host profile env argv state failure [.sanitized env.names, .rejected failure]
  | unfit {failure : Failure} (script : profile.authorize argv = .ok ())
      (unfit : ¬ profile.Fit argv) :
      Told host profile env argv state failure [.sanitized env.names]
  | identityKept {failure cause : Failure} {after : σ}
      (script : profile.authorize argv = .ok ()) (fit : profile.Fit argv)
      (identity : host.normalizeIdentity state = .error cause after) :
      Told host profile env argv state failure
        [.sanitized env.names, .validated argv.length]
  | normalized {failure : Failure} {before : Identity} {settled : σ}
      (script : profile.authorize argv = .ok ()) (fit : profile.Fit argv)
      (identity : host.normalizeIdentity state = .ok before settled) :
      Told host profile env argv state failure
        [.sanitized env.names, .validated argv.length, .normalized before]

variable {host : Host σ} {profile : Profile} {env : Environment} {argv : List Bytes}
  {state : σ}

/-- However a launch ends, its events are those. -/
theorem LaunchExit.told {requests : List Request} {outcome : Outcome σ}
    (exit : LaunchExit host profile env argv state requests outcome) :
    Told host profile env argv state outcome.failure outcome.events := by
  cases exit with
  | refused gate => exact .refused gate
  | unprepared script gate => exact .unfit script (Profile.not_fit_of_handover gate)
  | identityKept script prepared identity =>
    rw [Profile.length_of_handover script prepared]
    exact .identityKept script (Profile.fit_of_handover prepared) identity
  | signalsKept script prepared identity signals =>
    rw [Profile.length_of_handover script prepared]
    exact .normalized script (Profile.fit_of_handover prepared) identity
  | executed script prepared identity signals =>
    rw [Profile.length_of_handover script prepared]
    exact .normalized script (Profile.fit_of_handover prepared) identity

/-- The decisions leave no choice of events: their cases exclude each other. -/
theorem Told.unique {failure failure' : Failure} {events events' : List Event}
    (told : Told host profile env argv state failure events)
    (told' : Told host profile env argv state failure' events') : events = events' := by
  cases told with
  | refused gate =>
    cases told' with
    | refused gate' =>
      cases Except.error.inj (gate.symm.trans gate')
      rfl
    | unfit script _ | identityKept script _ _ | normalized script _ _ =>
      cases gate.symm.trans script
  | unfit script unfit =>
    cases told' with
    | refused gate => cases gate.symm.trans script
    | unfit _ _ => rfl
    | identityKept _ fit _ | normalized _ fit _ => exact absurd fit unfit
  | identityKept script fit identity =>
    cases told' with
    | refused gate => cases gate.symm.trans script
    | unfit _ unfit => exact absurd fit unfit
    | identityKept _ _ _ => rfl
    | normalized _ _ identity' => cases identity.symm.trans identity'
  | normalized script fit identity =>
    cases told' with
    | refused gate => cases gate.symm.trans script
    | unfit _ unfit => exact absurd fit unfit
    | identityKept _ _ identity' => cases identity.symm.trans identity'
    | normalized _ _ identity' =>
      cases identity.symm.trans identity'
      rfl

/-! ## What they mean -/

/-- What somebody who reads the events of a launch may conclude from them. -/
structure Truthful (host : Host σ) (profile : Profile) (env : Environment)
    (argv : List Bytes) (state : σ) (outcome : Outcome σ) : Prop where
  told : Told host profile env argv state outcome.failure outcome.events
  /-- There was nothing else to tell. -/
  only : ∀ failure events, Told host profile env argv state failure events →
    events = outcome.events
  /-- The first event lists the variables. -/
  first : ∃ event later, outcome.events = event :: later ∧ event.level = .debug ∧
    event.fields = [("stage", Stage.envSanitized.text), ("vars", quotedList env.names)]
  /-- There is a warning if and only if the first gate was closed: no failure of the host
  is taken for a refusal. -/
  warned_iff : (∃ event ∈ outcome.events, event.level = .warn) ↔
    ∃ failure, profile.authorize argv = .error failure
  /-- It comes last, and what it says is the failure that the launch ends with. -/
  warning : ∀ event ∈ outcome.events, event.level = .warn →
    event.stage = .envSanitized ∧
      event.message? = some ("rejected: " ++ outcome.failure.message) ∧
      outcome.events = [.sanitized env.names, event]
  counted_iff : (∃ event ∈ outcome.events, event.stage = .argsValidated) ↔
    profile.authorize argv = .ok () ∧ profile.Fit argv
  counted : ∀ event ∈ outcome.events, event.stage = .argsValidated →
    event.level = .debug ∧ event.details = [("argc", toString argv.length)]
  normalized_iff : (∃ event ∈ outcome.events, event.stage = .identityNormalized) ↔
    (profile.authorize argv = .ok () ∧ profile.Fit argv) ∧
      ∃ before settled, host.normalizeIdentity state = .ok before settled
  /-- The ids are those that the host says it has seen. -/
  normalized : ∀ event ∈ outcome.events, event.stage = .identityNormalized →
    event.level = .debug ∧
      ∃ before settled, host.normalizeIdentity state = .ok before settled ∧
        event.details =
          [("was_split", if before.isSplit then "true" else "false"),
            ("uid", toString before.effectiveUid), ("gid", toString before.effectiveGid)]
  /-- Progress is reported stage by stage, and no stage is left out or entered again. -/
  progress : (outcome.events.filter (·.level = .debug)).map Event.stage <+: Stage.all
  /-- No event falls in a stage that has been left. -/
  forward : (outcome.events.map Event.stage).Pairwise
    (Stage.all.idxOf · ≤ Stage.all.idxOf ·)

variable {failure : Failure} {events : List Event}

theorem Told.first (told : Told host profile env argv state failure events) :
    ∃ event later, events = event :: later ∧ event.level = .debug ∧
      event.fields = [("stage", Stage.envSanitized.text), ("vars", quotedList env.names)] := by
  cases told with
  | refused gate => exact ⟨_, _, rfl, rfl, rfl⟩
  | unfit script unfit => exact ⟨_, _, rfl, rfl, rfl⟩
  | identityKept script fit identity => exact ⟨_, _, rfl, rfl, rfl⟩
  | normalized script fit identity => exact ⟨_, _, rfl, rfl, rfl⟩

theorem Told.warned_iff (told : Told host profile env argv state failure events) :
    (∃ event ∈ events, event.level = .warn) ↔
      ∃ failure, profile.authorize argv = .error failure := by
  cases told with
  | refused gate => simp [gate, Event.level]
  | unfit script unfit => simp [script, Event.level]
  | identityKept script fit identity => simp [script, Event.level]
  | normalized script fit identity => simp [script, Event.level]

theorem Told.warning (told : Told host profile env argv state failure events) :
    ∀ event ∈ events, event.level = .warn →
      event.stage = .envSanitized ∧
        event.message? = some ("rejected: " ++ failure.message) ∧
        events = [.sanitized env.names, event] := by
  cases told with
  | refused gate => simp [Event.level, Event.stage, Event.message?]
  | unfit script unfit => simp [Event.level]
  | identityKept script fit identity => simp [Event.level]
  | normalized script fit identity => simp [Event.level]

theorem Told.counted_iff (told : Told host profile env argv state failure events) :
    (∃ event ∈ events, event.stage = .argsValidated) ↔
      profile.authorize argv = .ok () ∧ profile.Fit argv := by
  cases told with
  | refused gate => simp [gate, Event.stage]
  | unfit script unfit => simp [unfit, Event.stage]
  | identityKept script fit identity => simp [script, fit, Event.stage]
  | normalized script fit identity => simp [script, fit, Event.stage]

theorem Told.counted (told : Told host profile env argv state failure events) :
    ∀ event ∈ events, event.stage = .argsValidated →
      event.level = .debug ∧ event.details = [("argc", toString argv.length)] := by
  cases told with
  | refused gate => simp [Event.stage]
  | unfit script unfit => simp [Event.stage]
  | identityKept script fit identity => simp [Event.stage, Event.level, Event.details]
  | normalized script fit identity => simp [Event.stage, Event.level, Event.details]

theorem Told.normalized_iff (told : Told host profile env argv state failure events) :
    (∃ event ∈ events, event.stage = .identityNormalized) ↔
      (profile.authorize argv = .ok () ∧ profile.Fit argv) ∧
        ∃ before settled, host.normalizeIdentity state = .ok before settled := by
  cases told with
  | refused gate => simp [gate, Event.stage]
  | unfit script unfit => simp [unfit, Event.stage]
  | identityKept script fit identity => simp [identity, Event.stage]
  | normalized script fit identity => simp [script, fit, identity, Event.stage]

theorem Told.settled (told : Told host profile env argv state failure events) :
    ∀ event ∈ events, event.stage = .identityNormalized →
      event.level = .debug ∧
        ∃ before settled, host.normalizeIdentity state = .ok before settled ∧
          event.details =
            [("was_split", if before.isSplit then "true" else "false"),
              ("uid", toString before.effectiveUid),
              ("gid", toString before.effectiveGid)] := by
  cases told with
  | refused gate => simp [Event.stage]
  | unfit script unfit => simp [Event.stage]
  | identityKept script fit identity => simp [Event.stage]
  | normalized script fit identity =>
    simp [Event.stage, Event.level, Event.details, identity]

theorem Told.progress (told : Told host profile env argv state failure events) :
    (events.filter (·.level = .debug)).map Event.stage <+: Stage.all := by
  cases told with
  | refused gate => exact ⟨[.argsValidated, .identityNormalized], rfl⟩
  | unfit script unfit => exact ⟨[.argsValidated, .identityNormalized], rfl⟩
  | identityKept script fit identity => exact ⟨[.identityNormalized], rfl⟩
  | normalized script fit identity => exact ⟨[], rfl⟩

theorem Told.forward (told : Told host profile env argv state failure events) :
    (events.map Event.stage).Pairwise (Stage.all.idxOf · ≤ Stage.all.idxOf ·) := by
  cases told with
  | refused gate =>
    show [Stage.envSanitized, .envSanitized].Pairwise _
    decide
  | unfit script unfit => exact List.pairwise_singleton _ _
  | identityKept script fit identity =>
    show [Stage.envSanitized, .argsValidated].Pairwise _
    decide
  | normalized script fit identity =>
    show [Stage.envSanitized, .argsValidated, .identityNormalized].Pairwise _
    decide

/-- Events that are told are truthful. -/
theorem Told.truthful {outcome : Outcome σ}
    (told : Told host profile env argv state outcome.failure outcome.events) :
    Truthful host profile env argv state outcome where
  told := told
  only _ _ told' := told'.unique told
  first := told.first
  warned_iff := told.warned_iff
  warning := told.warning
  counted_iff := told.counted_iff
  counted := told.counted
  normalized_iff := told.normalized_iff
  normalized := told.settled
  progress := told.progress
  forward := told.forward

end

/-! ## Every launch -/

section

variable {σ : Type} (host : Host σ) (profile : Profile) (argv : List Bytes) (state : σ)

/-- Without an environment there is no launch, and nothing to report. -/
theorem run_of_not_sanitized {failure : Failure}
    (sanitized : (sanitize host profile state).1 = .error failure) :
    run host profile argv state = ⟨failure, [], host.wipe state⟩ := by
  unfold run
  dsimp only
  rw [sanitized]
  rfl

/-- A whole launch reports what the launch behind its validation does. -/
theorem run_of_sanitized {env : Environment}
    (sanitized : (sanitize host profile state).1 = .ok env) :
    run host profile argv state = launch host profile env argv (host.wipe state) := by
  unfold run
  dsimp only
  rw [sanitized]
  rfl

theorem truthful_launch (env : Environment) :
    Truthful host profile env argv state (launch host profile env argv state) := by
  obtain ⟨requests, exit⟩ := launch_exit host profile env argv state
  exact exit.told.truthful

/-- The events of a launch tell the truth, on every host, for every profile, environment and
command line. A whole launch has the events of the launch behind its validation and no
others, so that an unusable profile leaves none. -/
theorem events_tell_the_truth :
    (∀ env, Truthful host profile env argv state (launch host profile env argv state)) ∧
      (∀ failure, (sanitize host profile state).1 = .error failure →
        (run host profile argv state).events = [] ∧
          (run host profile argv state).failure = failure) ∧
      ∀ env, (sanitize host profile state).1 = .ok env →
        Truthful host profile env argv (host.wipe state) (run host profile argv state) := by
  refine ⟨truthful_launch host profile argv state, ?_, ?_⟩
  · intro failure sanitized
    rw [run_of_not_sanitized host profile argv state sanitized]
    exact ⟨rfl, rfl⟩
  · intro env sanitized
    rw [run_of_sanitized host profile argv state sanitized]
    exact truthful_launch host profile argv (host.wipe state) env

end

/-- A host whose handover fails as if no script had been named. No warning is given, since
the command line named one. -/
theorem events_tell_the_truth_misleadingHost :
    let misleading : Replies := ⟨.ok ⟨1000, 0, 1000, 48⟩, .ok (), .scriptMissing⟩
    let outcome := launch Host.scripted .system Profile.system.environment
      [[], utf8 Profile.ingestScript] misleading
    outcome.failure = .scriptMissing ∧ ∀ event ∈ outcome.events, event.level ≠ .warn := by
  intro misleading outcome
  have script : Profile.system.authorize [[], utf8 Profile.ingestScript] = .ok () :=
    Profile.authorize_ok_iff.mpr ⟨Profile.ingestScript, List.mem_cons_self, rfl⟩
  obtain ⟨truthful, -⟩ := events_tell_the_truth Host.scripted .system
    [[], utf8 Profile.ingestScript] misleading
  refine ⟨by decide +kernel, fun event hevent hwarn => ?_⟩
  obtain ⟨failure, refused⟩ :=
    (truthful Profile.system.environment).warned_iff.mp ⟨event, hevent, hwarn⟩
  rw [script] at refused
  cases refused

end GuardedLaunch

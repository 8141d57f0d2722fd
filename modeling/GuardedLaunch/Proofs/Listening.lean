import GuardedLaunch.Proofs.Builds
import GuardedLaunch.Proofs.Reporting
import GuardedLaunch.Proofs.SystemCall

/-!
# Launches that are listened to

A launch reports an event when it happens, between two operations of its host, and somebody may
be listening: a log from one level on, a log from another, or nobody at all. Here the launch is
put in that order, for any listener, and the listener makes no difference to it. The events are
told one after the other, and the host is asked the same things in the same states whoever
listens.

- `Heard`, `tell`, `ask`, `replace`: a host and a listener, each with a state of its own.
- `launchAloud`: a launch that tells each event when it happens.
- `launchAloud_eq`: it is the launch, and the listener has been told its events.
- `Log.write`, `Log.foldl_write`: the log as a listener, and what it has written in the end.
- `Program.stderr_written`: the log of the program is written in this way.
-/

namespace GuardedLaunch

/-! ## Hosts and listeners -/

/-- The state of a host, and what a listener has made of what it was told. -/
structure Heard (σ τ : Type) where
  state : σ
  heard : τ

section

variable {σ τ α : Type}

/-- Tell an event. The host takes no notice. -/
def tell (hear : τ → Event → τ) (event : Event) : EStateM Failure (Heard σ τ) Unit :=
  fun now => .ok () { now with heard := hear now.heard event }

/-- Ask something of the host. The listener takes no notice. -/
def ask (operation : EStateM Failure σ α) : EStateM Failure (Heard σ τ) α := fun now =>
  match operation now.state with
  | .ok answer state => .ok answer { now with state }
  | .error failure state => .error failure { now with state }

/-- Have the host replace the process image, which it answers only if that failed. -/
def replace (exec : σ → Failure × σ) : EStateM Failure (Heard σ τ) Empty := fun now =>
  let answer := exec now.state
  .error answer.1 { now with state := answer.2 }

/-- A launch that tells each event when it happens. -/
def launchAloud (host : Host σ) (hear : τ → Event → τ) (profile : Profile) (env : Environment)
    (argv : List Bytes) : EStateM Failure (Heard σ τ) Empty := do
  tell hear (.sanitized env.names)
  match profile.authorize argv with
  | .error failure =>
    tell hear (.rejected failure)
    throw failure
  | .ok () =>
    match profile.handover env argv with
    | .error failure => throw failure
    | .ok handover =>
      tell hear (.validated handover.argv.length)
      let before ← ask host.normalizeIdentity
      tell hear (.normalized before)
      ask host.resetSignals
      replace (host.exec handover)

variable {state after : σ} {heard : τ}

theorem tell_apply (hear : τ → Event → τ) (event : Event) :
    tell hear event ⟨state, heard⟩ = .ok () ⟨state, hear heard event⟩ := rfl

theorem ask_of_ok {operation : EStateM Failure σ α} {answer : α}
    (h : operation state = .ok answer after) :
    ask operation ⟨state, heard⟩ = .ok answer ⟨after, heard⟩ := by
  rw [ask, h]

theorem ask_of_error {operation : EStateM Failure σ α} {failure : Failure}
    (h : operation state = .error failure after) :
    ask operation ⟨state, heard⟩ = .error failure ⟨after, heard⟩ := by
  rw [ask, h]

end

/-- Whoever listens, a launch ends in the same way and leaves the same, and the listener has
been told its events in order. -/
theorem launchAloud_eq {σ τ : Type} (host : Host σ) (hear : τ → Event → τ) (profile : Profile)
    (env : Environment) (argv : List Bytes) (state : σ) (heard : τ) :
    let outcome := launch host profile env argv state
    launchAloud host hear profile env argv ⟨state, heard⟩
      = .error outcome.failure ⟨outcome.state, outcome.events.foldl hear heard⟩ := by
  obtain ⟨requests, exit⟩ := launch_exit host profile env argv state
  generalize launch host profile env argv state = outcome at exit
  rw [launchAloud, bind_of_ok (tell_apply hear _)]
  cases exit with
  | refused gate =>
    rw [gate]
    rfl
  | unprepared script gate =>
    rw [script, gate]
    rfl
  | identityKept script prepared identity =>
    rw [script, prepared]
    dsimp only
    rw [bind_of_ok (tell_apply hear _), bind_of_error (ask_of_error identity)]
    rfl
  | signalsKept script prepared identity signals =>
    rw [script, prepared]
    dsimp only
    rw [bind_of_ok (tell_apply hear _), bind_of_ok (ask_of_ok identity),
      bind_of_ok (tell_apply hear _), bind_of_error (ask_of_error signals)]
    rfl
  | executed script prepared identity signals =>
    rw [script, prepared]
    dsimp only
    rw [bind_of_ok (tell_apply hear _), bind_of_ok (ask_of_ok identity),
      bind_of_ok (tell_apply hear _), bind_of_ok (ask_of_ok signals)]
    rfl

/-! ## The log as a listener -/

namespace Log

/-- Add the line of an event to what has been written, if the event is shown. -/
def write (least : Level) (written : String) (event : Event) : String :=
  if event.level.shownFrom least then written ++ line event else written

/-- A log that is written event by event holds the lines of the events that it shows. -/
theorem foldl_write (least : Level) (written : String) (events : List Event) :
    events.foldl (write least) written = written ++ text least events := by
  induction events generalizing written with
  | nil => simp [text]
  | cons event rest ih =>
    rw [List.foldl_cons, ih, write, text, text, List.filter_cons]
    split
    · rw [List.map_cons, String.join_cons, String.append_assoc]
    · rfl

end Log

/-- The program puts out what its log has written by the end of the launch. -/
theorem Program.stderr_written (build : Build) (argv : List Bytes) (stdoutOpen : Bool)
    (kernel : Kernel) :
    let outcome := GuardedLaunch.run Kernel.host build.profile argv (started kernel)
    launchAloud Kernel.host (Log.write build.leastLevel) build.profile build.profile.environment
        argv ⟨(started kernel).clearenv, ""⟩
      = .error outcome.failure
          ⟨outcome.state, (inStages build argv stdoutOpen kernel).stderr⟩ := by
  have sanitized : (sanitize Kernel.host build.profile (started kernel)).1
      = .ok build.profile.environment :=
    Environment.ofValidated_ok_iff.mpr ⟨build.validate_profile, rfl⟩
  dsimp only
  rw [inStages_eq_run, run, finish_stderr, run_of_sanitized _ _ _ _ sanitized, launchAloud_eq,
    Log.foldl_write, String.empty_append]
  rfl

end GuardedLaunch

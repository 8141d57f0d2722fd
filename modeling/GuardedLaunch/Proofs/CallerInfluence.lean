import GuardedLaunch.Proofs.Execution
import GuardedLaunch.Proofs.TwoRuns

/-!
# What a command line can influence

The caller chooses the whole command line, and the arguments from slot 1 on reach the
interpreter as they are. There the influence ends. Slot 0 has none at all. Of command lines
that pass, the other slots have none on the ids, the signals, the environment or the
failure, however many there are: they show in the arguments of the one call that they are
meant for, and their number shows in the event that reports it.

- `run_cons`: nobody looks at slot 0.
- `Kernel.hidingArguments`: launches compared without the arguments of the caller.
- `Kernel.OnlyArguments`: what is claimed of two launches.
-/

namespace GuardedLaunch

/-! ## Slot 0 -/

theorem Profile.authorize_cons (profile : Profile) (name name' : Bytes) (rest : List Bytes) :
    profile.authorize (name :: rest) = profile.authorize (name' :: rest) := by
  cases rest with
  | nil => rfl
  | cons candidate rest => rfl

/-- The name under which a launch was started makes no difference to it, on any host. What
is handed over has the interpreter in that slot. -/
theorem run_cons {σ : Type} (host : Host σ) (profile : Profile) (name name' : Bytes)
    (rest : List Bytes) (state : σ) :
    run host profile (name :: rest) state = run host profile (name' :: rest) state := by
  have handover (env : Environment) :
      profile.handover env (name :: rest) = profile.handover env (name' :: rest) := rfl
  unfold run launch
  simp only [profile.authorize_cons name name', handover]

/-! ## Launches compared without the arguments -/

/-- A system call without the caller's arguments: slot 0 and all the rest of the call are
kept. -/
def Syscall.withoutArguments : Syscall → Syscall
  | execve path argv env => execve path (argv.take 1) env
  | call => call

/-- An event without the number of arguments. -/
def Event.withoutCount : Event → Event
  | validated _ => validated 0
  | event => event

namespace Kernel

/-- Handovers that differ in the caller's arguments at most count as alike, and nothing that
depends on those is looked at. -/
def hidingArguments : Comparison Kernel where
  handovers handover other :=
    handover.interpreter = other.interpreter ∧
      handover.argv.take 1 = other.argv.take 1 ∧ handover.env = other.env
  shown := Event.withoutCount
  after := SameUpTo Syscall.withoutArguments
  after_refl := .refl Syscall.withoutArguments
  shown_validated _ := rfl

/-- A kernel records the arguments and does not look at them. -/
theorem hidingArguments_keptBy : hidingArguments.KeptBy host := by
  rintro handover other ⟨interpreter, name, env⟩ kernel
  refine sameUpTo_exec interpreter ?_ kernel
  show Syscall.execve _ (handover.argv.take 1) _ = Syscall.execve _ (other.argv.take 1) _
  rw [interpreter, name, env]

/-- The gates answer alike about accepted command lines. -/
theorem hidingArguments_gates {profile : Profile} {argv argv' : List Bytes}
    (accepts : profile.Accepts argv) (accepts' : profile.Accepts argv')
    (valid : profile.validate = .ok ()) (env : Environment) :
    hidingArguments.Gates profile profile env env argv argv' := by
  have interpreter := Profile.interpreter_of_validate valid
  constructor
  case names => rfl
  case script => rw [accepts.script, accepts'.script]
  case prepared =>
    rw [accepts.handover_eq interpreter env, accepts'.handover_eq interpreter env]
    exact .passed ⟨rfl, rfl, rfl⟩

/-! ## What is claimed -/

/-- Two launches on a kernel can be told apart by nothing but the arguments of the caller:
of the calls they show in `execve` alone, from slot 1 on, and of the events in the number of
slots alone. -/
structure OnlyArguments (outcome other : Outcome Kernel) : Prop where
  failure : outcome.failure = other.failure
  process : outcome.state.process = other.state.process
  faults : outcome.state.faults = other.state.faults
  execErrno : outcome.state.execErrno = other.state.execErrno
  trace : outcome.state.trace.map Syscall.withoutArguments
    = other.state.trace.map Syscall.withoutArguments
  events : outcome.events.map Event.withoutCount = other.events.map Event.withoutCount

/-- Of two command lines that are accepted neither is launched differently, but for the
arguments. -/
theorem onlyArguments_of_accepts {profile : Profile} {argv argv' : List Bytes}
    (accepts : profile.Accepts argv) (accepts' : profile.Accepts argv') (kernel : Kernel) :
    OnlyArguments (run host profile argv kernel) (run host profile argv' kernel) := by
  have gates (valid : profile.validate = .ok ()) :=
    hidingArguments_gates accepts accepts' valid profile.environment
  obtain ⟨failure, events, state⟩ := hidingArguments_keptBy.run rfl gates kernel
  exact {
    failure := failure
    process := state.process
    faults := state.faults
    execErrno := state.execErrno
    trace := state.trace
    events := events }

/-- A command line influences nothing but the arguments of the interpreter, on any kernel
and with any faults: slot 0 makes no difference, and accepted command lines of any lengths
and contents make none but in those arguments. -/
theorem only_arguments_show (profile : Profile) (kernel : Kernel) :
    (∀ name name' rest,
        run host profile (name :: rest) kernel = run host profile (name' :: rest) kernel) ∧
      ∀ argv argv', profile.Accepts argv → profile.Accepts argv' →
        OnlyArguments (run host profile argv kernel) (run host profile argv' kernel) := by
  constructor
  · intro name name' rest
    exact run_cons host profile name name' rest kernel
  · intro argv argv' accepts accepts'
    exact onlyArguments_of_accepts accepts accepts' kernel

/-- The inherited process is left in the same way by a plain request for the script and by
one with arguments that a shell would make something of. -/
theorem only_arguments_show_inherited :
    let plain := [[], utf8 Profile.ingestScript]
    let crafted :=
      [utf8 "python", utf8 Profile.ingestScript, utf8 "-c", [], utf8 "$(id) ; rm -rf /"]
    Profile.system.Accepts plain ∧ Profile.system.Accepts crafted ∧
      OnlyArguments (run host .system plain inherited) (run host .system crafted inherited) := by
  intro plain crafted
  have permitted : Profile.ingestScript ∈ Profile.system.scripts := List.mem_cons_self
  have accepts : Profile.system.Accepts plain :=
    ⟨Profile.authorize_ok_iff.mpr ⟨_, permitted, rfl⟩, by decide +kernel⟩
  have accepts' : Profile.system.Accepts crafted :=
    ⟨Profile.authorize_ok_iff.mpr ⟨_, permitted, rfl⟩, by decide +kernel⟩
  obtain ⟨-, alike⟩ := only_arguments_show .system inherited
  exact ⟨accepts, accepts', alike plain crafted accepts accepts'⟩

end Kernel

end GuardedLaunch

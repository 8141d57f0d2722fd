import GuardedLaunch.Kernel.History
import GuardedLaunch.Program
import GuardedLaunch.Proofs.Execution

/-!
# Losing the diagnostic

The program starts out ignoring the signal for a pipe that nobody reads, and the exit
code of a failure depends on that where the diagnostic cannot be written. Resetting the
signals ends the protection, so a launch that fails after it leaves the process to be
killed by its own diagnostic.

- `Kernel.Restores`: a launch gives a signal its default action.
- `Kernel.SignalExit`, `signal_exit`: the two things that a launch can have done to the
  signal state.
- `Kernel.SignalExit.mem_iff`: exactly the restored signals have left the ignored and the
  handled ones.
- `Program.finish_ending`, `Program.outlives_iff`: when the program ends with its exit code
  although nobody reads its output.
-/

namespace GuardedLaunch

namespace Kernel

/-- A launch gives a signal its default action: it passes every gate before the signals,
nothing is refused before the signal, and the call for the signal is not struck. -/
structure Restores (kernel : Kernel) (profile : Profile) (argv : List Bytes) (n : Nat) :
    Prop where
  valid : profile.validate = .ok ()
  script : ∃ script ∈ profile.scripts, argv[1]? = some (utf8 script)
  arguments : ∀ arg ∈ argv.tail, 0 ∉ arg
  identity : ∃ before settled, normalizeIdentity kernel.clearenv = .ok before settled
  mask : ∀ cause, kernel.verdict .sigmask ≠ some (.refuse cause)
  resettable : n ∈ Signal.numbers Signal.resettable
  earlier : ∀ m ∈ Signal.numbers Signal.resettable, m < n →
    ∀ cause, kernel.verdict (.signal m) ≠ some (.refuse cause)
  spared : kernel.verdict (.signal n) = none

/-- What a launch has done to the signal state: nothing, or all that a signal reset does
to a process with the same signal state. -/
inductive SignalExit (kernel : Kernel) (profile : Profile) (argv : List Bytes) :
    ProcessState → Prop
  | kept {process : ProcessState} (ignored : process.ignored = kernel.process.ignored)
      (handled : process.handled = kernel.process.handled)
      (unrestored : ∀ n, ¬ kernel.Restores profile argv n) :
      SignalExit kernel profile argv process
  | reset {settled : Kernel} {result : EStateM.Result Failure Kernel Unit}
      (ignored : settled.process.ignored = kernel.process.ignored)
      (handled : settled.process.handled = kernel.process.handled)
      (blocked : settled.process.blocked = kernel.process.blocked)
      (mask : settled.effect .sigmask = kernel.verdict .sigmask)
      (restored : ∀ n, settled.Resets n ↔ kernel.Restores profile argv n)
      (exit : ResetExit settled result) :
      SignalExit kernel profile argv (left result).process

section

variable {kernel : Kernel} {profile : Profile} {argv : List Bytes}

/-- Behind the other gates, a launch restores what the signal reset resets. -/
theorem resets_iff_restores (valid : profile.validate = .ok ())
    (script : profile.authorize argv = .ok ()) {env : Environment} {handover : Handover}
    (prepared : profile.handover env argv = .ok handover) {settled : Kernel}
    {before : Identity} (identity : normalizeIdentity kernel.clearenv = .ok before settled)
    (n : Nat) : settled.Resets n ↔ kernel.Restores profile argv n := by
  -- each call of the reset is decided as it is from the start of the launch on
  have hmask : settled.effect .sigmask = kernel.verdict .sigmask := by
    rw [← resetVerdict_sigmask]
    exact verdict_reset identity (by decide)
  have hsignal (m : Nat) : settled.resetVerdict (.signal m) = kernel.verdict (.signal m) :=
    verdict_reset identity (signal_not_mem_normalizationServices m)
  constructor
  · rintro ⟨mask, resettable, earlier, spared⟩
    simp only [Answers, hmask] at mask
    simp only [hsignal] at earlier spared
    exact ⟨valid, Profile.authorize_ok_iff.mp script, (Profile.handover_ok_iff.mp prepared).2.1,
      ⟨before, settled, identity⟩, mask, resettable, earlier, spared⟩
  · rintro ⟨-, -, -, -, mask, resettable, earlier, spared⟩
    simp only [← hmask] at mask
    simp only [← hsignal] at earlier spared
    exact ⟨mask, resettable, earlier, spared⟩

/-- Behind the other gates, a launch does to the signal state what the signal reset
does. -/
theorem signalExit_of_reset (valid : profile.validate = .ok ())
    (script : profile.authorize argv = .ok ()) {env : Environment} {handover : Handover}
    (prepared : profile.handover env argv = .ok handover) {settled : Kernel}
    {before : Identity} (identity : normalizeIdentity kernel.clearenv = .ok before settled)
    {result : EStateM.Result Failure Kernel Unit} (signals : resetSignals settled = result) :
    SignalExit kernel profile argv (left result).process := by
  obtain ⟨uid, gid, hprocess⟩ := normalization_process (normalization_exit identity)
  rw [left] at hprocess
  refine .reset ?_ ?_ ?_ ?_ (resets_iff_restores valid script prepared identity)
    (reset_exit signals)
  · rw [hprocess]
    rfl
  · rw [hprocess]
    rfl
  · rw [hprocess]
    rfl
  · rw [← resetVerdict_sigmask]
    exact verdict_reset identity (by decide)

/-- A launch on a kernel has done one of these things to the signal state. -/
theorem signal_exit {requests : List Request} {outcome : Outcome Kernel}
    (exit : RunExit host profile argv kernel requests outcome) :
    SignalExit kernel profile argv outcome.state.process := by
  cases exit with
  | @unusable failure invalid =>
    refine .kept rfl rfl fun n restores => ?_
    rw [restores.valid] at invalid
    cases invalid
  | launched valid exit =>
    cases exit with
    | refused gate =>
      refine .kept rfl rfl fun n restores => ?_
      rw [Profile.authorize_ok_iff.mpr restores.script] at gate
      cases gate
    | unprepared script gate =>
      refine .kept rfl rfl fun n restores => ?_
      have hinterpreter := Profile.interpreter_of_validate valid
      rw [Profile.handover_ok_iff.mpr ⟨hinterpreter, restores.arguments, rfl⟩] at gate
      cases gate
    | @identityKept handover failure after script prepared identity =>
      have hanswer : normalizeIdentity kernel.clearenv = .error failure after := identity
      obtain ⟨uid, gid, hprocess⟩ := normalization_process (normalization_exit hanswer)
      rw [left] at hprocess
      refine .kept (by rw [hprocess]; rfl) (by rw [hprocess]; rfl) fun n restores => ?_
      obtain ⟨before, settled, hok⟩ := restores.identity
      rw [hok] at hanswer
      cases hanswer
    | signalsKept script prepared identity signals =>
      exact signalExit_of_reset valid script prepared identity signals
    | executed script prepared identity signals =>
      -- the replacement is recorded and leaves the process as the reset did
      exact signalExit_of_reset valid script prepared identity signals

/-- After a launch, exactly the signals that it has restored have left the ignored and
the handled ones. -/
theorem SignalExit.mem_iff {process : ProcessState}
    (exit : SignalExit kernel profile argv process) (n : Nat) :
    (n ∈ process.ignored ↔ n ∈ kernel.process.ignored ∧ ¬ kernel.Restores profile argv n) ∧
      (n ∈ process.handled ↔
        n ∈ kernel.process.handled ∧ ¬ kernel.Restores profile argv n) := by
  cases exit with
  | kept ignored handled unrestored =>
    rw [ignored, handled]
    exact ⟨(and_iff_left (unrestored n)).symm, (and_iff_left (unrestored n)).symm⟩
  | reset ignored handled blocked mask restored exit =>
    rw [← ignored, ← handled, ← restored n]
    exact mem_reset_iff exit n

/-- A launch that has restored a signal has unblocked everything, unless the call for the
mask was feigned. -/
theorem SignalExit.blocked {process : ProcessState}
    (exit : SignalExit kernel profile argv process) {n : Nat}
    (restores : kernel.Restores profile argv n) :
    process.blocked
      = if kernel.verdict .sigmask = some .feign then kernel.process.blocked else ∅ := by
  cases exit with
  | kept ignored handled unrestored => exact absurd restores (unrestored n)
  | @reset settled result ignored handled blocked mask restored exit =>
    have answers := ((restored n).mpr restores).mask
    rw [reset_blocked exit, blocked, ← mask]
    by_cases hfeign : settled.effect .sigmask = some .feign
    · rw [if_pos hfeign, if_neg (by rw [hfeign]; exact Option.some_ne_none _)]
    · rw [if_neg hfeign, if_pos (effect_eq_none answers hfeign)]

end

end Kernel

/-! ## The program -/

namespace Program

/-- Without a reader the program ends with its exit code when the process outlives the
attempt to write. -/
theorem finish_ending (outcome : Outcome Kernel) (stderr : String) :
    (finish outcome false stderr).ending = .exited outcome.failure.exitStatus.code ↔
      outlivesBrokenPipe outcome.state.process = true := by
  rw [finish, if_neg Bool.false_ne_true]
  by_cases h : outlivesBrokenPipe outcome.state.process = true
  · rw [if_pos h]
    exact ⟨fun _ => h, fun _ => rfl⟩
  · rw [if_neg h]
    exact ⟨fun heq => (nomatch heq), fun h' => absurd h' h⟩

/-- A process in which the signal was ignored when a launch began outlives the attempt
afterwards if the signal was not restored, or if it was blocked and the call for the mask
feigned. -/
theorem outlives_iff {kernel : Kernel} {profile : Profile} {argv : List Bytes}
    {process : ProcessState} (exit : kernel.SignalExit profile argv process)
    (ignored : Signal.brokenPipe ∈ kernel.process.ignored) :
    outlivesBrokenPipe process = true ↔
      ¬ kernel.Restores profile argv Signal.brokenPipe ∨
        (Signal.brokenPipe ∈ kernel.process.blocked ∧
          kernel.verdict .sigmask = some .feign) := by
  obtain ⟨hignored, hhandled⟩ := exit.mem_iff Signal.brokenPipe
  rw [outlivesBrokenPipe, decide_eq_true_iff, hignored, hhandled]
  by_cases restores : kernel.Restores profile argv Signal.brokenPipe
  -- a restored signal has left both sets, so only the mask can hold it back
  · have hblocked := exit.blocked restores
    by_cases hfeign : kernel.verdict .sigmask = some .feign
    · rw [hblocked, if_pos hfeign]
      simp [restores, hfeign]
    · rw [hblocked, if_neg hfeign]
      simp [restores, hfeign]
  · simp [restores, ignored]

end Program

/-- After a launch the signal for a pipe that nobody reads is still ignored exactly if it
was before and the launch has not restored it. The program, which begins by ignoring it,
therefore ends with the exit code of the failure although nobody reads its output exactly
if the launch has not restored the signal, or if a mask that was only claimed to be empty
still blocks it. -/
theorem brokenPipe_protection (profile : Profile) (build : Build) (argv : List Bytes)
    (kernel : Kernel) :
    (Signal.brokenPipe ∈ (run Kernel.host profile argv kernel).state.process.ignored ↔
        Signal.brokenPipe ∈ kernel.process.ignored ∧
          ¬ kernel.Restores profile argv Signal.brokenPipe) ∧
      ((Program.run build argv false kernel).ending
          = .exited (run Kernel.host build.profile argv
              (Program.started kernel)).failure.exitStatus.code ↔
        ¬ (Program.started kernel).Restores build.profile argv Signal.brokenPipe ∨
          (Signal.brokenPipe ∈ kernel.process.blocked ∧
            kernel.verdict .sigmask = some .feign)) := by
  constructor
  · obtain ⟨requests, exit⟩ := run_exit Kernel.host profile argv kernel
    exact ((Kernel.signal_exit exit).mem_iff Signal.brokenPipe).1
  · obtain ⟨requests, exit⟩ := run_exit Kernel.host build.profile argv (Program.started kernel)
    have hignored : Signal.brokenPipe ∈ (Program.started kernel).process.ignored :=
      SignalSet.mem_insert.mpr (Or.inl rfl)
    rw [Program.run, Program.finish_ending,
      Program.outlives_iff (Kernel.signal_exit exit) hignored]
    exact Iff.rfl

/-- A process of the superuser that ignores the signal and calls the permitted script. -/
def unlucky : Kernel :=
  Program.started .initial

/-- The command line that names the permitted script. -/
def ingestCall : List Bytes :=
  [utf8 "invoke", utf8 Profile.ingestScript]

/-- A launch of the permitted script whose interpreter cannot be found leaves the signal
at its default action, and the program is killed by its own diagnostic. -/
theorem brokenPipe_unprotected :
    Signal.brokenPipe ∈ unlucky.process.ignored ∧
      (run Kernel.host .system ingestCall unlucky).failure
        = .notExecuted ⟨2⟩ (decodeLossy (utf8 Profile.system.interpreter)) ∧
      Signal.brokenPipe ∉ (run Kernel.host .system ingestCall unlucky).state.process.ignored ∧
      (Program.run .standard ingestCall false unlucky).ending
        = .killed Signal.brokenPipe := by
  refine ⟨?_, ?_, ?_, ?_⟩
  · decide
  · decide +kernel
  · decide +kernel
  · decide +kernel

end GuardedLaunch

import GuardedLaunch.Proofs.Faultless

/-!
# Launching again

On a kernel without faults a launch may be tried again. The process that a launch left is
one in which a second launch finds nothing to change: it comes to the same failure by the
same calls, and leaves the process as it was left. This holds wherever the launch stops,
also between the ids and the signals, and also where no id is changed because the effective
id is the number that is no id.

- `LaunchExit.again`, `RunExit.again`: an ending, reached again from the kernel it left,
  whatever that kernel has on record by then.
- `Kernel.history_replicate`: a step that leaves its kernel as it is can be repeated.
- `Kernel.perform_run_again`: a launch is such a step once it has been performed.
- `Kernel.Repeats`: what is claimed of a second launch.
-/

namespace GuardedLaunch

open IdSlots (noId)

namespace Kernel

/-! ## A kernel that was left -/

/-- A kernel with another record of the calls made so far. -/
def recalling (kernel : Kernel) (trace : List Syscall) : Kernel :=
  { kernel with trace }

theorem Faultless.recalling {kernel : Kernel} (faultless : kernel.Faultless)
    (trace : List Syscall) : (kernel.recalling trace).Faultless :=
  faultless

theorem clearenv_recalling {kernel : Kernel} (wiped : kernel.process.env = [])
    (trace : List Syscall) :
    (kernel.recalling trace).clearenv = kernel.recalling (trace ++ [.clearenv]) := by
  have same : { kernel.process with env := [] } = kernel.process := by
    rw [← wiped]
  show ({ kernel with process := { kernel.process with env := [] }, trace := _ } : Kernel) = _
  rw [same]
  rfl

/-- Where the ids have been set, setting them again is two calls more and nothing else. -/
theorem Faultless.normalizeIdentity_recalling {kernel : Kernel} (faultless : kernel.Faultless)
    (normal : kernel.process.normalized = kernel.process) (trace : List Syscall) :
    normalizeIdentity (kernel.recalling trace) =
      match kernel.process.mismatch? with
      | some failure =>
        .error failure (kernel.recalling (trace ++ kernel.process.idSettings))
      | none =>
        .ok kernel.identity (kernel.recalling (trace ++ kernel.process.idSettings)) := by
  have left : (kernel.recalling trace).normalized
      = kernel.recalling (trace ++ kernel.process.idSettings) := by
    show ({ kernel with process := kernel.process.normalized, trace := _ } : Kernel) = _
    rw [normal]
    rfl
  rw [(faultless.recalling trace).normalizeIdentity_eq, left]
  rfl

/-- Where the signals have been reset, resetting them again is the same calls once more and
nothing else. -/
theorem Faultless.resetSignals_recalling {kernel : Kernel} (faultless : kernel.Faultless)
    (clean : kernel.process.cleaned = kernel.process) (trace : List Syscall) :
    resetSignals (kernel.recalling trace)
      = .ok () (kernel.recalling (trace ++ resetCalls)) := by
  have left : (kernel.recalling trace).cleaned = kernel.recalling (trace ++ resetCalls) := by
    show ({ kernel with process := kernel.process.cleaned, trace := _ } : Kernel) = _
    rw [clean]
    rfl
  rw [(faultless.recalling trace).resetSignals_eq, left]

end Kernel

/-! ## An ending, reached again -/

section

variable {profile : Profile} {env : Environment} {argv : List Bytes} {kernel : Kernel}
  {requests : List Request} {outcome : Outcome Kernel}

/-- A launch in a given environment, tried again from the kernel that it left, ends in the
same way. Neither the first nor the second touches the environment of the process. -/
theorem LaunchExit.again (faultless : kernel.Faultless)
    (exit : LaunchExit Kernel.host profile env argv kernel requests outcome) :
    outcome.state.process.env = kernel.process.env ∧
      ∃ calls, outcome.state.trace = kernel.trace ++ calls ∧
        ∀ trace, ∃ events, LaunchExit Kernel.host profile env argv
          (outcome.state.recalling trace) requests
          ⟨outcome.failure, events, outcome.state.recalling (trace ++ calls)⟩ := by
  cases exit with
  | refused gate =>
    refine ⟨rfl, [], (List.append_nil _).symm, fun trace => ?_⟩
    rw [List.append_nil]
    exact ⟨_, .refused gate⟩
  | unprepared script gate =>
    refine ⟨rfl, [], (List.append_nil _).symm, fun trace => ?_⟩
    rw [List.append_nil]
    exact ⟨_, .unprepared script gate⟩
  | identityKept script prepared identity =>
    obtain ⟨mismatch, rfl⟩ := faultless.normalizeIdentity_error_iff.mp identity
    refine ⟨rfl, kernel.process.idSettings, rfl, fun trace => ?_⟩
    -- the ids are set to what they are, and then found as they were found
    have identityAgain := faultless.normalized.normalizeIdentity_recalling
      kernel.process.normalized_normalized trace
    simp only [Kernel.normalized, ProcessState.mismatch?_normalized, mismatch,
      ProcessState.idSettings_normalized] at identityAgain
    exact ⟨_, .identityKept script prepared identityAgain⟩
  | signalsKept script prepared identity signals =>
    obtain ⟨-, -, rfl⟩ := faultless.normalizeIdentity_ok_iff.mp identity
    cases faultless.normalized.resetSignals_eq.symm.trans signals
  | @executed handover _ _ _ script prepared identity signals =>
    obtain ⟨mismatch, -, rfl⟩ := faultless.normalizeIdentity_ok_iff.mp identity
    cases faultless.normalized.resetSignals_eq.symm.trans signals
    let replaced : Kernel := (Kernel.exec handover kernel.normalized.cleaned).2
    have faultlessAgain : replaced.Faultless := faultless
    have process : replaced.process = kernel.process.normalized.cleaned := rfl
    refine ⟨rfl, kernel.process.idSettings ++ Kernel.resetCalls
      ++ [.execve handover.interpreter handover.argv handover.env.block], ?_, fun trace => ?_⟩
    · rw [← List.append_assoc, ← List.append_assoc]
      rfl
    -- the ids are set and the signals are reset by now, and the same calls leave them so
    have identityAgain := faultlessAgain.normalizeIdentity_recalling (by simp [process]) trace
    have signalsAgain := faultlessAgain.resetSignals_recalling (by simp [process])
      (trace ++ kernel.process.idSettings)
    simp only [process, ProcessState.mismatch?_cleaned, ProcessState.mismatch?_normalized,
      mismatch, ProcessState.idSettings_cleaned, ProcessState.idSettings_normalized]
      at identityAgain
    rw [← List.append_assoc, ← List.append_assoc]
    have exitAgain : LaunchExit Kernel.host profile env argv (replaced.recalling trace) _ _ :=
      .executed script prepared identityAgain signalsAgain
    exact ⟨_, exitAgain⟩

/-- A whole launch, tried again from the kernel that it left, ends in the same way. -/
theorem RunExit.again (faultless : kernel.Faultless)
    (exit : RunExit Kernel.host profile argv kernel requests outcome) :
    ∃ calls, outcome.state.trace = kernel.trace ++ calls ∧
      ∀ trace, ∃ events, RunExit Kernel.host profile argv (outcome.state.recalling trace)
        requests ⟨outcome.failure, events, outcome.state.recalling (trace ++ calls)⟩ := by
  cases exit with
  | unusable invalid => exact ⟨[.clearenv], rfl, fun trace => ⟨_, .unusable invalid⟩⟩
  | launched valid exit =>
    have faultlessWiped : kernel.clearenv.Faultless := faultless
    obtain ⟨wiped, calls, htrace, again⟩ := exit.again faultlessWiped
    refine ⟨.clearenv :: calls, ?_, fun trace => ?_⟩
    · rw [htrace, List.append_cons]
      rfl
    obtain ⟨events, exitAgain⟩ := again (trace ++ [.clearenv])
    have wipedAgain := Kernel.clearenv_recalling wiped trace
    rw [← wipedAgain, ← List.append_cons] at exitAgain
    exact ⟨events, .launched valid exitAgain⟩

end

namespace Kernel

/-! ## The same step, again and again -/

/-- A step that leaves its kernel as it is shows the same whenever it is repeated. -/
theorem history_replicate {kernel : Kernel} {step : Step} {report : Report}
    (fixed : kernel.perform step = (report, kernel)) (n : Nat) :
    kernel.history (List.replicate n (.perform step))
      = (List.replicate n (.performed report), kernel) := by
  induction n with
  | zero => rfl
  | succ n ih =>
    have followed : kernel.follow (.perform step) = (.performed report, kernel) := by
      rw [follow, fixed]
    rw [List.replicate_succ, history, followed, ih]
    rfl

/-- What a launch reports when it is performed on its own. -/
theorem perform_run (kernel : Kernel) (profile : Profile) (argv : List Bytes) :
    let outcome := run host profile argv (kernel.recalling [])
    kernel.perform (.run profile argv)
      = ({ answer := .failed outcome.failure, events := outcome.events
           trace := outcome.state.trace, process := outcome.state.process },
        outcome.state) := by
  intro outcome
  rfl

/-- Performing a launch, on a kernel without faults, leaves a kernel on which it does the
same once more and changes nothing. Only what it tells on the way may be different. -/
theorem perform_run_again {kernel : Kernel} (faultless : kernel.Faultless) (profile : Profile)
    (argv : List Bytes) :
    ∃ events, (kernel.perform (.run profile argv)).2.perform (.run profile argv)
      = ({ (kernel.perform (.run profile argv)).1 with events },
        (kernel.perform (.run profile argv)).2) := by
  obtain ⟨requests, exit⟩ := run_exit host profile argv (kernel.recalling [])
  obtain ⟨calls, htrace, again⟩ := exit.again (faultless.recalling [])
  obtain ⟨events, exitAgain⟩ := again []
  have recalled : (run host profile argv (kernel.recalling [])).state.recalling ([] ++ calls)
      = (run host profile argv (kernel.recalling [])).state :=
    congrArg (recalling _) htrace.symm
  rw [recalled] at exitAgain
  refine ⟨events, ?_⟩
  rw [perform_run, perform_run, exitAgain.run_eq]

/-! ## Two launches -/

/-- What a second launch, from the kernel that the first one left, has in common with the
first. -/
structure Repeats (kernel : Kernel) (first second : Outcome Kernel) : Prop where
  failure : second.failure = first.failure
  /-- The same calls have been made with the same arguments, and no others. -/
  trace : second.state.trace = first.state.trace ++ first.state.callsSince kernel
  process : second.state.process = first.state.process
  execErrno : second.state.execErrno = first.state.execErrno
  faults : second.state.faults = first.state.faults

/-- A launch on a kernel without faults can be retried. The second launch asks for the same,
makes the same calls and comes to the same failure, wherever the first one stopped, and it
leaves the process as the first one left it. So does every later one, and from the second on
even what is told on the way stays the same. -/
theorem launch_repeats (profile : Profile) (argv : List Bytes) (kernel : Kernel)
    (faultless : kernel.faults = []) :
    let first := run host profile argv kernel
    kernel.Repeats first (run host profile argv first.state) ∧
      (run host.observed profile argv (.fresh first.state)).state.requests
        = (run host.observed profile argv (.fresh kernel)).state.requests ∧
      ∃ report events after, ∀ n,
        kernel.history (List.replicate (n + 1) (.perform (.run profile argv)))
          = (.performed report :: List.replicate n (.performed { report with events }),
            after) := by
  intro first
  obtain ⟨requests, exit⟩ := run_exit host profile argv kernel
  obtain ⟨calls, htrace, again⟩ := exit.again faultless
  obtain ⟨events, exitAgain⟩ := again first.state.trace
  have hcalls : first.state.callsSince kernel = calls := by
    rw [callsSince, htrace, List.drop_left]
  have second : run host profile argv first.state
      = ⟨first.failure, events, first.state.recalling (first.state.trace ++ calls)⟩ :=
    exitAgain.run_eq
  refine ⟨?_, ?_, ?_⟩
  · rw [second]
    exact ⟨rfl, by rw [hcalls]; rfl, rfl, rfl, rfl⟩
  · rw [exit.observed]
    exact congrArg (·.state.requests) exitAgain.observed
  · obtain ⟨events', performedAgain⟩ := perform_run_again faultless profile argv
    refine ⟨(kernel.perform (.run profile argv)).1, events',
      (kernel.perform (.run profile argv)).2, fun n => ?_⟩
    rw [List.replicate_succ, history, follow, history_replicate performedAgain]

/-- A process whose effective user id is the number that is no id, so that its user ids cannot
be set to it, while its group ids can. The user left it an environment and a signal that it
ignores. -/
def withoutUserId : Kernel where
  process :=
    { uid := ⟨1000, noId, 0⟩
      gid := ⟨1000, 48, 0⟩
      env := [⟨"PYTHONPATH", "/home/user"⟩]
      ignored := .ofList [13]
      handled := ∅
      blocked := ∅ }
  execErrno := ⟨2⟩
  faults := []
  trace := []

/-- The first launch gives up the group and stops at the user. The second one stops there
again, at the same ids, although it no longer finds a group that is split. -/
theorem launch_repeats_withoutUserId :
    withoutUserId.faults = [] ∧
      let first := run host .system [[], utf8 Profile.ingestScript] withoutUserId
      let second := run host .system [[], utf8 Profile.ingestScript] first.state
      first.failure = .idsDiffer "uids are 1000/4294967295/0, wanted 4294967295" ∧
        first.state.process.gid = .all 48 ∧ second.failure = first.failure ∧
        second.state.process = first.state.process ∧
        second.state.trace = first.state.trace ++
          [.clearenv, .setresgid (.all 48), .setresuid (.all noId)] := by
  obtain ⟨repeated, -, -⟩ := launch_repeats .system [[], utf8 Profile.ingestScript]
    withoutUserId rfl
  refine ⟨rfl, by decide +kernel, by decide +kernel, repeated.failure, repeated.process, ?_⟩
  rw [repeated.trace]
  exact congrArg _ (by decide +kernel)

end Kernel

end GuardedLaunch

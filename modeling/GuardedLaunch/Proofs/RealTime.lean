import GuardedLaunch.Kernel.History
import GuardedLaunch.Proofs.Execution

/-!
# Signals that outlive a reset

A reset goes through the standard signals, and a process can catch more than those: the
real-time signals keep whatever disposition the caller chose for them, through the reset
and into the interpreter. What a caller can leave ignored is therefore exactly a set of
real-time signals.

- `Signal.Standard`, `Signal.RealTime`, `Signal.Catchable`: the signals that a process
  can catch, in their two ranges.
- `Kernel.ResetSpared`: no fault strikes a call of a signal reset.
- `StandardReset`: what an undisturbed reset does to the dispositions.
- `StandardReset.catchableDefault_iff`: when it leaves no signal ignored or handled.
- `Kernel.resetVerdict_eq_verdict`: a reset behind other calls meets the same faults.
-/

namespace GuardedLaunch

/-! ## Signals that can be caught -/

namespace Signal

/-- A standard signal that a process can catch. -/
def Standard (n : Nat) : Prop :=
  1 ≤ n ∧ n ≤ 31 ∧ n ≠ kill ∧ n ≠ stop

/-- A real-time signal that a process can catch. -/
def RealTime (n : Nat) : Prop :=
  34 ≤ n ∧ n ≤ 64

/-- A signal that a process can catch. -/
def Catchable (n : Nat) : Prop :=
  Standard n ∨ RealTime n

instance (n : Nat) : Decidable (Standard n) :=
  inferInstanceAs (Decidable (1 ≤ n ∧ n ≤ 31 ∧ n ≠ kill ∧ n ≠ stop))

instance (n : Nat) : Decidable (RealTime n) :=
  inferInstanceAs (Decidable (34 ≤ n ∧ n ≤ 64))

instance (n : Nat) : Decidable (Catchable n) :=
  inferInstanceAs (Decidable (Standard n ∨ RealTime n))

theorem RealTime.not_standard {n : Nat} (h : RealTime n) : ¬ Standard n := by
  rintro ⟨-, hle, -, -⟩
  have hge : 34 ≤ n := h.1
  omega

end Signal

/-! ## What a reset does to the dispositions -/

/-- Some signals have their default action in a process. -/
def ProcessState.DefaultFor (process : ProcessState) (signals : Nat → Prop) : Prop :=
  ∀ n, signals n → n ∉ process.ignored ∧ n ∉ process.handled

/-- Everything is unblocked, the standard signals that can be caught have left both sets,
and every other signal is where it was. -/
structure StandardReset (before after : ProcessState) : Prop where
  blocked : after.blocked = ∅
  ignored : ∀ n, n ∈ after.ignored ↔ n ∈ before.ignored ∧ ¬ Signal.Standard n
  handled : ∀ n, n ∈ after.handled ↔ n ∈ before.handled ∧ ¬ Signal.Standard n

/-- Behind such a reset a catchable signal is ignored or handled exactly if it is a
real-time one and was so before. -/
theorem StandardReset.catchableDefault_iff {before after : ProcessState}
    (reset : StandardReset before after) :
    after.DefaultFor Signal.Catchable ↔ before.DefaultFor Signal.RealTime := by
  constructor
  · intro default n realTime
    obtain ⟨hignored, hhandled⟩ := default n (Or.inr realTime)
    rw [reset.ignored] at hignored
    rw [reset.handled] at hhandled
    exact ⟨fun hmem => hignored ⟨hmem, realTime.not_standard⟩,
      fun hmem => hhandled ⟨hmem, realTime.not_standard⟩⟩
  · intro default n catchable
    rw [reset.ignored, reset.handled]
    rcases catchable with standard | realTime
    · exact ⟨fun h => h.2 standard, fun h => h.2 standard⟩
    · exact ⟨fun h => (default n realTime).1 h.1, fun h => (default n realTime).2 h.1⟩

namespace Kernel

/-! ## Resets that no fault disturbs -/

/-- No fault strikes a call of a signal reset. -/
def ResetSpared (kernel : Kernel) : Prop :=
  ∀ service ∈ resetServices, kernel.resetVerdict service = none

/-- Faults that cover no call of a signal reset spare it. -/
theorem resetSpared_of_not_covers {kernel : Kernel}
    (h : ∀ service ∈ resetServices, ∀ fault ∈ kernel.faults, fault.covers service = false) :
    kernel.ResetSpared :=
  fun service _ => Fault.verdict_of_not_covers h service

theorem mem_resetServices_sigmask : Service.sigmask ∈ resetServices :=
  List.mem_cons_self

theorem mem_resetServices_signal {n : Nat} (h : n ∈ Signal.numbers Signal.resettable) :
    Service.signal n ∈ resetServices :=
  List.mem_cons_of_mem _ (List.mem_map_of_mem h)

/-- A reset that no fault strikes resets the standard signals that can be caught. -/
theorem ResetSpared.resets_iff {kernel : Kernel} (spared : kernel.ResetSpared) (n : Nat) :
    kernel.Resets n ↔ Signal.Standard n := by
  constructor
  · intro resets
    exact (mem_resettable_iff n).mp resets.resettable
  · intro standard
    have hn := (mem_resettable_iff n).mpr standard
    have hmask := spared .sigmask mem_resetServices_sigmask
    rw [resetVerdict_sigmask] at hmask
    refine ⟨fun cause struck => ?_, hn, fun m hm _ cause struck => ?_,
      spared _ (mem_resetServices_signal hn)⟩
    · rw [hmask] at struck
      cases struck
    · rw [spared _ (mem_resetServices_signal hm)] at struck
      cases struck

/-- A reset that no fault strikes ends well. -/
theorem ResetSpared.exit_ok {kernel : Kernel} (spared : kernel.ResetSpared)
    {result : EStateM.Result Failure Kernel Unit} (exit : ResetExit kernel result) :
    ∃ after, result = .ok () after := by
  cases exit with
  | maskRefused struck =>
    rw [← resetVerdict_sigmask, spared .sigmask mem_resetServices_sigmask] at struck
    cases struck
  | looped mask loop =>
    cases loop with
    | @refused before later signal cause order answered struck =>
      have hsignal : signal.number ∈ Signal.numbers Signal.resettable := by
        rw [order]
        exact List.mem_map_of_mem (List.mem_append_right _ List.mem_cons_self)
      rw [← resetVerdict_signal, spared _ (mem_resetServices_signal hsignal)] at struck
      cases struck
    | finished answered => exact ⟨_, rfl⟩

/-- What a reset that no fault strikes has done, if it ended well. -/
theorem ResetSpared.standardReset {kernel after : Kernel} (spared : kernel.ResetSpared)
    (h : resetSignals kernel = .ok () after) :
    StandardReset kernel.process after.process := by
  have hmem (n : Nat) := mem_reset_iff (reset_exit h) n
  refine ⟨blocked_of_resetSignals h ?_, fun n => ?_, fun n => ?_⟩
  · rw [spared .sigmask mem_resetServices_sigmask]
    exact (Option.some_ne_none _).symm
  · rw [← spared.resets_iff]
    exact (hmem n).1
  · rw [← spared.resets_iff]
    exact (hmem n).2

/-! ## Resets inside a launch -/

/-- The calls that a launch makes before its reset use up none of the faults that the
reset meets. -/
theorem resetVerdict_eq_verdict (kernel : Kernel) {service : Service}
    (h : service ∈ resetServices) : kernel.resetVerdict service = kernel.verdict service := by
  have fresh : ∀ service ∈ resetServices, service ∉ normalizationServices := by decide
  have kinds : ∀ other ∈ normalizationServices, ∀ service ∈ resetServices,
      service.kind ≠ other.kind := by decide
  rw [verdict, launchServices, Fault.verdict_append_of_not_mem (fresh service h),
    Fault.verdict_askAll_of_kind_ne kinds, resetVerdict]

/-- A reset behind a normalization is spared by the faults that spare it at the start. -/
theorem ResetSpared.settled {kernel settled : Kernel} (spared : kernel.ResetSpared)
    {before : Identity} (identity : normalizeIdentity kernel.clearenv = .ok before settled) :
    settled.ResetSpared := by
  have fresh : ∀ service ∈ resetServices, service ∉ normalizationServices := by decide
  intro service hservice
  rw [verdict_reset identity (fresh service hservice),
    ← resetVerdict_eq_verdict kernel hservice, spared service hservice]

/-- A normalization leaves the signal state alone. -/
theorem signals_of_normalizeIdentity {kernel settled : Kernel} {before : Identity}
    (identity : normalizeIdentity kernel = .ok before settled) :
    settled.process.ignored = kernel.process.ignored ∧
      settled.process.handled = kernel.process.handled := by
  obtain ⟨uid, gid, hprocess⟩ := normalization_process (normalization_exit identity)
  rw [left] at hprocess
  rw [hprocess]
  exact ⟨rfl, rfl⟩

/-- The process whose image a launch replaces has been reset like that, if no fault
strikes a call of the reset. -/
theorem ResetSpared.executed {kernel : Kernel} (spared : kernel.ResetSpared)
    {profile : Profile} {argv : List Bytes} {settled clean : Kernel}
    {outcome : Outcome Kernel}
    (executed : kernel.Executed profile argv settled clean outcome) :
    StandardReset kernel.process outcome.state.process := by
  obtain ⟨before, identity⟩ := executed.identity
  obtain ⟨hignored, hhandled⟩ := signals_of_normalizeIdentity identity
  have reset := (spared.settled identity).standardReset executed.signals
  have hstate : outcome.state.process = clean.process :=
    congrArg (fun answer => answer.2.process) executed.replaced
  rw [hstate]
  refine ⟨reset.blocked, fun n => ?_, fun n => ?_⟩
  · rw [reset.ignored, hignored]
    rfl
  · rw [reset.handled, hhandled]
    rfl

/-- A reset that no fault strikes succeeds, and so does it inside a launch that comes to
the replacement of the process image. Everything is unblocked then, but exactly the
real-time signals that the caller had ignored or handled still are: no catchable signal
is left ignored or handled if and only if no real-time signal was before. -/
theorem realTime_outlives_reset (kernel : Kernel) (spared : kernel.ResetSpared) :
    (∃ after, resetSignals kernel = .ok () after ∧
        StandardReset kernel.process after.process ∧
        (after.process.DefaultFor Signal.Catchable ↔
          kernel.process.DefaultFor Signal.RealTime)) ∧
      ∀ profile argv path args env,
        Syscall.execve path args env
            ∈ (run host profile argv kernel).state.callsSince kernel →
          StandardReset kernel.process (run host profile argv kernel).state.process ∧
          ((run host profile argv kernel).state.process.DefaultFor Signal.Catchable ↔
            kernel.process.DefaultFor Signal.RealTime) := by
  constructor
  · obtain ⟨after, hok⟩ := spared.exit_ok (reset_exit (rfl : resetSignals kernel = _))
    have reset := spared.standardReset hok
    exact ⟨after, hok, reset, reset.catchableDefault_iff⟩
  · intro profile argv path args env asked
    obtain ⟨requests, exit⟩ := run_exit host profile argv kernel
    obtain ⟨settled, clean, executed⟩ := executed_of_asked exit asked
    have reset := spared.executed executed
    exact ⟨reset, reset.catchableDefault_iff⟩

/-- A process whose caller ignores one standard signal and two real-time signals and
blocks another. The first setting of the user ids passes a fault by. -/
def realTimeIgnored : Kernel where
  process :=
    { uid := ⟨1000, 0, 0⟩
      gid := .all 48
      env := []
      ignored := .ofList [1, 34, 64]
      handled := ∅
      blocked := .ofList [35] }
  execErrno := ⟨2⟩
  faults := [⟨.setresuid, none, .refuse ⟨1⟩, 1⟩]
  trace := []

theorem realTimeIgnored_spared : realTimeIgnored.ResetSpared :=
  resetSpared_of_not_covers (by decide)

/-- Its reset succeeds, and so the interpreter is asked for, which inherits both
real-time signals as ignored ones. -/
theorem realTime_outlives_reset_realTimeIgnored :
    realTimeIgnored.ResetSpared ∧
      (∃ after, resetSignals realTimeIgnored = .ok () after ∧
        ¬ after.process.DefaultFor Signal.Catchable) ∧
      StandardReset realTimeIgnored.process
        (run host .system [[], utf8 Profile.ingestScript] realTimeIgnored).state.process := by
  obtain ⟨⟨after, hok, -, hdefault⟩, hrun⟩ :=
    realTime_outlives_reset realTimeIgnored realTimeIgnored_spared
  have hignored : ¬ realTimeIgnored.process.DefaultFor Signal.RealTime :=
    fun default => (default 34 (by decide)).1 (by decide)
  obtain ⟨hreset, -⟩ := hrun .system [[], utf8 Profile.ingestScript]
    (utf8 Profile.system.interpreter)
    [utf8 Profile.system.interpreter, utf8 Profile.ingestScript]
    Profile.system.environment.block (by decide +kernel)
  exact ⟨realTimeIgnored_spared, ⟨after, hok, fun h => hignored (hdefault.mp h)⟩, hreset⟩

/-- A process of the superuser whose caller ignores the first real-time signal. -/
def firstRealTimeIgnored : Kernel :=
  Kernel.initial.configure { ignored := some (.ofList [34]) }

/-- No fault is in its way, and yet a catchable signal that the caller had ignored is
ignored after the reset and by the interpreter. -/
theorem realTime_left_ignored :
    firstRealTimeIgnored.ResetSpared ∧ Signal.Catchable 34 ∧
      (∃ after, resetSignals firstRealTimeIgnored = .ok () after ∧
        34 ∈ after.process.ignored) ∧
      Syscall.execve (utf8 Profile.system.interpreter)
          [utf8 Profile.system.interpreter, utf8 Profile.ingestScript]
          Profile.system.environment.block
        ∈ (run host .system [[], utf8 Profile.ingestScript]
            firstRealTimeIgnored).state.callsSince firstRealTimeIgnored ∧
      34 ∈ (run host .system [[], utf8 Profile.ingestScript]
        firstRealTimeIgnored).state.process.ignored := by
  have spared : firstRealTimeIgnored.ResetSpared := resetSpared_of_not_covers (by decide)
  obtain ⟨after, hok⟩ := spared.exit_ok
    (reset_exit (rfl : resetSignals firstRealTimeIgnored = _))
  have reset := spared.standardReset hok
  refine ⟨spared, by decide, ⟨after, hok, ?_⟩, ?_, ?_⟩
  · exact (reset.ignored 34).mpr ⟨by decide, by decide⟩
  · decide +kernel
  · decide +kernel

end Kernel

end GuardedLaunch

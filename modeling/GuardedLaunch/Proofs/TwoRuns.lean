import GuardedLaunch.Kernel.Host
import GuardedLaunch.Proofs.Exit

/-!
# Two runs side by side

That something has no influence on a launch is said of two launches that differ in
nothing else. Both begin in one state of one host and look at a profile, an environment
and a command line of their own. As long as the gates in front of the host answer alike,
the host is asked the same things in the same states up to the handover, and only there
can the two be told apart.

- `Comparison`: what may differ between two launches, in what they hand over, in what
  they report and in what they leave.
- `Comparison.KeptBy`: a host takes handovers that count as alike for the same.
- `Comparison.Gates`: the gates in front of the host answer alike.
- `Comparison.KeptBy.launch`, `Comparison.KeptBy.run`: then the launches end alike.
- `Kernel.SameUpTo`: kernels that differ at most in the arguments of recorded calls.
-/

namespace GuardedLaunch

variable {σ : Type}

/-! ## Comparing launches -/

/-- A comparison of two launches that begin in one state: which handovers count as alike,
what is looked at in an event, and how the states that are left may differ. -/
structure Comparison (σ : Type) where
  handovers : Handover → Handover → Prop
  shown : Event → Event
  after : σ → σ → Prop
  /-- A launch that ends before the handover leaves the same state. -/
  after_refl : ∀ state, after state state
  /-- Of a handover an event reports no more than the comparison lets it. -/
  shown_validated : ∀ {handover other}, handovers handover other →
    shown (.validated handover.argv.length) = shown (.validated other.argv.length)

namespace Comparison

/-- Two launches end alike. -/
structure Outcomes (c : Comparison σ) (outcome other : Outcome σ) : Prop where
  failure : outcome.failure = other.failure
  events : outcome.events.map c.shown = other.events.map c.shown
  state : c.after outcome.state other.state

/-- The gate on what is handed over answers alike: with one failure or with handovers that
count as alike. -/
inductive Prepared (c : Comparison σ) :
    Except Failure Handover → Except Failure Handover → Prop
  | refused (failure : Failure) : Prepared c (.error failure) (.error failure)
  | passed {handover other : Handover} (alike : c.handovers handover other) :
      Prepared c (.ok handover) (.ok other)

/-- The gates in front of the host answer alike, and the environments have variables of
the same names. -/
structure Gates (c : Comparison σ) (profile other : Profile) (env env' : Environment)
    (argv argv' : List Bytes) : Prop where
  names : env.names = env'.names
  script : profile.authorize argv = other.authorize argv'
  prepared : c.Prepared (profile.handover env argv) (other.handover env' argv')

/-- A host takes handovers that count as alike for the same: its answer is the same, and
what it leaves is alike. -/
def KeptBy (c : Comparison σ) (host : Host σ) : Prop :=
  ∀ handover other, c.handovers handover other → ∀ state,
    (host.exec handover state).1 = (host.exec other state).1 ∧
      c.after (host.exec handover state).2 (host.exec other state).2

section

variable {c : Comparison σ} {host : Host σ} {profile other : Profile}
  {argv argv' : List Bytes}

/-- Launches whose gates answer alike end alike. -/
theorem KeptBy.launch (kept : c.KeptBy host) {env env' : Environment}
    (gates : c.Gates profile other env env' argv argv') (state : σ) :
    c.Outcomes (launch host profile env argv state) (launch host other env' argv' state) := by
  obtain ⟨names, script, prepared⟩ := gates
  unfold GuardedLaunch.launch
  rw [names, script]
  cases other.authorize argv' with
  | error failure => exact ⟨rfl, rfl, c.after_refl state⟩
  | ok _ =>
    dsimp only
    generalize profile.handover env argv = handover at prepared
    generalize other.handover env' argv' = handover' at prepared
    cases prepared with
    | refused failure => exact ⟨rfl, rfl, c.after_refl state⟩
    | passed alike =>
      have shown := c.shown_validated alike
      -- the host is asked in the same states up to the handover
      cases host.normalizeIdentity state with
      | error failure after =>
        exact ⟨rfl, by simp only [List.map_cons, shown], c.after_refl after⟩
      | ok before settled =>
        dsimp only
        cases host.resetSignals settled with
        | error failure after =>
          exact ⟨rfl, by simp only [List.map_cons, shown], c.after_refl after⟩
        | ok _ clean =>
          obtain ⟨failure, after⟩ := kept _ _ alike clean
          exact ⟨failure, by simp only [List.map_cons, shown], after⟩

/-- Whole launches end alike if the profiles get one verdict and, where it is good, the
gates answer alike. -/
theorem KeptBy.run (kept : c.KeptBy host) (verdict : profile.validate = other.validate)
    (gates : profile.validate = .ok () →
      c.Gates profile other profile.environment other.environment argv argv')
    (state : σ) :
    c.Outcomes (run host profile argv state) (run host other argv' state) := by
  unfold GuardedLaunch.run sanitize
  cases valid : profile.validate with
  | error failure =>
    have valid' : other.validate = .error failure := verdict.symm.trans valid
    rw [Environment.ofValidated_error_iff.mpr valid,
      Environment.ofValidated_error_iff.mpr valid']
    exact ⟨rfl, rfl, c.after_refl _⟩
  | ok _ =>
    have valid' : other.validate = .ok () := verdict.symm.trans valid
    rw [Environment.ofValidated_ok_iff.mpr ⟨valid, rfl⟩,
      Environment.ofValidated_ok_iff.mpr ⟨valid', rfl⟩]
    exact kept.launch (gates valid) (host.wipe state)

end

end Comparison

/-! ## Kernels with records that differ -/

namespace Kernel

/-- Kernels that agree in everything but the recorded calls, and in those up to what is
left out of a call. -/
structure SameUpTo (leftOut : Syscall → Syscall) (kernel other : Kernel) : Prop where
  process : kernel.process = other.process
  execErrno : kernel.execErrno = other.execErrno
  faults : kernel.faults = other.faults
  trace : kernel.trace.map leftOut = other.trace.map leftOut

theorem SameUpTo.refl (leftOut : Syscall → Syscall) (kernel : Kernel) :
    kernel.SameUpTo leftOut kernel :=
  ⟨rfl, rfl, rfl, rfl⟩

/-- A kernel looks at nothing of a handover but the interpreter; the rest goes into the
record. -/
theorem sameUpTo_exec {leftOut : Syscall → Syscall} {handover other : Handover}
    (interpreter : handover.interpreter = other.interpreter)
    (call : leftOut (.execve handover.interpreter handover.argv handover.env.block)
      = leftOut (.execve other.interpreter other.argv other.env.block)) (kernel : Kernel) :
    (host.exec handover kernel).1 = (host.exec other kernel).1 ∧
      (host.exec handover kernel).2.SameUpTo leftOut (host.exec other kernel).2 := by
  have answer : (host.exec handover kernel).1 = (host.exec other kernel).1 := by
    show Failure.notExecuted _ (decodeLossy handover.interpreter)
      = .notExecuted _ (decodeLossy other.interpreter)
    rw [interpreter]
    rfl
  refine ⟨answer, rfl, rfl, rfl, ?_⟩
  show (kernel.trace ++ [Syscall.execve _ _ _]).map leftOut
    = (kernel.trace ++ [Syscall.execve _ _ _]).map leftOut
  rw [List.map_append, List.map_append, List.map_singleton, List.map_singleton, call]

end Kernel

end GuardedLaunch

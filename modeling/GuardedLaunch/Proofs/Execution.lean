import GuardedLaunch.Kernel.Host
import GuardedLaunch.Profile.Shipped
import GuardedLaunch.Proofs.Exit
import GuardedLaunch.Proofs.Normalization
import GuardedLaunch.Proofs.SignalReset

/-!
# The process that is replaced

When a launch asks the kernel to replace the process image, the process has only the
effective ids, no environment and a clean signal state. Calls that lie about success
can spoil the signal state, each of them its own part, but not the ids: a reading that
lies finds the number that is no id, and only a process whose id is that number takes
it for an answer.

- `Kernel.callsSince`: the calls that have been made since an earlier moment.
- `Kernel.verdict`: what faults decide about a call of a launch, from the start.
- `Kernel.Settled`: what is true of a process whose image is replaced.
- `Kernel.ExecFree`: a stretch of a run without a replacement; these compose.
- `Kernel.Executed`, `Kernel.execFree_or_executed`: a replacement is the last call of a
  launch, behind every gate; by `Kernel.execFree_or_settled` the process is settled then.
-/

namespace GuardedLaunch

open IdSlots (noId)

namespace Kernel

/-! ## What is claimed of a replacement -/

/-- The calls that have been made since an earlier moment. -/
def callsSince (kernel earlier : Kernel) : List Syscall :=
  kernel.trace.drop earlier.trace.length

/-- The calls that a launch makes on its way to a replacement and that faults can strike,
in order. No two of them are alike. -/
def launchServices : List Service :=
  normalizationServices ++ resetServices

/-- What the faults of a kernel decide about a call of a launch that begins now. -/
def verdict (kernel : Kernel) (service : Service) : Option Fault.Effect :=
  Fault.verdict service launchServices kernel.faults

/-- What is true of a process whose image is replaced at the end of a launch that began
with some kernel. -/
structure Settled (kernel : Kernel) (process : ProcessState) : Prop where
  /-- The effective user id is the only one. If it is no id, a feigned reading would
  agree with it. -/
  uid : kernel.process.uid.effective ≠ noId ∨ kernel.verdict .getresuid ≠ some .feign →
    process.uid = .all kernel.process.uid.effective
  gid : kernel.process.gid.effective ≠ noId ∨ kernel.verdict .getresgid ≠ some .feign →
    process.gid = .all kernel.process.gid.effective
  env : process.env = []
  blocked : kernel.verdict .sigmask ≠ some .feign → process.blocked = ∅
  /-- Every standard signal that a process can catch has its default action. -/
  signals : ∀ n, 1 ≤ n → n ≤ 31 → n ≠ Signal.kill → n ≠ Signal.stop →
    kernel.verdict (.signal n) ≠ some .feign → n ∉ process.ignored ∧ n ∉ process.handled

/-! ## Stretches without a replacement -/

/-- Calls have been made since, and none of them replaces the process image. -/
def ExecFree (earlier later : Kernel) : Prop :=
  ∃ calls, later.trace = earlier.trace ++ calls ∧
    ∀ path argv env, Syscall.execve path argv env ∉ calls

theorem ExecFree.trans {first second third : Kernel} (h : ExecFree first second)
    (h' : ExecFree second third) : ExecFree first third := by
  obtain ⟨calls, htrace, hfree⟩ := h
  obtain ⟨calls', htrace', hfree'⟩ := h'
  refine ⟨calls ++ calls', by rw [htrace', htrace, List.append_assoc], ?_⟩
  intro path argv env hmem
  rcases List.mem_append.mp hmem with hmem | hmem
  · exact hfree path argv env hmem
  · exact hfree' path argv env hmem

theorem execFree_clearenv (kernel : Kernel) : ExecFree kernel kernel.clearenv := by
  refine ⟨[.clearenv], rfl, fun path argv env hmem => ?_⟩
  cases List.mem_singleton.mp hmem

theorem execFree_normalization {kernel : Kernel}
    {result : EStateM.Result Failure Kernel Identity}
    (exit : NormalizationExit kernel result) : ExecFree kernel (left result) := by
  rcases normalization_trace exit with htrace | htrace
  · refine ⟨_, htrace, fun path argv env hmem => ?_⟩
    cases List.mem_singleton.mp hmem
  · refine ⟨_, htrace, fun path argv env hmem => ?_⟩
    rcases List.mem_cons.mp hmem with heq | hmem
    · cases heq
    · cases List.mem_singleton.mp hmem

theorem execFree_reset {kernel : Kernel} {result : EStateM.Result Failure Kernel Unit}
    (exit : ResetExit kernel result) : ExecFree kernel (left result) := by
  obtain ⟨numbers, -, htrace⟩ := reset_trace exit
  refine ⟨_, htrace, fun path argv env hmem => ?_⟩
  rcases List.mem_cons.mp hmem with heq | hmem
  · cases heq
  · obtain ⟨n, -, heq⟩ := List.mem_map.mp hmem
    cases heq

theorem ExecFree.callsSince {earlier later : Kernel} (h : ExecFree earlier later)
    (path : Bytes) (argv env : List Bytes) :
    Syscall.execve path argv env ∉ later.callsSince earlier := by
  obtain ⟨calls, htrace, hfree⟩ := h
  rw [Kernel.callsSince, htrace, List.drop_left]
  exact hfree path argv env

/-- The only replacement that a recorded one can be mistaken for is itself. -/
theorem ExecFree.record_execve {earlier later : Kernel} (h : ExecFree earlier later)
    {path path' : Bytes} {argv argv' env env' : List Bytes}
    (asked : Syscall.execve path argv env
      ∈ (later.record (.execve path' argv' env')).callsSince earlier) :
    Syscall.execve path argv env = .execve path' argv' env' := by
  obtain ⟨calls, htrace, hfree⟩ := h
  have hcalls : (later.record (.execve path' argv' env')).callsSince earlier
      = calls ++ [.execve path' argv' env'] := by
    rw [Kernel.callsSince, record, htrace, List.append_assoc, List.drop_left]
  rw [hcalls, List.mem_append, List.mem_singleton] at asked
  exact asked.resolve_left (hfree path argv env)

/-! ## The process at the replacement -/

/-- The verdict on a call of the normalization, seen from its own beginning. -/
theorem verdict_normalization (kernel : Kernel) {service : Service}
    (h : service ∈ normalizationServices) :
    Fault.verdict service normalizationServices kernel.clearenv.faults
      = kernel.verdict service :=
  (Fault.verdict_append_of_mem h ..).symm

/-- The verdict on a call of the signal reset, seen from its own beginning behind a
normalization. -/
theorem verdict_reset {kernel settled : Kernel} {before : Identity}
    (identity : normalizeIdentity kernel.clearenv = .ok before settled) {service : Service}
    (h : service ∉ normalizationServices) :
    settled.resetVerdict service = kernel.verdict service := by
  rw [(normalizeIdentity_ok identity).1, resetVerdict, groupsRead_faults, verdict,
    launchServices, Fault.verdict_append_of_not_mem h]
  rfl

/-- A process that was normalized and whose signals were reset is settled. -/
theorem settled_of_ok {kernel settled clean : Kernel} {before : Identity}
    (identity : normalizeIdentity kernel.clearenv = .ok before settled)
    (signals : resetSignals settled = .ok () clean) : kernel.Settled clean.process := by
  obtain ⟨ignored, handled, blocked, hclean⟩ := reset_process (reset_exit signals)
  obtain ⟨uid, gid, hsettled⟩ := normalization_process (normalization_exit identity)
  -- the reset keeps the ids and the environment, the normalization keeps the environment
  rw [left] at hclean hsettled
  constructor
  · intro trusted
    rw [← verdict_normalization kernel (by decide)] at trusted
    have huid := uid_of_normalizeIdentity identity trusted
    rw [hclean]
    exact huid
  · intro trusted
    rw [← verdict_normalization kernel (by decide)] at trusted
    have hgid := gid_of_normalizeIdentity identity trusted
    rw [hclean]
    exact hgid
  · rw [hclean, hsettled]
    rfl
  · intro unfeigned
    rw [← verdict_reset identity (by decide)] at unfeigned
    exact blocked_of_resetSignals signals unfeigned
  · intro n hpos hstandard hkill hstop unfeigned
    rw [← verdict_reset identity (signal_not_mem_normalizationServices n)] at unfeigned
    have hn : n ∈ Signal.numbers Signal.resettable :=
      (mem_resettable_iff n).mpr ⟨hpos, hstandard, hkill, hstop⟩
    exact not_mem_of_resetSignals signals hn unfeigned

/-- A launch on a kernel came to the replacement of the process image: it passed every
gate, and the replacement is its last call. -/
structure Executed (kernel : Kernel) (profile : Profile) (argv : List Bytes)
    (settled clean : Kernel) (outcome : Outcome Kernel) : Prop where
  valid : profile.validate = .ok ()
  script : profile.authorize argv = .ok ()
  arguments : ∀ arg ∈ argv.tail, 0 ∉ arg
  identity : ∃ before, normalizeIdentity kernel.clearenv = .ok before settled
  signals : resetSignals settled = .ok () clean
  replaced : (outcome.failure, outcome.state)
    = clean.exec (profile.prepared profile.environment argv)

section

variable {profile : Profile} {argv : List Bytes} {kernel : Kernel}
  {requests : List Request} {outcome : Outcome Kernel}

/-- No process image has been replaced before the last call. -/
theorem Executed.execFree {settled clean : Kernel}
    (executed : kernel.Executed profile argv settled clean outcome) :
    ExecFree kernel clean := by
  obtain ⟨before, identity⟩ := executed.identity
  have hidentity := execFree_normalization (normalization_exit identity)
  have hsignals := execFree_reset (reset_exit executed.signals)
  exact ((execFree_clearenv kernel).trans hidentity).trans hsignals

/-- The last call of a launch that came to it is on record. -/
theorem Executed.asked {settled clean : Kernel}
    (executed : kernel.Executed profile argv settled clean outcome) :
    .execve (utf8 profile.interpreter) (utf8 profile.interpreter :: argv.tail)
      profile.environment.block ∈ outcome.state.callsSince kernel := by
  obtain ⟨calls, htrace, -⟩ := executed.execFree
  have hstate : outcome.state.trace = clean.trace ++ [.execve (utf8 profile.interpreter)
      (utf8 profile.interpreter :: argv.tail) profile.environment.block] :=
    congrArg (fun answer => answer.2.trace) executed.replaced
  rw [callsSince, hstate, htrace, List.append_assoc, List.drop_left]
  exact List.mem_append_right _ (List.mem_singleton_self _)

/-- How a launch on a kernel ends as far as replacements go: without one, or with one
that is its last call. -/
theorem execFree_or_executed (exit : RunExit host profile argv kernel requests outcome) :
    ExecFree kernel outcome.state ∨
      ∃ settled clean, kernel.Executed profile argv settled clean outcome := by
  have hclear := execFree_clearenv kernel
  cases exit with
  | unusable => exact Or.inl hclear
  | launched valid exit =>
    cases exit with
    | refused => exact Or.inl hclear
    | unprepared => exact Or.inl hclear
    | identityKept script prepared identity =>
      have hidentity := execFree_normalization (normalization_exit identity)
      exact Or.inl (hclear.trans hidentity)
    | signalsKept script prepared identity signals =>
      have hidentity := execFree_normalization (normalization_exit identity)
      have hsignals := execFree_reset (reset_exit signals)
      exact Or.inl ((hclear.trans hidentity).trans hsignals)
    | executed script prepared identity signals =>
      obtain ⟨-, harguments, rfl⟩ := Profile.handover_ok_iff.mp prepared
      exact Or.inr ⟨_, _, valid, script, harguments, ⟨_, identity⟩, signals, rfl⟩

/-- How a launch on a kernel ends as far as replacements go: without one, or with one
that is its last call, of a settled process. -/
theorem execFree_or_settled (exit : RunExit host profile argv kernel requests outcome) :
    ExecFree kernel outcome.state ∨
      ∃ moment path args env, outcome.state = moment.record (.execve path args env) ∧
        ExecFree kernel moment ∧ kernel.Settled moment.process := by
  rcases execFree_or_executed exit with hfree | ⟨settled, clean, executed⟩
  · exact Or.inl hfree
  · obtain ⟨before, identity⟩ := executed.identity
    exact Or.inr ⟨clean, _, _, _, congrArg Prod.snd executed.replaced, executed.execFree,
      settled_of_ok identity executed.signals⟩

/-- A launch that asked for a replacement came to it. -/
theorem executed_of_asked (exit : RunExit host profile argv kernel requests outcome)
    {path : Bytes} {args env : List Bytes}
    (asked : Syscall.execve path args env ∈ outcome.state.callsSince kernel) :
    ∃ settled clean, kernel.Executed profile argv settled clean outcome :=
  (execFree_or_executed exit).resolve_left fun hfree => hfree.callsSince path args env asked

end

/-- A launch on a kernel replaces the process image at most once, as its last call, and
the process is settled then: whatever the faults, the ids are the effective ones. -/
theorem settled_at_execve (profile : Profile) (argv : List Bytes) (kernel : Kernel)
    (path : Bytes) (args env : List Bytes)
    (asked : Syscall.execve path args env
      ∈ (run host profile argv kernel).state.callsSince kernel) :
    ∃ moment : Kernel,
      (run host profile argv kernel).state = moment.record (.execve path args env) ∧
        (∀ path' args' env',
          Syscall.execve path' args' env' ∉ moment.callsSince kernel) ∧
        kernel.Settled moment.process := by
  obtain ⟨requests, exit⟩ := run_exit host profile argv kernel
  rcases execFree_or_settled exit with
    hfree | ⟨moment, path', args', env', hstate, hfree, settled⟩
  · exact absurd asked (hfree.callsSince path args env)
  · rw [hstate] at asked ⊢
    rw [hfree.record_execve asked]
    exact ⟨moment, rfl, hfree.callsSince, settled⟩

/-- A process of the owner, started by a user who left it an environment, ignored and
handled signals and a mask. Resetting signal 2 is feigned, and a second setting of the
user ids would be refused. -/
def inherited : Kernel where
  process :=
    { uid := ⟨1000, 0, 0⟩
      gid := ⟨1000, 48, 1000⟩
      env := [⟨"PYTHONPATH", "/home/user"⟩]
      ignored := .ofList [1, 2, 13]
      handled := .ofList [15]
      blocked := .ofList [3, 13] }
  execErrno := ⟨2⟩
  faults := [⟨.signal, some 2, .feign, 0⟩, ⟨.setresuid, none, .refuse ⟨1⟩, 1⟩]
  trace := []

/-- The interpreter is asked for, and whatever the faults leave alone is settled. -/
theorem settled_at_execve_inherited :
    ∃ moment : Kernel,
      (run host .system [[], utf8 Profile.ingestScript] inherited).state
          = moment.record (.execve (utf8 Profile.system.interpreter)
              [utf8 Profile.system.interpreter, utf8 Profile.ingestScript]
              Profile.system.environment.block) ∧
        moment.process.uid = .all 0 ∧ moment.process.gid = .all 48 ∧
        moment.process.env = [] ∧ moment.process.blocked = ∅ ∧
        13 ∉ moment.process.ignored ∧ 15 ∉ moment.process.handled := by
  obtain ⟨moment, hstate, -, settled⟩ := settled_at_execve .system
    [[], utf8 Profile.ingestScript] inherited (utf8 Profile.system.interpreter)
    [utf8 Profile.system.interpreter, utf8 Profile.ingestScript]
    Profile.system.environment.block (by decide +kernel)
  have hpipe := settled.signals 13 (by decide) (by decide) (by decide) (by decide)
    (by decide +kernel)
  have hterm := settled.signals 15 (by decide) (by decide) (by decide) (by decide)
    (by decide +kernel)
  exact ⟨moment, hstate, settled.uid (Or.inl (by decide)), settled.gid (Or.inl (by decide)),
    settled.env, settled.blocked (by decide +kernel), hpipe.1, hterm.2⟩

end Kernel

end GuardedLaunch

import GuardedLaunch.Proofs.Narrowing
import Mathlib.Data.List.Forall2

/-!
# The inherited environment has no influence

Nothing that a process does on the way to the interpreter looks at the environment that it
inherited. Of two kernels that differ in it alone, every part of a launch makes the same
calls, gives the same answer and reports the same events, whatever the faults. The first
part that throws the environment away, also one that fails later on, makes the kernels the
same.

- `EndsAlike`, `Respects`: computations that cannot tell states apart. They compose
  (`Respects.bind`, `Respects.forM`), so that one lemma about a system call carries over to
  everything that is made of system calls.
- `Kernel.SameButEnv`: kernels that differ in the environment of the process.
- `Kernel.carryOut_sameButEnv`: the step lemma, one case for each part of a launch.
- `Kernel.history_sameButEnv`: whole histories.
- `Kernel.coincide_of_wipes`, `Kernel.env_behind_wipe`: from the first wipe on.
-/

namespace GuardedLaunch

/-! ## Computations that cannot tell states apart -/

section

variable {ε ε' σ α β : Type} {R : σ → σ → Prop}

/-- Two computations end alike: both succeed with one value or both fail with one failure,
in states that are related. -/
inductive EndsAlike (R : σ → σ → Prop) :
    EStateM.Result ε σ α → EStateM.Result ε σ α → Prop
  | ok {value : α} {after after' : σ} (alike : R after after') :
      EndsAlike R (.ok value after) (.ok value after')
  | error {failure : ε} {after after' : σ} (alike : R after after') :
      EndsAlike R (.error failure after) (.error failure after')

/-- A computation cannot tell related states apart. -/
def Respects (R : σ → σ → Prop) (x : EStateM ε σ α) : Prop :=
  ∀ state state', R state state' → EndsAlike R (x state) (x state')

theorem Respects.pure (value : α) : Respects R (pure value : EStateM ε σ α) :=
  fun _ _ alike => .ok alike

theorem Respects.throw (failure : ε) : Respects R (throw failure : EStateM ε σ α) :=
  fun _ _ alike => .error alike

theorem Respects.bind {x : EStateM ε σ α} {f : α → EStateM ε σ β} (first : Respects R x)
    (later : ∀ value, Respects R (f value)) : Respects R (x >>= f) := by
  intro state state' alike
  show EndsAlike R (EStateM.bind x f state) (EStateM.bind x f state')
  unfold EStateM.bind
  have ends := first state state' alike
  generalize x state = result at ends
  generalize x state' = result' at ends
  cases ends with
  | ok alike => exact later _ _ _ alike
  | error alike => exact .error alike

theorem Respects.adaptExcept {x : EStateM ε σ α} (f : ε → ε') (h : Respects R x) :
    Respects R (x.adaptExcept f) := by
  intro state state' alike
  unfold EStateM.adaptExcept
  have ends := h state state' alike
  generalize x state = result at ends
  generalize x state' = result' at ends
  cases ends with
  | ok alike => exact .ok alike
  | error alike => exact .error alike

/-- A loop over a list whose rounds cannot tell the states apart cannot, either. -/
theorem Respects.forM {list : List α} {f : α → EStateM ε σ Unit}
    (h : ∀ a ∈ list, Respects R (f a)) : Respects R (list.forM f) := by
  induction list with
  | nil => exact .pure ()
  | cons a rest ih =>
    show Respects R (f a >>= fun _ => rest.forM f)
    exact (h a List.mem_cons_self).bind fun _ =>
      ih fun b hb => h b (List.mem_cons_of_mem a hb)

end

/-! ## Processes and kernels that differ in their environment -/

/-- Processes that differ at most in the environment. -/
def ProcessState.SameButEnv (process other : ProcessState) : Prop :=
  ∃ env, other = { process with env }

namespace Kernel

/-- A kernel whose process inherited another environment. -/
def withEnv (kernel : Kernel) (env : List Variable) : Kernel :=
  { kernel with process.env := env }

/-- Kernels that differ at most in the environment of the process. -/
def SameButEnv (kernel other : Kernel) : Prop :=
  ∃ env, other = kernel.withEnv env

theorem SameButEnv.refl (kernel : Kernel) : kernel.SameButEnv kernel :=
  ⟨kernel.process.env, rfl⟩

theorem SameButEnv.process {kernel other : Kernel} (h : kernel.SameButEnv other) :
    kernel.process.SameButEnv other.process := by
  obtain ⟨env, rfl⟩ := h
  exact ⟨env, rfl⟩

theorem SameButEnv.trace {kernel other : Kernel} (h : kernel.SameButEnv other) :
    kernel.trace = other.trace := by
  obtain ⟨env, rfl⟩ := h
  rfl

/-! ## System calls -/

/-- A call that does not look at the environment cannot tell the kernels apart: the faults
decide alike about it. -/
theorem respects_attempt {α : Type} (service : Service) (feigned : α)
    {act : ProcessState → α × ProcessState}
    (blind : ∀ process env,
      act { process with env } = ((act process).1, { (act process).2 with env })) :
    Respects SameButEnv (attempt service feigned act) := by
  rintro kernel _ ⟨env, rfl⟩
  cases heffect : kernel.effect service with
  | none =>
    have heffect' : (kernel.withEnv env).effect service = none := heffect
    have hact : act (kernel.withEnv env).process
        = ((act kernel.process).1, { (act kernel.process).2 with env }) :=
      blind kernel.process env
    rw [attempt_of_none feigned act heffect, attempt_of_none feigned act heffect', hact]
    exact .ok ⟨env, rfl⟩
  | some effect =>
    cases effect with
    | refuse cause =>
      have heffect' : (kernel.withEnv env).effect service = some (.refuse cause) := heffect
      rw [attempt_of_refuse feigned act heffect, attempt_of_refuse feigned act heffect']
      exact .error ⟨env, rfl⟩
    | feign =>
      have heffect' : (kernel.withEnv env).effect service = some .feign := heffect
      rw [attempt_of_feign feigned act heffect, attempt_of_feign feigned act heffect']
      exact .ok ⟨env, rfl⟩

theorem respects_changing (service : Service) (call : Syscall)
    {change : ProcessState → ProcessState}
    (blind : ∀ process env, change { process with env } = { change process with env }) :
    Respects SameButEnv (changing service call change) := by
  rintro kernel _ ⟨env, rfl⟩
  rw [changing_apply, changing_apply]
  refine respects_attempt service () (fun process env => ?_) _ _ ⟨env, rfl⟩
  rw [blind]

theorem respects_reading (service : Service) (feigned : IdSlots)
    {read : ProcessState → IdSlots}
    (blind : ∀ process env, read { process with env } = read process) :
    Respects SameButEnv (reading service feigned read) := by
  refine respects_attempt service feigned fun process env => ?_
  rw [blind]

/-! ## The parts of a launch -/

theorem respects_assignIds (uid gid : Id) : Respects SameButEnv (assignIds uid gid) := by
  unfold assignIds
  refine .bind (.adaptExcept _ ?_) fun _ => .adaptExcept _ ?_
  · exact respects_changing _ _ fun _ _ => rfl
  · exact respects_changing _ _ fun _ _ => rfl

theorem respects_confirmIds (uid gid : Id) : Respects SameButEnv (confirmIds uid gid) := by
  unfold confirmIds
  refine .bind (.adaptExcept _ ?_) fun uids => .bind (.adaptExcept _ ?_) fun gids => ?_
  · exact respects_reading _ _ fun _ _ => rfl
  · exact respects_reading _ _ fun _ _ => rfl
  · have groups : Respects SameButEnv
        (if gids ≠ .all gid then throw (mismatch "gids" gids gid) else pure () :
          EStateM Failure Kernel Unit) := by
      split
      · exact .throw _
      · exact .pure ()
    show Respects SameButEnv (if uids ≠ .all uid then _ else _)
    split
    · exact (Respects.throw _).bind fun _ => groups
    · exact groups

theorem respects_normalizeIdentity : Respects SameButEnv Kernel.normalizeIdentity := by
  rintro kernel _ ⟨env, rfl⟩
  rw [normalizeIdentity_apply, normalizeIdentity_apply]
  -- both begin with the same ids
  have respects := (respects_assignIds kernel.process.uid.effective
    kernel.process.gid.effective).bind fun _ =>
      (respects_confirmIds kernel.process.uid.effective kernel.process.gid.effective).bind
        fun _ => .pure kernel.identity
  exact respects kernel (kernel.withEnv env) ⟨env, rfl⟩

theorem respects_resetSignals : Respects SameButEnv Kernel.resetSignals := by
  unfold Kernel.resetSignals
  refine .bind (.adaptExcept _ ?_) fun _ => .forM fun signal _ => .adaptExcept _ ?_
  · exact respects_changing _ _ fun _ _ => rfl
  · exact respects_changing _ _ fun _ _ => rfl

/-- A whole launch begins by throwing the environment away, so it cannot depend on it. -/
theorem run_withEnv (profile : Profile) (argv : List Bytes) (kernel : Kernel)
    (env : List Variable) :
    run host profile argv (kernel.withEnv env) = run host profile argv kernel := by
  have wiped : host.wipe (kernel.withEnv env) = host.wipe kernel := rfl
  unfold GuardedLaunch.run sanitize
  rw [wiped]

/-! ## Steps -/

/-- A step begins by throwing the environment away. -/
def Step.Wipes : Step → Prop
  | wipe | sanitize _ | run _ _ => True
  | current | normalizeIdentity | resetSignals | exec _ _ => False

/-- Such a step does the same on both kernels, and leaves the same one, whether it succeeds
or fails. -/
theorem carryOut_of_wipes {step : Step} (wipes : step.Wipes) (kernel : Kernel)
    (env : List Variable) : (kernel.withEnv env).carryOut step = kernel.carryOut step := by
  cases step with
  | wipe => rfl
  | sanitize profile => rfl
  | run profile argv => rw [carryOut, carryOut, run_withEnv]
  | current | normalizeIdentity | resetSignals | exec _ _ => exact wipes.elim

/-- What steps come to on kernels that differ in the environment: they cannot be told
apart by what they answer and report. -/
structure Completed.SameButEnv (completed other : Completed) : Prop where
  answer : completed.answer = other.answer
  events : completed.events = other.events
  kernel : completed.kernel.SameButEnv other.kernel

theorem ofResult_sameButEnv {α : Type} (report : α → Answer)
    {result result' : EStateM.Result Failure Kernel α}
    (ends : EndsAlike SameButEnv result result') :
    (Completed.ofResult report result).SameButEnv (.ofResult report result') := by
  cases ends with
  | ok alike => exact ⟨rfl, rfl, alike⟩
  | error alike => exact ⟨rfl, rfl, alike⟩

/-- No part of a launch can tell the kernels apart. -/
theorem carryOut_sameButEnv (kernel : Kernel) (env : List Variable) (step : Step) :
    (kernel.carryOut step).SameButEnv ((kernel.withEnv env).carryOut step) := by
  have same : kernel.SameButEnv (kernel.withEnv env) := ⟨env, rfl⟩
  by_cases wipes : step.Wipes
  · rw [carryOut_of_wipes wipes]
    exact ⟨rfl, rfl, .refl _⟩
  cases step with
  | current => exact ⟨rfl, rfl, same⟩
  | normalizeIdentity =>
    exact ofResult_sameButEnv _ (respects_normalizeIdentity _ _ same)
  | resetSignals => exact ofResult_sameButEnv _ (respects_resetSignals _ _ same)
  | wipe | sanitize _ | run _ _ => exact absurd trivial wipes
  | exec profile argv =>
    rw [carryOut, carryOut, execUnchecked, execUnchecked]
    cases profile.interpreterArgv argv with
    | error failure => exact ⟨rfl, rfl, same⟩
    | ok args =>
      dsimp only
      cases Environment.ofProfile profile with
      | error failure => exact ⟨rfl, rfl, same⟩
      | ok built => exact ⟨rfl, rfl, env, rfl⟩

/-! ## Histories -/

/-- Reports of steps that cannot be told apart but for the environment. -/
structure Report.SameButEnv (report other : Report) : Prop where
  answer : report.answer = other.answer
  events : report.events = other.events
  trace : report.trace = other.trace
  process : report.process.SameButEnv other.process

/-- Entries of histories that cannot be told apart but for the environment. -/
inductive Entry.SameButEnv : Entry → Entry → Prop
  | configured {process other : ProcessState} (alike : process.SameButEnv other) :
      SameButEnv (.configured process) (.configured other)
  | performed {report other : Report} (alike : report.SameButEnv other) :
      SameButEnv (.performed report) (.performed other)

/-- One instruction shows the same and leaves kernels that still differ in the environment
alone. A rearrangement may give both the same environment. -/
theorem follow_sameButEnv (kernel : Kernel) (env : List Variable) (instruction : Instruction) :
    (kernel.follow instruction).1.SameButEnv ((kernel.withEnv env).follow instruction).1 ∧
      (kernel.follow instruction).2.SameButEnv ((kernel.withEnv env).follow instruction).2 := by
  cases instruction with
  | configure settings =>
    have same : (kernel.configure settings).SameButEnv
        ((kernel.withEnv env).configure settings) := ⟨settings.env.getD env, rfl⟩
    exact ⟨.configured same.process, same⟩
  | perform step =>
    obtain ⟨answer, events, same⟩ := carryOut_sameButEnv { kernel with trace := [] } env step
    exact ⟨.performed ⟨answer, events, same.trace, same.process⟩, same⟩

/-- A whole history shows the same and leaves kernels that differ in the environment
alone. -/
theorem history_sameButEnv {kernel other : Kernel} (same : kernel.SameButEnv other)
    (instructions : List Instruction) :
    List.Forall₂ Entry.SameButEnv (kernel.history instructions).1
        (other.history instructions).1 ∧
      (kernel.history instructions).2.SameButEnv (other.history instructions).2 := by
  induction instructions generalizing kernel other with
  | nil => exact ⟨.nil, same⟩
  | cons instruction rest ih =>
    obtain ⟨env, rfl⟩ := same
    obtain ⟨entry, same⟩ := follow_sameButEnv kernel env instruction
    obtain ⟨entries, last⟩ := ih same
    exact ⟨.cons entry entries, last⟩

theorem history_length (kernel : Kernel) (instructions : List Instruction) :
    (kernel.history instructions).1.length = instructions.length := by
  induction instructions generalizing kernel with
  | nil => rfl
  | cons instruction rest ih =>
    show (kernel.follow instruction).2.history rest |>.1.length + 1 = rest.length + 1
    rw [ih]

/-- The entries of a history from some instruction on are those of a history that begins
with the kernel that is left there. -/
theorem history_append (kernel : Kernel) (front rest : List Instruction) :
    (kernel.history (front ++ rest)).1
        = (kernel.history front).1 ++ ((kernel.history front).2.history rest).1 ∧
      (kernel.history (front ++ rest)).2 = ((kernel.history front).2.history rest).2 := by
  induction front generalizing kernel with
  | nil => exact ⟨rfl, rfl⟩
  | cons instruction front ih =>
    obtain ⟨entries, last⟩ := ih (kernel.follow instruction).2
    exact ⟨congrArg (_ :: ·) entries, last⟩

/-! ## From the first wipe on -/

theorem perform_of_wipes {step : Step} (wipes : step.Wipes) (kernel : Kernel)
    (env : List Variable) : (kernel.withEnv env).perform step = kernel.perform step := by
  have fresh : { kernel.withEnv env with trace := [] } = { kernel with trace := [] }.withEnv env :=
    rfl
  rw [perform, perform, fresh, carryOut_of_wipes wipes]

/-- A process that has no environment gets none by narrowing. -/
theorem env_of_narrows {before after : ProcessState} (h : before.Narrows after)
    (empty : before.env = []) : after.env = [] := by
  rcases h.env with kept | emptied
  · rw [kept, empty]
  · exact emptied

/-- A step that throws the environment away leaves none. -/
theorem env_of_wipes {step : Step} (wipes : step.Wipes) (kernel : Kernel) :
    (kernel.perform step).2.process.env = [] := by
  -- it does not matter which environment it begins with, so it may be the empty one
  rw [← perform_of_wipes wipes kernel []]
  exact env_of_narrows (leadsTo_carryOut { kernel.withEnv [] with trace := [] } step).narrows rfl

/-- An instruction that leaves the process to itself brings no environment back. -/
theorem env_of_follow {kernel : Kernel} {instruction : Instruction}
    (leaves : instruction.LeavesProcess) (empty : kernel.process.env = []) :
    (kernel.follow instruction).1.process.env = [] ∧
      (kernel.follow instruction).2.process.env = [] := by
  cases instruction with
  | configure settings =>
    have kept : (kernel.configure settings).process.env = [] := by
      rw [configure_process leaves, empty]
    exact ⟨kept, kept⟩
  | perform step =>
    have kept : (kernel.perform step).2.process.env = [] :=
      env_of_narrows (leadsTo_carryOut { kernel with trace := [] } step).narrows empty
    exact ⟨kept, kept⟩

theorem env_of_history {kernel : Kernel} {instructions : List Instruction}
    (leaves : ∀ instruction ∈ instructions, instruction.LeavesProcess)
    (empty : kernel.process.env = []) :
    (∀ entry ∈ (kernel.history instructions).1, entry.process.env = []) ∧
      (kernel.history instructions).2.process.env = [] := by
  induction instructions generalizing kernel with
  | nil => exact ⟨fun entry hentry => absurd hentry List.not_mem_nil, empty⟩
  | cons instruction rest ih =>
    obtain ⟨first, left⟩ := env_of_follow (leaves _ List.mem_cons_self) empty
    obtain ⟨later, last⟩ := ih (fun next hnext => leaves next (List.mem_cons_of_mem _ hnext)) left
    refine ⟨fun entry hentry => ?_, last⟩
    rcases List.mem_cons.mp hentry with rfl | hentry
    · exact first
    · exact later entry hentry

/-- Histories coincide from some entry on, and so do the kernels that they end with. -/
structure Coincide (history other : List Entry × Kernel) (place : Nat) : Prop where
  entries : history.1.drop place = other.1.drop place
  kernel : history.2 = other.2

/-- Behind a step that throws the environment away there is no difference left. -/
theorem coincide_of_wipes {kernel other : Kernel} (same : kernel.SameButEnv other)
    (front : List Instruction) {step : Step} (wipes : step.Wipes) (later : List Instruction) :
    Coincide (kernel.history (front ++ .perform step :: later))
      (other.history (front ++ .perform step :: later)) front.length := by
  obtain ⟨-, env, reached⟩ := history_sameButEnv same front
  obtain ⟨entries, last⟩ := history_append kernel front (.perform step :: later)
  obtain ⟨entries', last'⟩ := history_append other front (.perform step :: later)
  have rest : (other.history front).2.history (.perform step :: later)
      = (kernel.history front).2.history (.perform step :: later) := by
    rw [reached, history, history, follow, follow, perform_of_wipes wipes]
  constructor
  case entries =>
    rw [entries, entries', ← history_length kernel front, List.drop_left, history_length,
      ← history_length other front, List.drop_left, rest]
  case kernel => rw [last, last', rest]

/-- Nor is there an environment, as long as the process is left to itself. -/
theorem env_behind_wipe (kernel : Kernel) (front : List Instruction) {step : Step}
    (wipes : step.Wipes) {later : List Instruction}
    (leaves : ∀ instruction ∈ later, instruction.LeavesProcess) :
    let history := kernel.history (front ++ .perform step :: later)
    (∀ entry ∈ history.1.drop front.length, entry.process.env = []) ∧
      history.2.process.env = [] := by
  obtain ⟨entries, last⟩ := history_append kernel front (.perform step :: later)
  have emptied := env_of_wipes wipes (kernel.history front).2
  obtain ⟨later, left⟩ := env_of_history leaves emptied
  show (∀ entry ∈ (kernel.history _).1.drop front.length, _) ∧ (kernel.history _).2.process.env = []
  rw [entries, last, ← history_length kernel front, List.drop_left]
  refine ⟨fun entry hentry => ?_, left⟩
  rcases List.mem_cons.mp hentry with rfl | hentry
  · exact emptied
  · exact later entry hentry

/-- The inherited environment has no influence. Histories on kernels that differ in it alone
give the same answers, events and calls, and leave kernels that differ in it alone; from the
first step on that throws it away they are the same, and there is no environment in them
unless a rearrangement brings one in. -/
theorem inherited_env_unseen {kernel other : Kernel} (same : kernel.SameButEnv other) :
    (∀ instructions,
        List.Forall₂ Entry.SameButEnv (kernel.history instructions).1
            (other.history instructions).1 ∧
          (kernel.history instructions).2.SameButEnv (other.history instructions).2) ∧
      ∀ front step later, Step.Wipes step →
        let history := kernel.history (front ++ .perform step :: later)
        Coincide history (other.history (front ++ .perform step :: later)) front.length ∧
          ((∀ instruction ∈ later, Instruction.LeavesProcess instruction) →
            (∀ entry ∈ history.1.drop front.length, entry.process.env = []) ∧
              history.2.process.env = []) := by
  refine ⟨fun instructions => history_sameButEnv same instructions, ?_⟩
  intro front step later wipes
  exact ⟨coincide_of_wipes same front wipes later, env_behind_wipe kernel front wipes⟩

/-- A profile that gets no further than its validation: its interpreter is looked up in the
inherited `PATH`. -/
def unvalidated : Profile where
  interpreter := "python"
  scripts := []
  env := []

/-- A launch once a fault is gone. -/
def secondAttempt : List Instruction :=
  [.configure { faults := some [] }, .perform (.run .system [[], utf8 Profile.ingestScript])]

/-- The inherited process, with a library that the caller wants loaded. -/
def injected : Kernel :=
  inherited.withEnv [⟨"LD_PRELOAD", "/tmp/evil.so"⟩]

/-- The library is gone after a build that fails, and the launch behind it is the same as
without. -/
theorem inherited_env_unseen_injected :
    (∀ instructions, List.Forall₂ Entry.SameButEnv (inherited.history instructions).1
        (injected.history instructions).1) ∧
      Coincide
        (inherited.history ([.perform .normalizeIdentity] ++
          .perform (.sanitize unvalidated) :: secondAttempt))
        (injected.history ([.perform .normalizeIdentity] ++
          .perform (.sanitize unvalidated) :: secondAttempt)) 1 ∧
      (inherited.history ([.perform .normalizeIdentity] ++
        .perform (.sanitize unvalidated) :: secondAttempt)).2.process.env = [] := by
  have same : inherited.SameButEnv injected := ⟨_, rfl⟩
  have leaves : ∀ instruction ∈ secondAttempt, instruction.LeavesProcess := by
    simp [secondAttempt, Instruction.LeavesProcess]
  obtain ⟨alike, behind⟩ := inherited_env_unseen same
  obtain ⟨coincide, gone⟩ :=
    behind [.perform .normalizeIdentity] (.sanitize unvalidated) secondAttempt trivial
  exact ⟨fun instructions => (alike instructions).1, coincide, (gone leaves).2⟩

end Kernel

end GuardedLaunch

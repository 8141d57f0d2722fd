import GuardedLaunch.Kernel.History
import GuardedLaunch.Proofs.Execution

/-!
# Privilege is only given up

Whatever parts of a launch a process performs, in whatever order and however they end, it
never has more than before: an id slot either keeps its id or takes the effective one,
which never changes, a set of signals never gains a member, and the environment is kept
or emptied. This is so after every single call, those in the middle of a step that fails
included.

- `ProcessState.Narrows`: what one state of a process may become.
- `Syscall.apply`, `Syscall.Yields`: what a call does if it is not struck, and the calls
  that ask for nothing new. Such a call narrows (`Syscall.Yields.narrows`).
- `Course`: the states after each of some calls, every one of which may be struck.
- `Kernel.LeadsTo`: what happens between two kernels is a course of yielding calls. One
  lemma for each operation, up to `leadsTo_carryOut` for the steps.
- `Kernel.Chronicle`: the states after each call of a whole history.
-/

namespace GuardedLaunch

/-! ## Narrowing -/

/-- What the slots of one kind of id may become: the effective id stays, and another slot
stays or takes it. A slot that holds the effective id therefore keeps it. -/
structure IdSlots.Narrows (before after : IdSlots) : Prop where
  effective : after.effective = before.effective
  real : after.real = before.real ∨ after.real = before.effective
  saved : after.saved = before.saved ∨ after.saved = before.effective

namespace IdSlots

theorem Narrows.refl (slots : IdSlots) : slots.Narrows slots :=
  ⟨rfl, Or.inl rfl, Or.inl rfl⟩

theorem Narrows.trans {first second third : IdSlots} (h : first.Narrows second)
    (h' : second.Narrows third) : first.Narrows third where
  effective := h'.effective.trans h.effective
  real := by
    rcases h'.real with hreal | hreal
    · rw [hreal]
      exact h.real
    · exact Or.inr (hreal.trans h.effective)
  saved := by
    rcases h'.saved with hsaved | hsaved
    · rw [hsaved]
      exact h.saved
    · exact Or.inr (hsaved.trans h.effective)

theorem assignSlot_eq_or (old new : Id) : assignSlot old new = old ∨ assignSlot old new = new := by
  rw [assignSlot]
  split
  · exact Or.inl rfl
  · exact Or.inr rfl

/-- Assigning the effective id to every slot narrows them, also where the id is no id and
nothing is assigned. -/
theorem narrows_assign (slots : IdSlots) : slots.Narrows (slots.assign (.all slots.effective)) where
  effective := by
    rcases assignSlot_eq_or slots.effective slots.effective with h | h
    · exact h
    · exact h
  real := assignSlot_eq_or slots.real slots.effective
  saved := assignSlot_eq_or slots.saved slots.effective

end IdSlots

/-- What a process may become: its ids narrow, no set of signals gains a member, and the
environment is the same or empty. -/
structure ProcessState.Narrows (before after : ProcessState) : Prop where
  uid : before.uid.Narrows after.uid
  gid : before.gid.Narrows after.gid
  env : after.env = before.env ∨ after.env = []
  ignored : ∀ n ∈ after.ignored, n ∈ before.ignored
  handled : ∀ n ∈ after.handled, n ∈ before.handled
  blocked : ∀ n ∈ after.blocked, n ∈ before.blocked

namespace ProcessState

theorem Narrows.refl (process : ProcessState) : process.Narrows process where
  uid := .refl _
  gid := .refl _
  env := Or.inl rfl
  ignored _ h := h
  handled _ h := h
  blocked _ h := h

theorem Narrows.trans {first second third : ProcessState} (h : first.Narrows second)
    (h' : second.Narrows third) : first.Narrows third where
  uid := h.uid.trans h'.uid
  gid := h.gid.trans h'.gid
  env := by
    rcases h'.env with henv | henv
    · rw [henv]
      exact h.env
    · exact Or.inr henv
  ignored n hn := h.ignored n (h'.ignored n hn)
  handled n hn := h.handled n (h'.handled n hn)
  blocked n hn := h.blocked n (h'.blocked n hn)

end ProcessState

/-! ## Calls that ask for nothing new -/

namespace Syscall

/-- What a call does to a process, if no fault strikes it. -/
def apply : Syscall → ProcessState → ProcessState
  | clearenv, process => { process with env := [] }
  | setresgid ids, process => { process with gid := process.gid.assign ids }
  | setresuid ids, process => { process with uid := process.uid.assign ids }
  | sigmask blocked, process => { process with blocked }
  | signal n, process => process.withDefault n
  | execve _ _ _, process => process

/-- A call asks for no id but the effective ones of a process and blocks nothing. -/
def Yields (process : ProcessState) : Syscall → Prop
  | setresgid ids => ids = .all process.gid.effective
  | setresuid ids => ids = .all process.uid.effective
  | sigmask blocked => blocked = ∅
  | clearenv | signal _ | execve _ _ _ => True

/-- Such a call narrows the process. -/
theorem Yields.narrows {process : ProcessState} {call : Syscall} (yields : call.Yields process) :
    process.Narrows (call.apply process) := by
  have kept := ProcessState.Narrows.refl process
  cases call with
  | clearenv => exact { kept with env := Or.inr rfl }
  | setresgid ids =>
    cases yields
    exact { kept with gid := IdSlots.narrows_assign _ }
  | setresuid ids =>
    cases yields
    exact { kept with uid := IdSlots.narrows_assign _ }
  | sigmask blocked =>
    cases yields
    exact { kept with blocked := fun n hn => absurd hn (SignalSet.not_mem_empty n) }
  | signal n =>
    exact { kept with
      ignored := fun m hm => (SignalSet.mem_erase.mp hm).1
      handled := fun m hm => (SignalSet.mem_erase.mp hm).1 }
  | execve path argv env => exact kept

/-- Since the effective ids never change, it does not matter at what time a call is
looked at. -/
theorem yields_iff_of_narrows {before after : ProcessState} (h : before.Narrows after)
    (call : Syscall) : call.Yields after ↔ call.Yields before := by
  cases call with
  | setresgid ids => rw [Yields, Yields, h.gid.effective]
  | setresuid ids => rw [Yields, Yields, h.uid.effective]
  | clearenv | sigmask _ | signal _ | execve _ _ _ => exact Iff.rfl

end Syscall

/-! ## Courses of calls -/

/-- The states of a process after each of some calls, in order, and the state in which it
is left. A call that is struck leaves the process as it was. -/
inductive Course : ProcessState → List Syscall → List ProcessState → ProcessState → Prop
  | nil (process : ProcessState) : Course process [] [] process
  | performed {before after : ProcessState} {call : Syscall} {calls : List Syscall}
      {states : List ProcessState} (rest : Course (call.apply before) calls states after) :
      Course before (call :: calls) (call.apply before :: states) after
  | struck {before after : ProcessState} {call : Syscall} {calls : List Syscall}
      {states : List ProcessState} (rest : Course before calls states after) :
      Course before (call :: calls) (before :: states) after

section

variable {before middle after : ProcessState} {calls calls' : List Syscall}
  {states states' : List ProcessState}

/-- One course after another. -/
theorem Course.append (course : Course before calls states middle)
    (later : Course middle calls' states' after) :
    Course before (calls ++ calls') (states ++ states') after := by
  induction course with
  | nil => exact later
  | performed rest ih => exact .performed (ih later)
  | struck rest ih => exact .struck (ih later)

/-- A state ahead of a list in which each state narrows to all later ones. -/
theorem pairwise_narrows_cons (h : before.Narrows middle)
    (later : (middle :: states).Pairwise ProcessState.Narrows) :
    (before :: middle :: states).Pairwise ProcessState.Narrows := by
  refine List.pairwise_cons.mpr ⟨fun state hstate => ?_, later⟩
  rcases List.mem_cons.mp hstate with rfl | hstate
  · exact h
  · exact h.trans ((List.pairwise_cons.mp later).1 state hstate)

/-- Two such lists that meet in a state. -/
theorem pairwise_narrows_append (front : (states ++ [middle]).Pairwise ProcessState.Narrows)
    (later : (middle :: states').Pairwise ProcessState.Narrows) :
    (states ++ middle :: states').Pairwise ProcessState.Narrows := by
  obtain ⟨hfront, -, hmiddle⟩ := List.pairwise_append.mp front
  refine List.pairwise_append.mpr ⟨hfront, later, fun state hstate next hnext => ?_⟩
  have hstate := hmiddle state hstate middle (List.mem_singleton_self _)
  rcases List.mem_cons.mp hnext with rfl | hnext
  · exact hstate
  · exact hstate.trans ((List.pairwise_cons.mp later).1 next hnext)

/-- In a course of yielding calls every state narrows to all that come after it, the one in
which it leaves the process included. -/
theorem Course.pairwise (course : Course before calls states after)
    (yields : ∀ call ∈ calls, call.Yields before) :
    (before :: (states ++ [after])).Pairwise ProcessState.Narrows := by
  induction course with
  | nil process => exact pairwise_narrows_cons (.refl process) (List.pairwise_singleton _ _)
  | @performed before after call calls states rest ih =>
    have hfirst := (yields call List.mem_cons_self).narrows
    refine pairwise_narrows_cons hfirst (ih fun next hnext => ?_)
    exact (Syscall.yields_iff_of_narrows hfirst next).mpr
      (yields next (List.mem_cons_of_mem _ hnext))
  | @struck before after call calls states rest ih =>
    exact pairwise_narrows_cons (.refl before)
      (ih fun next hnext => yields next (List.mem_cons_of_mem _ hnext))

end

namespace Kernel

/-! ## What leads from one kernel to another -/

/-- Between two kernels some calls were made, all of them yielding, and the process went
through a course of them. -/
def LeadsTo (earlier later : Kernel) : Prop :=
  ∃ calls states, later.trace = earlier.trace ++ calls ∧
    (∀ call ∈ calls, call.Yields earlier.process) ∧
    Course earlier.process calls states later.process

theorem LeadsTo.narrows {earlier later : Kernel} (h : earlier.LeadsTo later) :
    earlier.process.Narrows later.process := by
  obtain ⟨calls, states, -, yields, course⟩ := h
  exact (List.pairwise_cons.mp (course.pairwise yields)).1 _
    (List.mem_append_right _ (List.mem_singleton_self _))

theorem LeadsTo.refl (kernel : Kernel) : kernel.LeadsTo kernel :=
  ⟨[], [], (List.append_nil _).symm, fun _ h => absurd h List.not_mem_nil, .nil _⟩

theorem LeadsTo.trans {first second third : Kernel} (h : first.LeadsTo second)
    (h' : second.LeadsTo third) : first.LeadsTo third := by
  have hnarrows := h.narrows
  obtain ⟨calls, states, htrace, yields, course⟩ := h
  obtain ⟨calls', states', htrace', yields', course'⟩ := h'
  refine ⟨calls ++ calls', states ++ states', ?_, ?_, course.append course'⟩
  · rw [htrace', htrace, List.append_assoc]
  · intro call hcall
    rcases List.mem_append.mp hcall with hcall | hcall
    · exact yields call hcall
    · exact (Syscall.yields_iff_of_narrows hnarrows call).mp (yields' call hcall)

/-! ## The operations -/

/-- A yielding call leads on, struck or not. -/
theorem leadsTo_called {kernel : Kernel} (service : Service) (call : Syscall)
    (yields : call.Yields kernel.process) :
    kernel.LeadsTo (kernel.called service call call.apply) := by
  have honly : ∀ next ∈ [call], next.Yields kernel.process := by
    intro next hnext
    rw [List.mem_singleton.mp hnext]
    exact yields
  by_cases h : kernel.effect service = none
  · have hprocess : (kernel.called service call call.apply).process
        = call.apply kernel.process := if_pos h
    refine ⟨[call], [call.apply kernel.process], rfl, honly, ?_⟩
    rw [hprocess]
    exact .performed (.nil _)
  · have hprocess : (kernel.called service call call.apply).process = kernel.process :=
      if_neg h
    refine ⟨[call], [kernel.process], rfl, honly, ?_⟩
    rw [hprocess]
    exact .struck (.nil _)

theorem leadsTo_clearenv (kernel : Kernel) : kernel.LeadsTo kernel.clearenv := by
  refine ⟨[.clearenv], _, rfl, fun call hcall => ?_, .performed (.nil _)⟩
  cases List.mem_singleton.mp hcall
  exact trivial

theorem leadsTo_exec (kernel : Kernel) (handover : Handover) :
    kernel.LeadsTo (kernel.exec handover).2 := by
  refine ⟨[_], _, rfl, fun call hcall => ?_, .performed (.nil _)⟩
  cases List.mem_singleton.mp hcall
  exact trivial

theorem leadsTo_groupsSet (kernel : Kernel) : kernel.LeadsTo kernel.groupsSet :=
  leadsTo_called .setresgid (.setresgid _) rfl

/-- The user ids are set to the effective one although the group ids were set before. -/
theorem leadsTo_usersSet (kernel : Kernel) : kernel.groupsSet.LeadsTo kernel.usersSet := by
  obtain ⟨gid, hprocess⟩ := groupsSet_process kernel
  have yields : (Syscall.setresuid (.all kernel.process.uid.effective)).Yields
      kernel.groupsSet.process := by
    rw [hprocess]
    rfl
  exact leadsTo_called .setresuid _ yields

/-- A normalization leads on, however it ends. A reading changes only the faults. -/
theorem leadsTo_normalization {kernel : Kernel}
    {result : EStateM.Result Failure Kernel Identity}
    (exit : NormalizationExit kernel result) : kernel.LeadsTo (left result) := by
  have hgroups := leadsTo_groupsSet kernel
  have husers : kernel.LeadsTo kernel.usersSet := hgroups.trans (leadsTo_usersSet kernel)
  cases exit with
  | setGroupsRefused => exact hgroups
  | setUsersRefused => exact husers
  | readUsersRefused => exact husers
  | readGroupsRefused => exact husers
  | usersDiffer => exact husers
  | groupsDiffer => exact husers
  | settled => exact husers

theorem leadsTo_defaulted (kernel : Kernel) (numbers : List Nat) :
    kernel.LeadsTo (kernel.defaulted numbers) := by
  induction numbers generalizing kernel with
  | nil =>
    rw [defaulted_nil]
    exact .refl kernel
  | cons n rest ih =>
    rw [defaulted_cons]
    have hfirst : kernel.LeadsTo (kernel.signalDefaulted n) :=
      leadsTo_called (.signal n) (.signal n) trivial
    exact hfirst.trans (ih _)

/-- A signal reset leads on, however it ends. -/
theorem leadsTo_reset {kernel : Kernel} {result : EStateM.Result Failure Kernel Unit}
    (exit : ResetExit kernel result) : kernel.LeadsTo (left result) := by
  have hmask : kernel.LeadsTo kernel.unblocked :=
    leadsTo_called .sigmask (.sigmask ∅) rfl
  cases exit with
  | maskRefused => exact hmask
  | looped mask loop =>
    cases loop with
    | refused => exact hmask.trans (leadsTo_defaulted _ _)
    | finished => exact hmask.trans (leadsTo_defaulted _ _)

/-- A whole launch leads on, however it ends. -/
theorem leadsTo_run {profile : Profile} {argv : List Bytes} {kernel : Kernel}
    {requests : List Request} {outcome : Outcome Kernel}
    (exit : RunExit host profile argv kernel requests outcome) :
    kernel.LeadsTo outcome.state := by
  have hclear := leadsTo_clearenv kernel
  cases exit with
  | unusable => exact hclear
  | launched valid exit =>
    cases exit with
    | refused => exact hclear
    | unprepared => exact hclear
    | identityKept script prepared identity =>
      exact hclear.trans (leadsTo_normalization (normalization_exit identity))
    | signalsKept script prepared identity signals =>
      have hidentity := leadsTo_normalization (normalization_exit identity)
      exact (hclear.trans hidentity).trans (leadsTo_reset (reset_exit signals))
    | executed script prepared identity signals =>
      have hidentity := leadsTo_normalization (normalization_exit identity)
      have hsignals := leadsTo_reset (reset_exit signals)
      exact ((hclear.trans hidentity).trans hsignals).trans (leadsTo_exec _ _)

theorem ofResult_kernel {α : Type} (report : α → Answer)
    (result : EStateM.Result Failure Kernel α) :
    (Completed.ofResult report result).kernel = left result := by
  cases result with
  | ok => rfl
  | error => rfl

/-- Every step leads on, whether it succeeds or fails. -/
theorem leadsTo_carryOut (kernel : Kernel) (step : Step) :
    kernel.LeadsTo (kernel.carryOut step).kernel := by
  cases step with
  | current => exact .refl kernel
  | normalizeIdentity =>
    rw [carryOut, ofResult_kernel]
    exact leadsTo_normalization (normalization_exit rfl)
  | resetSignals =>
    rw [carryOut, ofResult_kernel]
    exact leadsTo_reset (reset_exit rfl)
  | wipe => exact leadsTo_clearenv kernel
  | sanitize profile => exact leadsTo_clearenv kernel
  | exec profile argv =>
    rw [carryOut, execUnchecked]
    cases profile.interpreterArgv argv with
    | error failure => exact .refl kernel
    | ok args =>
      cases Environment.ofProfile profile with
      | error failure => exact .refl kernel
      | ok env => exact leadsTo_exec kernel _
  | run profile argv =>
    obtain ⟨requests, exit⟩ := run_exit host profile argv kernel
    exact leadsTo_run exit

/-! ## Histories -/

/-- An instruction leaves the process to itself: it performs a step, or it rearranges no
more than the faults to come and the reason for which no image is replaced. -/
def Instruction.LeavesProcess : Instruction → Prop
  | .configure settings =>
    settings = { execErrno := settings.execErrno, faults := settings.faults }
  | .perform _ => True

theorem configure_process {kernel : Kernel} {settings : Settings}
    (leaves : (Instruction.configure settings).LeavesProcess) :
    (kernel.configure settings).process = kernel.process := by
  rw [leaves]
  rfl

/-- The process that an entry of a history shows. -/
def Entry.process : Entry → ProcessState
  | .configured process => process
  | .performed report => report.process

/-- The states of the process throughout a history, in order: after each call that a step
makes, and after each instruction. -/
inductive Chronicle : Kernel → List Instruction → List ProcessState → Prop
  | nil (kernel : Kernel) : Chronicle kernel [] []
  | configure {kernel : Kernel} {settings : Settings} {rest : List Instruction}
      {states : List ProcessState}
      (later : Chronicle (kernel.configure settings) rest states) :
      Chronicle kernel (.configure settings :: rest)
        ((kernel.configure settings).process :: states)
  | perform {kernel : Kernel} {step : Step} {rest : List Instruction}
      {during states : List ProcessState}
      (course : Course kernel.process (kernel.perform step).1.trace during
        (kernel.perform step).1.process)
      (later : Chronicle (kernel.perform step).2 rest states) :
      Chronicle kernel (.perform step :: rest)
        (during ++ (kernel.perform step).1.process :: states)

/-- A step goes through a course of the calls in its report, all of them yielding. -/
theorem exists_course (kernel : Kernel) (step : Step) :
    (∀ call ∈ (kernel.perform step).1.trace, call.Yields kernel.process) ∧
      ∃ states, Course kernel.process (kernel.perform step).1.trace states
        (kernel.perform step).1.process := by
  obtain ⟨calls, states, htrace, yields, course⟩ :=
    leadsTo_carryOut { kernel with trace := [] } step
  rw [List.nil_append] at htrace
  rw [perform, htrace]
  exact ⟨yields, states, course⟩

/-- Every history has a chronicle. -/
theorem exists_chronicle (kernel : Kernel) (instructions : List Instruction) :
    ∃ states, Chronicle kernel instructions states := by
  induction instructions generalizing kernel with
  | nil => exact ⟨[], .nil kernel⟩
  | cons instruction rest ih =>
    cases instruction with
    | configure settings =>
      obtain ⟨states, later⟩ := ih (kernel.configure settings)
      exact ⟨_, .configure later⟩
    | perform step =>
      obtain ⟨-, during, course⟩ := exists_course kernel step
      obtain ⟨states, later⟩ := ih (kernel.perform step).2
      exact ⟨_, .perform course later⟩

section

variable {kernel : Kernel} {instructions : List Instruction} {states : List ProcessState}

/-- What a history shows of the process is part of its chronicle. -/
theorem Chronicle.shown (chronicle : Chronicle kernel instructions states) :
    ((kernel.history instructions).1.map Entry.process).Sublist states := by
  induction chronicle with
  | nil => exact .slnil
  | configure later ih => exact ih.cons_cons _
  | perform course later ih => exact (ih.cons_cons _).trans (List.sublist_append_right _ _)

/-- Throughout a history that leaves the process to itself, every state narrows to all
that come after it. -/
theorem Chronicle.pairwise (chronicle : Chronicle kernel instructions states)
    (leaves : ∀ instruction ∈ instructions, instruction.LeavesProcess) :
    (kernel.process :: states).Pairwise ProcessState.Narrows := by
  induction chronicle with
  | nil kernel => exact List.pairwise_singleton _ _
  | @configure kernel settings rest states later ih =>
    have hprocess : (kernel.configure settings).process = kernel.process :=
      configure_process (leaves _ List.mem_cons_self)
    have hlater := ih fun next hnext => leaves next (List.mem_cons_of_mem _ hnext)
    refine pairwise_narrows_cons ?_ hlater
    rw [hprocess]
    exact .refl _
  | @perform kernel step rest during states course later ih =>
    have hlater := ih fun next hnext => leaves next (List.mem_cons_of_mem _ hnext)
    obtain ⟨yields, -⟩ := exists_course kernel step
    have hduring : ((kernel.process :: during) ++ [(kernel.perform step).2.process]).Pairwise
        ProcessState.Narrows := course.pairwise yields
    exact pairwise_narrows_append hduring hlater

end

/-- Throughout a history of any steps, with any faults and with faults replaced at any
time, privilege is only given up: of any two states of the process the later one is what
the earlier one narrows to, also where the later one is in the middle of a step. -/
theorem only_given_up (kernel : Kernel) (instructions : List Instruction)
    (leaves : ∀ instruction ∈ instructions, instruction.LeavesProcess) :
    (∃ states, Chronicle kernel instructions states) ∧
      ∀ states, Chronicle kernel instructions states →
        ((kernel.history instructions).1.map Entry.process).Sublist states ∧
          (kernel.process :: states).Pairwise ProcessState.Narrows :=
  ⟨exists_chronicle kernel instructions, fun _ chronicle =>
    ⟨chronicle.shown, chronicle.pairwise leaves⟩⟩

/-- A normalization that is stopped between its two calls, and what follows once the fault
is gone: a normalization that succeeds, a reset that is stopped at a signal, a launch that
is refused, and one that asks for the interpreter. -/
def stoppedMidway : List Instruction :=
  [.configure { faults := some [⟨.setresuid, none, .refuse ⟨1⟩, 0⟩] },
    .perform .normalizeIdentity,
    .configure { faults := some [⟨.signal, some 13, .refuse ⟨22⟩, 0⟩] },
    .perform .normalizeIdentity,
    .perform .resetSignals,
    .perform (.run .system []),
    .configure { faults := some [] },
    .perform (.run .system [[], utf8 Profile.ingestScript])]

/-- The inherited process gives up its ids, its environment and its signals one after
another, and gets nothing back. -/
theorem only_given_up_stoppedMidway :
    (∀ instruction ∈ stoppedMidway, instruction.LeavesProcess) ∧
      (inherited.process ::
        (inherited.history stoppedMidway).1.map Entry.process).Pairwise
          ProcessState.Narrows := by
  have leaves : ∀ instruction ∈ stoppedMidway, instruction.LeavesProcess := by
    simp [stoppedMidway, Instruction.LeavesProcess]
  obtain ⟨⟨states, chronicle⟩, hall⟩ := only_given_up inherited stoppedMidway leaves
  obtain ⟨hshown, hnarrows⟩ := hall states chronicle
  exact ⟨leaves, hnarrows.sublist (hshown.cons_cons _)⟩

end Kernel

end GuardedLaunch

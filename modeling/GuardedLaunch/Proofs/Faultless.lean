import GuardedLaunch.Proofs.RealTime

/-!
# Kernels without faults

Where no fault is left every call does what it says. What a normalization and a signal
reset come to is then a function of the process, and each of them does nothing more when it
is done again.

- `ProcessState.normalized`, `ProcessState.cleaned`: the process after either of them.
  Both are idempotent.
- `ProcessState.mismatch?`: the failure of a normalization. It is about the ids as they are
  found afterwards, and so it is the same for the process that a normalization left.
- `Kernel.Faultless`: no fault is to come.
- `Kernel.Faultless.normalizeIdentity_eq`, `Kernel.Faultless.resetSignals_eq`: the two
  operations, one equation each.
-/

namespace GuardedLaunch

/-! ## The ids -/

namespace IdSlots

/-- The slots once each of them has been set to the effective id. -/
def normalized (ids : IdSlots) : IdSlots :=
  ids.assign (.all ids.effective)

theorem assignSlot_self (id : Id) : assignSlot id id = id :=
  ite_self id

theorem assignSlot_assignSlot (old new : Id) :
    assignSlot (assignSlot old new) new = assignSlot old new := by
  by_cases h : new = noId
  · simp only [assignSlot, if_pos h]
  · simp only [assignSlot, if_neg h]

@[simp] theorem normalized_effective (ids : IdSlots) :
    ids.normalized.effective = ids.effective :=
  assignSlot_self ids.effective

/-- Setting the slots again finds nothing to change, also where the effective id is no id
and nothing was changed in the first place. -/
@[simp] theorem normalized_normalized (ids : IdSlots) :
    ids.normalized.normalized = ids.normalized := by
  show ids.normalized.assign (.all ids.normalized.effective) = ids.normalized
  rw [normalized_effective, normalized]
  simp only [assign, all, assignSlot_assignSlot]

end IdSlots

/-! ## The process -/

namespace ProcessState

/-- A process whose slots have been set to the effective ids. -/
def normalized (process : ProcessState) : ProcessState :=
  { process with uid := process.uid.normalized, gid := process.gid.normalized }

/-- The calls that set the slots of a process to its effective ids. -/
def idSettings (process : ProcessState) : List Syscall :=
  [.setresgid (.all process.gid.effective), .setresuid (.all process.uid.effective)]

/-- The failure for slots that are not the effective ids although they were set to them.
The user ids are looked at first. -/
def mismatch? (process : ProcessState) : Option Failure :=
  if process.uid.normalized ≠ .all process.uid.effective then
    some (Kernel.mismatch "uids" process.uid.normalized process.uid.effective)
  else if process.gid.normalized ≠ .all process.gid.effective then
    some (Kernel.mismatch "gids" process.gid.normalized process.gid.effective)
  else none

@[simp] theorem normalized_normalized (process : ProcessState) :
    process.normalized.normalized = process.normalized := by
  simp only [normalized, IdSlots.normalized_normalized]

/-- A normalization is asked for the same ids as the one before it. -/
@[simp] theorem idSettings_normalized (process : ProcessState) :
    process.normalized.idSettings = process.idSettings := by
  simp only [idSettings, normalized, IdSlots.normalized_effective]

/-- What the diagnostic quotes is what a normalization leaves. -/
@[simp] theorem mismatch?_normalized (process : ProcessState) :
    process.normalized.mismatch? = process.mismatch? := by
  simp only [mismatch?, normalized, IdSlots.normalized_normalized, IdSlots.normalized_effective]

end ProcessState

/-- The members of a set that are not standard signals that can be caught. -/
def SignalSet.withoutStandard (set : SignalSet) : SignalSet where
  toList := set.toList.filter (¬ Signal.Standard ·)
  ascending := set.ascending.filter _

@[simp] theorem SignalSet.mem_withoutStandard {n : Nat} {set : SignalSet} :
    n ∈ set.withoutStandard ↔ n ∈ set ∧ ¬ Signal.Standard n := by
  show n ∈ set.toList.filter (¬ Signal.Standard ·) ↔ n ∈ set.toList ∧ ¬ Signal.Standard n
  simp

@[simp] theorem SignalSet.withoutStandard_withoutStandard (set : SignalSet) :
    set.withoutStandard.withoutStandard = set.withoutStandard := by
  refine SignalSet.eq_of_mem_iff fun n => ?_
  rw [mem_withoutStandard, mem_withoutStandard, and_assoc, and_self]

namespace ProcessState

/-- A process whose signals have been reset. -/
def cleaned (process : ProcessState) : ProcessState :=
  { process with
    ignored := process.ignored.withoutStandard
    handled := process.handled.withoutStandard
    blocked := ∅ }

/-- The ids and the signals are looked after apart from each other. -/
@[simp] theorem normalized_cleaned (process : ProcessState) :
    process.cleaned.normalized = process.normalized.cleaned := rfl

@[simp] theorem mismatch?_cleaned (process : ProcessState) :
    process.cleaned.mismatch? = process.mismatch? := rfl

@[simp] theorem idSettings_cleaned (process : ProcessState) :
    process.cleaned.idSettings = process.idSettings := rfl

@[simp] theorem cleaned_cleaned (process : ProcessState) :
    process.cleaned.cleaned = process.cleaned := by
  simp only [cleaned, SignalSet.withoutStandard_withoutStandard]

end ProcessState

/-- A process that was reset like that, and in which nothing else has changed, is the one
whose signals have been reset. -/
theorem StandardReset.eq_cleaned {before after : ProcessState}
    (reset : StandardReset before after)
    (rest : ∃ ignored handled blocked, after = { before with ignored, handled, blocked }) :
    after = before.cleaned := by
  obtain ⟨ignored, handled, blocked, rfl⟩ := rest
  have hignored : ignored = before.ignored.withoutStandard := by
    refine SignalSet.eq_of_mem_iff fun n => ?_
    rw [SignalSet.mem_withoutStandard]
    exact reset.ignored n
  have hhandled : handled = before.handled.withoutStandard := by
    refine SignalSet.eq_of_mem_iff fun n => ?_
    rw [SignalSet.mem_withoutStandard]
    exact reset.handled n
  have hblocked : blocked = ∅ := reset.blocked
  rw [hignored, hhandled, hblocked, ProcessState.cleaned]

namespace Kernel

/-! ## Calls that nothing strikes -/

/-- No fault is to come. -/
def Faultless (kernel : Kernel) : Prop :=
  kernel.faults = []

section

variable {kernel : Kernel} (faultless : kernel.Faultless)

include faultless

theorem Faultless.record (call : Syscall) : (kernel.record call).Faultless :=
  faultless

theorem Faultless.effect_eq (service : Service) : kernel.effect service = none := by
  rw [effect, faultless]
  rfl

theorem Faultless.answers (service : Service) : kernel.Answers service := by
  intro cause struck
  rw [faultless.effect_eq] at struck
  cases struck

/-- A reading that nothing strikes finds what is there. -/
theorem Faultless.found_eq {α : Type} (service : Service) (feigned : α)
    (read : ProcessState → α) : kernel.found service feigned read = read kernel.process := by
  rw [found, faultless.effect_eq, if_neg (Option.some_ne_none _).symm]

theorem Faultless.asked_eq (service : Service) : kernel.asked service = kernel := by
  have none_left : (Fault.consult service kernel.faults).faults = kernel.faults := by
    rw [faultless]
    rfl
  rw [asked, none_left]

/-- A call that nothing strikes is recorded and has its effect. -/
theorem Faultless.called_eq (service : Service) (call : Syscall)
    (change : ProcessState → ProcessState) :
    kernel.called service call change
      = { kernel.record call with process := change kernel.process } := by
  rw [called, (faultless.record call).asked_eq, if_pos (faultless.effect_eq service)]

theorem Faultless.called (service : Service) (call : Syscall)
    (change : ProcessState → ProcessState) :
    (kernel.called service call change).Faultless := by
  rw [faultless.called_eq]
  exact faultless

end

/-! ## The normalization -/

/-- The kernel after both kinds of ids have been set to the effective ones. -/
def normalized (kernel : Kernel) : Kernel :=
  { kernel with
    process := kernel.process.normalized
    trace := kernel.trace ++ kernel.process.idSettings }

section

variable {kernel : Kernel} (faultless : kernel.Faultless)

include faultless

theorem Faultless.normalized : kernel.normalized.Faultless :=
  faultless

theorem Faultless.groupsSet : kernel.groupsSet.Faultless :=
  faultless.called ..

theorem Faultless.usersSet_eq : kernel.usersSet = kernel.normalized := by
  rw [usersSet, faultless.groupsSet.called_eq, Kernel.groupsSet, faultless.called_eq]
  simp only [Kernel.record, List.append_assoc]
  rfl

theorem Faultless.usersRead_eq : kernel.usersRead = kernel.normalized := by
  rw [usersRead, faultless.usersSet_eq, faultless.normalized.asked_eq]

theorem Faultless.groupsRead_eq : kernel.groupsRead = kernel.normalized := by
  rw [groupsRead, faultless.usersRead_eq, faultless.normalized.asked_eq]

theorem Faultless.foundUsers_eq : kernel.foundUsers = kernel.process.uid.normalized := by
  rw [foundUsers, faultless.usersSet_eq, faultless.normalized.found_eq]
  rfl

theorem Faultless.foundGroups_eq : kernel.foundGroups = kernel.process.gid.normalized := by
  rw [foundGroups, faultless.usersRead_eq, faultless.normalized.found_eq]
  rfl

/-- A normalization sets every slot and then compares. -/
theorem Faultless.normalizeIdentity_eq :
    normalizeIdentity kernel =
      match kernel.process.mismatch? with
      | some failure => .error failure kernel.normalized
      | none => .ok kernel.identity kernel.normalized := by
  have users := faultless.foundUsers_eq
  have groups := faultless.foundGroups_eq
  have after := faultless.groupsRead_eq
  have exit := normalization_exit (rfl : normalizeIdentity kernel = _)
  generalize normalizeIdentity kernel = result at exit ⊢
  -- no call is refused, so the comparisons decide
  cases exit with
  | setGroupsRefused struck => exact absurd struck (faultless.answers _ _)
  | setUsersRefused _ struck => exact absurd struck (faultless.groupsSet.answers _ _)
  | readUsersRefused _ _ struck =>
    rw [faultless.usersSet_eq] at struck
    exact absurd struck (faultless.normalized.answers _ _)
  | readGroupsRefused _ _ _ struck =>
    rw [faultless.usersRead_eq] at struck
    exact absurd struck (faultless.normalized.answers _ _)
  | usersDiffer _ _ _ _ differ =>
    rw [users] at differ ⊢
    rw [after, ProcessState.mismatch?, if_pos differ]
  | groupsDiffer _ _ _ _ uids differ =>
    rw [users] at uids
    rw [groups] at differ ⊢
    rw [after, ProcessState.mismatch?, if_neg (not_not_intro uids), if_pos differ]
  | settled _ _ _ _ uids gids =>
    rw [users] at uids
    rw [groups] at gids
    rw [after, ProcessState.mismatch?, if_neg (not_not_intro uids), if_neg (not_not_intro gids)]

theorem Faultless.normalizeIdentity_error_iff {failure : Failure} {after : Kernel} :
    normalizeIdentity kernel = .error failure after ↔
      kernel.process.mismatch? = some failure ∧ after = kernel.normalized := by
  rw [faultless.normalizeIdentity_eq]
  cases kernel.process.mismatch? with
  | none => simp
  | some found => simp [eq_comm]

theorem Faultless.normalizeIdentity_ok_iff {before : Identity} {after : Kernel} :
    normalizeIdentity kernel = .ok before after ↔
      kernel.process.mismatch? = none ∧ before = kernel.identity ∧
        after = kernel.normalized := by
  rw [faultless.normalizeIdentity_eq]
  cases kernel.process.mismatch? with
  | none => simp [eq_comm]
  | some found => simp

end

/-! ## The signal reset -/

/-- The calls of a signal reset. -/
def resetCalls : List Syscall :=
  .sigmask ∅ :: (Signal.numbers Signal.resettable).map .signal

/-- The kernel after every signal has been unblocked and the standard ones have been given
their default action. -/
def cleaned (kernel : Kernel) : Kernel :=
  { kernel with
    process := kernel.process.cleaned
    trace := kernel.trace ++ resetCalls }

section

variable {kernel : Kernel} (faultless : kernel.Faultless)

include faultless

theorem Faultless.unblocked_eq :
    kernel.unblocked
      = { kernel.record (.sigmask ∅) with process := { kernel.process with blocked := ∅ } } :=
  faultless.called_eq ..

theorem Faultless.unblocked : kernel.unblocked.Faultless :=
  faultless.called ..

theorem Faultless.signalDefaulted_eq (n : Nat) :
    kernel.signalDefaulted n
      = { kernel.record (.signal n) with process := kernel.process.withDefault n } :=
  faultless.called_eq ..

theorem Faultless.signalDefaulted (n : Nat) : (kernel.signalDefaulted n).Faultless :=
  faultless.called ..

/-- Giving signals their default action changes the process and the record alone. -/
theorem Faultless.defaulted_eq (numbers : List Nat) :
    ∃ process, kernel.defaulted numbers
      = { kernel with process, trace := kernel.trace ++ numbers.map .signal } := by
  induction numbers generalizing kernel with
  | nil => exact ⟨kernel.process, by rw [defaulted_nil, List.map_nil, List.append_nil]⟩
  | cons n rest ih =>
    obtain ⟨process, h⟩ := ih (faultless.signalDefaulted n)
    refine ⟨process, ?_⟩
    rw [defaulted_cons, h, faultless.signalDefaulted_eq, List.map_cons, List.append_cons]
    rfl

/-- A signal reset succeeds. -/
theorem Faultless.resetSignals_eq : resetSignals kernel = .ok () kernel.cleaned := by
  have spared : kernel.ResetSpared := by
    refine resetSpared_of_not_covers ?_
    rw [show kernel.faults = [] from faultless]
    simp
  obtain ⟨after, succeeded⟩ := spared.exit_ok (reset_exit (rfl : resetSignals kernel = _))
  have reset := spared.standardReset succeeded
  -- the loop changes the process and the record, and the process is the one of a reset
  have looped := (resetSignals_ok succeeded).1
  obtain ⟨process, defaulted⟩ :=
    faultless.unblocked.defaulted_eq (Signal.numbers Signal.resettable)
  have left : after = { kernel with process, trace := kernel.trace ++ resetCalls } := by
    rw [looped, defaulted, faultless.unblocked_eq]
    simp only [Kernel.record, resetCalls, List.append_assoc, List.singleton_append]
  have same : process = kernel.process.cleaned := by
    obtain ⟨ignored, handled, blocked, h⟩ := reset_process (reset_exit succeeded)
    rw [Kernel.left] at h
    have hprocess : process = after.process := by rw [left]
    rw [hprocess, reset.eq_cleaned ⟨ignored, handled, blocked, h⟩]
  rw [succeeded, left, same]
  rfl

end

end Kernel

end GuardedLaunch

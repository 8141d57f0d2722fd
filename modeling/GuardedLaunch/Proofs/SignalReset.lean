import GuardedLaunch.Kernel.Signals
import GuardedLaunch.Proofs.SystemCall

/-!
# How a signal reset ends

A reset unblocks everything and then goes through the resettable signals in ascending
order. It stops at the first call that is refused; a call that is only feigned is passed
over and leaves its signal as it was.

- `Kernel.unblocked`, `Kernel.defaulted`: the kernels after the mask and after some of
  the signals.
- `mem_defaulted_iff`: which signals are then still ignored and handled.
- `Kernel.ResetExit`, `reset_exit`: the three endings. The one in the middle of the loop
  splits the list of signals where it stopped.
-/

namespace GuardedLaunch

/-- The numbers of some signals. -/
def Signal.numbers (signals : List Signal) : List Nat :=
  signals.map Signal.number

/-- What faults decide about resetting a signal when some signals are reset in order. -/
def Fault.signalVerdict (numbers : List Nat) (faults : List Fault) (n : Nat) :
    Option Fault.Effect :=
  Fault.verdict (.signal n) (numbers.map .signal) faults

theorem Fault.signalVerdict_cons_self (n : Nat) (rest : List Nat) (faults : List Fault) :
    Fault.signalVerdict (n :: rest) faults n = (Fault.consult (.signal n) faults).effect :=
  Fault.verdict_cons_self ..

theorem Fault.signalVerdict_cons_of_ne {m n : Nat} (h : m ≠ n) (rest : List Nat)
    (faults : List Fault) :
    Fault.signalVerdict (m :: rest) faults n
      = Fault.signalVerdict rest (Fault.consult (.signal m) faults).faults n :=
  Fault.verdict_cons_of_ne (fun heq => h (Service.signal.inj heq)) ..

/-- Signals that are reset later have no influence on the verdict. -/
theorem Fault.signalVerdict_append {front : List Nat} {n : Nat} (h : n ∈ front)
    (rest : List Nat) (faults : List Fault) :
    Fault.signalVerdict (front ++ rest) faults n = Fault.signalVerdict front faults n := by
  rw [Fault.signalVerdict, List.map_append]
  exact Fault.verdict_append_of_mem (List.mem_map_of_mem h) ..

namespace Kernel

/-! ## The kernels of a reset -/

/-- The kernel after every signal has been unblocked. -/
def unblocked (kernel : Kernel) : Kernel :=
  kernel.called .sigmask (.sigmask ∅) fun process => { process with blocked := ∅ }

/-- The kernel after a signal has been given its default action. -/
def signalDefaulted (kernel : Kernel) (n : Nat) : Kernel :=
  kernel.called (.signal n) (.signal n) (·.withDefault n)

/-- The kernel after some signals have been given their default action, in order. It is
only ever opened by the two equations below: evaluated on the resettable signals it is a
tower of calls. -/
@[irreducible] def defaulted (kernel : Kernel) (numbers : List Nat) : Kernel :=
  numbers.foldl signalDefaulted kernel

@[simp] theorem defaulted_nil (kernel : Kernel) : kernel.defaulted [] = kernel := by
  rw [defaulted, List.foldl_nil]

theorem defaulted_cons (kernel : Kernel) (n : Nat) (rest : List Nat) :
    kernel.defaulted (n :: rest) = (kernel.signalDefaulted n).defaulted rest := by
  rw [defaulted, defaulted, List.foldl_cons]

theorem defaulted_trace (kernel : Kernel) (numbers : List Nat) :
    (kernel.defaulted numbers).trace = kernel.trace ++ numbers.map .signal := by
  induction numbers generalizing kernel with
  | nil => rw [defaulted_nil, List.map_nil, List.append_nil]
  | cons n rest ih =>
    rw [defaulted_cons, ih, signalDefaulted, called_trace, List.map_cons, List.append_assoc]
    rfl

theorem unblocked_process (kernel : Kernel) :
    ∃ blocked, kernel.unblocked.process = { kernel.process with blocked } := by
  by_cases h : kernel.effect .sigmask = none
  · exact ⟨∅, if_pos h⟩
  · exact ⟨kernel.process.blocked, if_neg h⟩

/-- Giving a signal its default action touches no other part of the process. -/
theorem signalDefaulted_process (kernel : Kernel) (n : Nat) :
    ∃ ignored handled,
      (kernel.signalDefaulted n).process = { kernel.process with ignored, handled } := by
  by_cases h : kernel.effect (.signal n) = none
  · exact ⟨_, _, if_pos h⟩
  · exact ⟨kernel.process.ignored, kernel.process.handled, if_neg h⟩

theorem defaulted_process (kernel : Kernel) (numbers : List Nat) :
    ∃ ignored handled,
      (kernel.defaulted numbers).process = { kernel.process with ignored, handled } := by
  induction numbers generalizing kernel with
  | nil => exact ⟨kernel.process.ignored, kernel.process.handled, by rw [defaulted_nil]⟩
  | cons n rest ih =>
    obtain ⟨ignored, handled, h⟩ := ih (kernel.signalDefaulted n)
    obtain ⟨_, _, hfirst⟩ := signalDefaulted_process kernel n
    exact ⟨ignored, handled, by rw [defaulted_cons, h, hfirst]⟩

/-! ## Which signals keep their disposition -/

/-- A signal is cleared by a reset of some signals: it is one of them, and its call is
not struck. -/
def Cleared (kernel : Kernel) (numbers : List Nat) (n : Nat) : Prop :=
  n ∈ numbers ∧ Fault.signalVerdict numbers kernel.faults n = none

/-- One call clears its own signal, if it is not struck, and no other. -/
theorem mem_signalDefaulted_iff (kernel : Kernel) (m n : Nat) :
    (n ∈ (kernel.signalDefaulted m).process.ignored ↔
        n ∈ kernel.process.ignored ∧ ¬ (n = m ∧ kernel.effect (.signal m) = none)) ∧
      (n ∈ (kernel.signalDefaulted m).process.handled ↔
        n ∈ kernel.process.handled ∧ ¬ (n = m ∧ kernel.effect (.signal m) = none)) := by
  by_cases h : kernel.effect (.signal m) = none
  · have hprocess : (kernel.signalDefaulted m).process = kernel.process.withDefault m :=
      if_pos h
    rw [hprocess, ProcessState.withDefault]
    simp [h]
  · have hprocess : (kernel.signalDefaulted m).process = kernel.process := if_neg h
    rw [hprocess]
    simp [h]

/-- After a reset of distinct signals, exactly the cleared ones have left both sets. -/
theorem mem_defaulted_iff (kernel : Kernel) {numbers : List Nat} (nodup : numbers.Nodup)
    (n : Nat) :
    (n ∈ (kernel.defaulted numbers).process.ignored ↔
        n ∈ kernel.process.ignored ∧ ¬ kernel.Cleared numbers n) ∧
      (n ∈ (kernel.defaulted numbers).process.handled ↔
        n ∈ kernel.process.handled ∧ ¬ kernel.Cleared numbers n) := by
  induction numbers generalizing kernel with
  | nil => simp [Cleared]
  | cons m rest ih =>
    obtain ⟨hm, hrest⟩ := List.nodup_cons.mp nodup
    -- a signal is cleared by the first call or, being another one, by the rest
    have hcleared : kernel.Cleared (m :: rest) n ↔
        (n = m ∧ kernel.effect (.signal m) = none) ∨
          (kernel.signalDefaulted m).Cleared rest n := by
      unfold Cleared
      by_cases hn : n = m
      · subst hn
        rw [Fault.signalVerdict_cons_self, List.mem_cons]
        simp [hm, effect]
      · rw [Fault.signalVerdict_cons_of_ne (Ne.symm hn), List.mem_cons]
        simp only [hn, false_or, false_and]
        rfl
    obtain ⟨hignored, hhandled⟩ := ih (kernel.signalDefaulted m) hrest
    obtain ⟨hi, hh⟩ := mem_signalDefaulted_iff kernel m n
    rw [defaulted_cons, hignored, hhandled, hi, hh, hcleared, not_or, and_assoc, and_assoc]
    exact ⟨Iff.rfl, Iff.rfl⟩

/-! ## The loop over the signals -/

/-- How the loop over some signals ends: at the first call that is refused, or after
the last signal. -/
inductive LoopExit (signals : List Signal) (kernel : Kernel) :
    EStateM.Result Failure Kernel Unit → Prop
  | refused {before later : List Signal} {signal : Signal} {cause : Errno}
      (order : signals = before ++ signal :: later)
      (answered : ∀ n ∈ Signal.numbers before, ∀ cause,
        Fault.signalVerdict (Signal.numbers signals) kernel.faults n ≠ some (.refuse cause))
      (struck : Fault.signalVerdict (Signal.numbers signals) kernel.faults signal.number
        = some (.refuse cause)) :
      LoopExit signals kernel
        (.error (.signalsNotReset cause ("signal(" ++ signal.name ++ ")"))
          (kernel.defaulted (Signal.numbers (before ++ [signal]))))
  | finished
      (answered : ∀ n ∈ Signal.numbers signals, ∀ cause,
        Fault.signalVerdict (Signal.numbers signals) kernel.faults n ≠ some (.refuse cause)) :
      LoopExit signals kernel (.ok () (kernel.defaulted (Signal.numbers signals)))

theorem resetSignal_of_refuse {kernel : Kernel} {signal : Signal} {cause : Errno}
    (struck : kernel.effect (.signal signal.number) = some (.refuse cause)) :
    resetSignal signal kernel
      = .error (.signalsNotReset cause ("signal(" ++ signal.name ++ ")"))
          (kernel.signalDefaulted signal.number) :=
  adaptExcept_of_error _ (changing_of_refuse _ _ struck)

theorem resetSignal_of_answers {kernel : Kernel} {signal : Signal}
    (answers : kernel.Answers (.signal signal.number)) :
    resetSignal signal kernel = .ok () (kernel.signalDefaulted signal.number) :=
  adaptExcept_of_ok _ (changing_of_answers _ _ answers)

/-- An ending of the loop over the remaining signals is one of the whole loop: the
verdicts on them are the same, seen from one call earlier. -/
theorem LoopExit.cons {signal : Signal} {rest : List Signal} {kernel : Kernel}
    {result : EStateM.Result Failure Kernel Unit}
    (fresh : signal.number ∉ Signal.numbers rest)
    (answers : kernel.Answers (.signal signal.number))
    (exit : LoopExit rest (kernel.signalDefaulted signal.number) result) :
    LoopExit (signal :: rest) kernel result := by
  have hfirst : ∀ cause, Fault.signalVerdict (Signal.numbers (signal :: rest)) kernel.faults
      signal.number ≠ some (.refuse cause) := by
    intro cause
    rw [Signal.numbers, List.map_cons, Fault.signalVerdict_cons_self]
    exact answers cause
  have hlater : ∀ n ∈ Signal.numbers rest,
      Fault.signalVerdict (Signal.numbers (signal :: rest)) kernel.faults n
        = Fault.signalVerdict (Signal.numbers rest)
            (kernel.signalDefaulted signal.number).faults n := by
    intro n hn
    have hne : signal.number ≠ n := fun heq => fresh (heq ▸ hn)
    exact Fault.signalVerdict_cons_of_ne hne ..
  -- the ending is read one call earlier: the first signal joins those that were passed
  cases exit with
  | @refused before later stopped cause order answered struck =>
    have hbefore : ∀ n ∈ Signal.numbers before, n ∈ Signal.numbers rest := by
      intro n hn
      rw [order, Signal.numbers, List.map_append]
      exact List.mem_append_left _ hn
    have hstopped : stopped.number ∈ Signal.numbers rest := by
      rw [order, Signal.numbers, List.map_append]
      exact List.mem_append_right _ List.mem_cons_self
    have hafter : (kernel.signalDefaulted signal.number).defaulted
          (Signal.numbers (before ++ [stopped]))
        = kernel.defaulted (Signal.numbers ((signal :: before) ++ [stopped])) :=
      (defaulted_cons ..).symm
    rw [hafter]
    refine .refused (by rw [order]; rfl) ?_ ?_
    · intro n hn cause
      rcases List.mem_cons.mp hn with rfl | hn
      · exact hfirst cause
      · rw [hlater n (hbefore n hn)]
        exact answered n hn cause
    · rw [hlater _ hstopped]
      exact struck
  | finished answered =>
    have hafter : (kernel.signalDefaulted signal.number).defaulted (Signal.numbers rest)
        = kernel.defaulted (Signal.numbers (signal :: rest)) :=
      (defaulted_cons ..).symm
    rw [hafter]
    refine .finished fun n hn cause => ?_
    rcases List.mem_cons.mp hn with rfl | hn
    · exact hfirst cause
    · rw [hlater n hn]
      exact answered n hn cause

/-- Every loop over distinct signals ends in one of these ways. -/
theorem loop_exit {signals : List Signal} (nodup : (Signal.numbers signals).Nodup)
    (kernel : Kernel) : LoopExit signals kernel (signals.forM resetSignal kernel) := by
  induction signals generalizing kernel with
  | nil =>
    have hnil : kernel.defaulted (Signal.numbers []) = kernel := defaulted_nil kernel
    have exit : LoopExit [] kernel (.ok () (kernel.defaulted (Signal.numbers []))) :=
      .finished fun n hn => absurd hn List.not_mem_nil
    rwa [hnil] at exit
  | cons signal rest ih =>
    obtain ⟨fresh, hrest⟩ := List.nodup_cons.mp nodup
    show LoopExit (signal :: rest) kernel
      ((resetSignal signal >>= fun _ => rest.forM resetSignal) kernel)
    rcases refuses_or_answers kernel (.signal signal.number) with ⟨cause, struck⟩ | answers
    · have hlast : kernel.signalDefaulted signal.number
          = kernel.defaulted (Signal.numbers ([] ++ [signal])) :=
        ((defaulted_cons ..).trans (defaulted_nil _)).symm
      rw [bind_of_error (resetSignal_of_refuse struck), hlast]
      refine .refused rfl (fun n hn => absurd hn List.not_mem_nil) ?_
      exact (Fault.signalVerdict_cons_self ..).trans struck
    · rw [bind_of_ok (resetSignal_of_answers answers)]
      exact .cons fresh answers (ih hrest _)

/-! ## The whole reset -/

/-- The calls of a signal reset, in order. -/
def resetServices : List Service :=
  .sigmask :: (Signal.numbers Signal.resettable).map .signal

/-- How a signal reset ends: at the mask, in the loop, or after it. -/
inductive ResetExit (kernel : Kernel) : EStateM.Result Failure Kernel Unit → Prop
  | maskRefused {cause : Errno} (struck : kernel.effect .sigmask = some (.refuse cause)) :
      ResetExit kernel (.error (.signalsNotReset cause "sigprocmask") kernel.unblocked)
  | looped {result : EStateM.Result Failure Kernel Unit}
      (mask : kernel.Answers .sigmask)
      (loop : LoopExit Signal.resettable kernel.unblocked result) : ResetExit kernel result

theorem resettable_nodup : (Signal.numbers Signal.resettable).Nodup := by decide

/-- Every signal reset ends in one of these ways. -/
theorem reset_exit {kernel : Kernel} {result : EStateM.Result Failure Kernel Unit}
    (h : resetSignals kernel = result) : ResetExit kernel result := by
  rw [← h, resetSignals]
  rcases refuses_or_answers kernel .sigmask with ⟨cause, struck⟩ | mask
  · have hmask : sigmask ∅ kernel = .error cause kernel.unblocked :=
      changing_of_refuse _ _ struck
    rw [bind_of_error (adaptExcept_of_error _ hmask)]
    exact .maskRefused struck
  · have hmask : sigmask ∅ kernel = .ok () kernel.unblocked :=
      changing_of_answers _ _ mask
    rw [bind_of_ok (adaptExcept_of_ok _ hmask)]
    exact .looped mask (loop_exit resettable_nodup _)

/-- What faults decide about a call of a signal reset. -/
def resetVerdict (kernel : Kernel) (service : Service) : Option Fault.Effect :=
  Fault.verdict service resetServices kernel.faults

theorem resetVerdict_sigmask (kernel : Kernel) :
    kernel.resetVerdict .sigmask = kernel.effect .sigmask :=
  Fault.verdict_cons_self ..

/-- Being asked about the mask first is part of what the faults have been through when
the loop begins. -/
theorem resetVerdict_signal (kernel : Kernel) (n : Nat) :
    kernel.resetVerdict (.signal n)
      = Fault.signalVerdict (Signal.numbers Signal.resettable) kernel.unblocked.faults n :=
  Fault.verdict_cons_of_ne (fun h => Service.noConfusion h) ..

/-- A signal reset gives a signal its default action: it reaches the signal, since
nothing before it is refused, and the call for it is not struck. -/
structure Resets (kernel : Kernel) (n : Nat) : Prop where
  mask : kernel.Answers .sigmask
  resettable : n ∈ Signal.numbers Signal.resettable
  earlier : ∀ m ∈ Signal.numbers Signal.resettable, m < n →
    ∀ cause, kernel.resetVerdict (.signal m) ≠ some (.refuse cause)
  spared : kernel.resetVerdict (.signal n) = none

theorem resettable_ascending :
    (Signal.numbers Signal.resettable).Pairwise (· < ·) := by decide

/-- Signals are in ascending order, so those below one come before it. -/
theorem number_mem_before {before later : List Signal} {signal : Signal}
    (order : Signal.resettable = before ++ signal :: later) {n : Nat}
    (resettable : n ∈ Signal.numbers Signal.resettable) (below : n < signal.number) :
    n ∈ Signal.numbers before := by
  have ascending := resettable_ascending
  rw [order, Signal.numbers, List.map_append, List.map_cons] at resettable ascending
  obtain ⟨-, hback, -⟩ := List.pairwise_append.mp ascending
  obtain ⟨habove, -⟩ := List.pairwise_cons.mp hback
  rcases List.mem_append.mp resettable with hn | hn
  · exact hn
  · rcases List.mem_cons.mp hn with rfl | hn
    · exact absurd below (Nat.lt_irrefl _)
    · exact absurd below (Nat.lt_asymm (habove n hn))

/-- A loop that stopped at a signal has cleared what a reset clears: signals are in
ascending order, so nothing that a reset reaches comes after the one that stopped it. -/
theorem cleared_iff_resets_of_refused {kernel : Kernel} (mask : kernel.Answers .sigmask)
    {before later : List Signal} {signal : Signal} {cause : Errno}
    (order : Signal.resettable = before ++ signal :: later)
    (answered : ∀ m ∈ Signal.numbers before, ∀ cause,
      kernel.resetVerdict (.signal m) ≠ some (.refuse cause))
    (struck : kernel.resetVerdict (.signal signal.number) = some (.refuse cause)) (n : Nat) :
    kernel.unblocked.Cleared (Signal.numbers (before ++ [signal])) n ↔ kernel.Resets n := by
  have hreached : Signal.numbers (before ++ [signal])
      = Signal.numbers before ++ [signal.number] := List.map_append ..
  have hnumbers : Signal.numbers Signal.resettable
      = Signal.numbers (before ++ [signal]) ++ Signal.numbers later := by
    rw [order, List.append_cons]
    exact List.map_append ..
  have hverdict : ∀ m ∈ Signal.numbers (before ++ [signal]),
      Fault.signalVerdict (Signal.numbers (before ++ [signal])) kernel.unblocked.faults m
        = kernel.resetVerdict (.signal m) := by
    intro m hm
    rw [resetVerdict_signal, hnumbers, Fault.signalVerdict_append hm]
  -- by the order of the signals, nothing that lies above the refused one was reached
  have hascending := resettable_ascending
  rw [hnumbers, List.pairwise_append] at hascending
  obtain ⟨hfront, -, habove⟩ := hascending
  have hlast : signal.number ∈ Signal.numbers (before ++ [signal]) := by
    rw [hreached]
    exact List.mem_append_right _ (List.mem_singleton_self _)
  constructor
  · rintro ⟨hmem, hnone⟩
    rw [hverdict n hmem] at hnone
    have hne : n ≠ signal.number := by
      rintro rfl
      rw [struck] at hnone
      exact Option.some_ne_none _ hnone
    have hlt : n < signal.number := by
      rw [hreached, List.pairwise_append] at hfront
      rw [hreached, List.mem_append, List.mem_singleton] at hmem
      exact hfront.2.2 n (hmem.resolve_right hne) _ (List.mem_singleton_self _)
    refine ⟨mask, by rw [hnumbers]; exact List.mem_append_left _ hmem, ?_, hnone⟩
    intro m hm hmn
    exact answered m (number_mem_before order hm (Nat.lt_trans hmn hlt))
  · rintro ⟨-, hmem, hearlier, hnone⟩
    have hn : n ∈ Signal.numbers (before ++ [signal]) := by
      rw [hnumbers, List.mem_append] at hmem
      rcases hmem with hn | hn
      · exact hn
      · have hsignal : signal.number ∈ Signal.numbers Signal.resettable := by
          rw [hnumbers]
          exact List.mem_append_left _ hlast
        exact absurd struck (hearlier _ hsignal (habove _ hlast n hn) cause)
    exact ⟨hn, (hverdict n hn).trans hnone⟩

/-- However a signal reset ends, exactly the signals that it resets have left the
ignored and the handled ones. -/
theorem mem_reset_iff {kernel : Kernel} {result : EStateM.Result Failure Kernel Unit}
    (exit : ResetExit kernel result) (n : Nat) :
    (n ∈ (left result).process.ignored ↔
        n ∈ kernel.process.ignored ∧ ¬ kernel.Resets n) ∧
      (n ∈ (left result).process.handled ↔
        n ∈ kernel.process.handled ∧ ¬ kernel.Resets n) := by
  obtain ⟨blocked, hblocked⟩ := unblocked_process kernel
  have hignored : kernel.unblocked.process.ignored = kernel.process.ignored := by rw [hblocked]
  have hhandled : kernel.unblocked.process.handled = kernel.process.handled := by rw [hblocked]
  -- the call for the mask leaves both sets alone, so the loop starts from them
  rw [← hignored, ← hhandled]
  cases exit with
  | maskRefused struck =>
    have hnot : ¬ kernel.Resets n := fun resets => resets.mask _ struck
    exact ⟨(and_iff_left hnot).symm, (and_iff_left hnot).symm⟩
  | looped mask loop =>
    cases loop with
    | refused order answered struck =>
      simp only [← resetVerdict_signal] at answered struck
      -- the loop is a complete one over the signals up to the refused one
      have nodup := resettable_nodup
      rw [order, List.append_cons, Signal.numbers, List.map_append] at nodup
      rw [← cleared_iff_resets_of_refused mask order answered struck, left]
      exact mem_defaulted_iff kernel.unblocked (List.nodup_append.mp nodup).1 n
    | finished answered =>
      simp only [← resetVerdict_signal] at answered
      have hiff : kernel.unblocked.Cleared (Signal.numbers Signal.resettable) n ↔
          kernel.Resets n := by
        rw [Cleared, ← resetVerdict_signal]
        exact ⟨fun h => ⟨mask, h.1, fun m hm _ => answered m hm, h.2⟩,
          fun h => ⟨h.resettable, h.spared⟩⟩
      rw [← hiff, left]
      exact mem_defaulted_iff kernel.unblocked resettable_nodup n

/-! ## What every ending keeps -/

/-- A signal reset changes the signal state and nothing else, however it ends. -/
theorem reset_process {kernel : Kernel} {result : EStateM.Result Failure Kernel Unit}
    (exit : ResetExit kernel result) :
    ∃ ignored handled blocked,
      (left result).process = { kernel.process with ignored, handled, blocked } := by
  obtain ⟨blocked, hblocked⟩ := unblocked_process kernel
  have hloop : ∀ numbers, ∃ ignored handled blocked,
      (kernel.unblocked.defaulted numbers).process
        = { kernel.process with ignored, handled, blocked } := by
    intro numbers
    obtain ⟨ignored, handled, h⟩ := defaulted_process kernel.unblocked numbers
    exact ⟨ignored, handled, blocked, by rw [h, hblocked]⟩
  cases exit with
  | maskRefused => exact ⟨_, _, blocked, hblocked⟩
  | looped mask loop =>
    cases loop with
    | refused => exact hloop _
    | finished => exact hloop _

/-- However a signal reset ends, nothing is blocked any more, unless the call for the mask
was struck. -/
theorem reset_blocked {kernel : Kernel} {result : EStateM.Result Failure Kernel Unit}
    (exit : ResetExit kernel result) :
    (left result).process.blocked
      = if kernel.effect .sigmask = none then ∅ else kernel.process.blocked := by
  have hmask : kernel.unblocked.process.blocked
      = if kernel.effect .sigmask = none then ∅ else kernel.process.blocked := by
    rw [unblocked, called_process]
    by_cases h : kernel.effect .sigmask = none
    · rw [if_pos h, if_pos h]
    · rw [if_neg h, if_neg h]
  have hloop (numbers : List Nat) : (kernel.unblocked.defaulted numbers).process.blocked
      = kernel.unblocked.process.blocked := by
    obtain ⟨_, _, h⟩ := defaulted_process kernel.unblocked numbers
    rw [h]
  rw [← hmask]
  cases exit with
  | maskRefused => rfl
  | looped mask loop =>
    cases loop with
    | refused => exact hloop _
    | finished => exact hloop _

/-- A signal reset makes the call for the mask and then calls for signals in order, up
to the one that ends it. -/
theorem reset_trace {kernel : Kernel} {result : EStateM.Result Failure Kernel Unit}
    (exit : ResetExit kernel result) :
    ∃ numbers, numbers <+: Signal.numbers Signal.resettable ∧
      (left result).trace = kernel.trace ++ .sigmask ∅ :: numbers.map .signal := by
  have hloop : ∀ numbers, (kernel.unblocked.defaulted numbers).trace
      = kernel.trace ++ .sigmask ∅ :: numbers.map .signal := by
    intro numbers
    rw [defaulted_trace, unblocked, called_trace, List.append_assoc]
    rfl
  cases exit with
  | maskRefused => exact ⟨[], List.nil_prefix, rfl⟩
  | looped mask loop =>
    cases loop with
    | @refused before later signal cause order answered struck =>
      have hnumbers : Signal.numbers Signal.resettable
          = Signal.numbers (before ++ [signal]) ++ Signal.numbers later := by
        rw [order, List.append_cons]
        exact List.map_append ..
      exact ⟨Signal.numbers (before ++ [signal]), ⟨_, hnumbers.symm⟩, hloop _⟩
    | finished => exact ⟨_, List.prefix_refl _, hloop _⟩

/-! ## Success -/

/-- A signal reset that succeeded went through the whole loop. -/
theorem resetSignals_ok {kernel after : Kernel} (h : resetSignals kernel = .ok () after) :
    after = kernel.unblocked.defaulted (Signal.numbers Signal.resettable) ∧
      kernel.Answers .sigmask ∧ ∀ n ∈ Signal.numbers Signal.resettable,
        ∀ cause, kernel.resetVerdict (.signal n) ≠ some (.refuse cause) := by
  cases reset_exit h with
  | looped mask loop =>
    cases loop with
    | finished answered =>
      simp only [← resetVerdict_signal] at answered
      exact ⟨rfl, mask, answered⟩

/-- After a success a signal is neither ignored nor handled, unless its call was
feigned. -/
theorem not_mem_of_resetSignals {kernel after : Kernel}
    (h : resetSignals kernel = .ok () after) {n : Nat}
    (hn : n ∈ Signal.numbers Signal.resettable)
    (unfeigned : kernel.resetVerdict (.signal n) ≠ some .feign) :
    n ∉ after.process.ignored ∧ n ∉ after.process.handled := by
  obtain ⟨-, mask, answered⟩ := resetSignals_ok h
  have hspared : kernel.resetVerdict (.signal n) = none :=
    Fault.spared_of_answered (answered n hn) unfeigned
  have hresets : kernel.Resets n := ⟨mask, hn, fun m hm _ => answered m hm, hspared⟩
  obtain ⟨hignored, hhandled⟩ := mem_reset_iff (reset_exit h) n
  exact ⟨fun hmem => (hignored.mp hmem).2 hresets, fun hmem => (hhandled.mp hmem).2 hresets⟩

/-- After a success nothing is blocked, unless the call for the mask was feigned. -/
theorem blocked_of_resetSignals {kernel after : Kernel}
    (h : resetSignals kernel = .ok () after)
    (unfeigned : kernel.resetVerdict .sigmask ≠ some .feign) :
    after.process.blocked = ∅ := by
  obtain ⟨-, mask, -⟩ := resetSignals_ok h
  rw [resetVerdict_sigmask] at unfeigned
  have hblocked := reset_blocked (reset_exit h)
  rwa [left, if_pos (effect_eq_none mask unfeigned)] at hblocked

/-- The resettable signals are the standard ones but for the two that cannot be
caught. -/
theorem mem_resettable_iff (n : Nat) :
    n ∈ Signal.numbers Signal.resettable ↔
      1 ≤ n ∧ n ≤ 31 ∧ n ≠ Signal.kill ∧ n ≠ Signal.stop := by
  have hsmall : ∀ n < 32, n ∈ Signal.numbers Signal.resettable ↔
      1 ≤ n ∧ n ≤ 31 ∧ n ≠ Signal.kill ∧ n ≠ Signal.stop := by decide
  by_cases hn : n < 32
  · exact hsmall n hn
  · have hbound : ∀ m ∈ Signal.numbers Signal.resettable, m < 32 := by decide
    exact ⟨fun hmem => absurd (hbound n hmem) hn, fun h => absurd (Nat.lt_succ_of_le h.2.1) hn⟩

end Kernel

end GuardedLaunch

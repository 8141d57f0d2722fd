import GuardedLaunch.Proofs.Retry

/-!
# How far a signal reset gets

A signal reset goes through the standard signals in ascending order and stops at the first
call that is refused. What it has done by then stays done: the signals below the one at which
it stopped have their default action, but for those whose calls were feigned, and every other
signal is ignored or handled as it was before.

- `Kernel.StopsAt`, `Kernel.SignalsAnswer`: the signal at which a reset stops, and that there
  is none.
- `Kernel.StopsAt.resets_iff`: the signals that are reset by a reset that stops there.
- `Kernel.HasReset`: what a reset that came to some of the signals has done.
- `Kernel.StopsAt.hasReset`, `Kernel.SignalsAnswer.hasReset`: a reset that stops, and one that
  comes to its end.
-/

namespace GuardedLaunch

namespace Kernel

/-! ## The signal that stops a reset -/

/-- The signal at which a reset stops: the call for it is refused, and that for a standard
signal below it is not. -/
structure StopsAt (kernel : Kernel) (signal : Signal) (cause : Errno) : Prop where
  resettable : signal ∈ Signal.resettable
  struck : kernel.resetVerdict (.signal signal.number) = some (.refuse cause)
  least : ∀ n, Signal.Standard n → n < signal.number →
    ∀ other, kernel.resetVerdict (.signal n) ≠ some (.refuse other)

/-- No call of a reset for a signal is refused. -/
def SignalsAnswer (kernel : Kernel) : Prop :=
  ∀ n, Signal.Standard n → ∀ cause, kernel.resetVerdict (.signal n) ≠ some (.refuse cause)

section

variable {kernel : Kernel} {signal : Signal} {cause : Errno}

/-- A loop over the signals that is refused stops at a signal. -/
theorem stopsAt_of_refused {before later : List Signal}
    (order : Signal.resettable = before ++ signal :: later)
    (answered : ∀ n ∈ Signal.numbers before, ∀ cause,
      kernel.resetVerdict (.signal n) ≠ some (.refuse cause))
    (struck : kernel.resetVerdict (.signal signal.number) = some (.refuse cause)) :
    kernel.StopsAt signal cause where
  resettable := by
    rw [order]
    exact List.mem_append_right _ List.mem_cons_self
  struck := struck
  least n standard below :=
    answered n (number_mem_before order ((mem_resettable_iff n).mpr standard) below)

theorem StopsAt.standard (stops : kernel.StopsAt signal cause) :
    Signal.Standard signal.number :=
  (mem_resettable_iff _).mp (List.mem_map_of_mem stops.resettable)

/-- A reset stops at one signal only, and with one cause. -/
theorem StopsAt.unique {signal' : Signal} {cause' : Errno} (stops : kernel.StopsAt signal cause)
    (stops' : kernel.StopsAt signal' cause') : signal = signal' ∧ cause = cause' := by
  have numbered : ∀ first ∈ Signal.resettable, ∀ second ∈ Signal.resettable,
      first.number = second.number → first = second := by decide
  rcases Nat.lt_trichotomy signal.number signal'.number with hlt | heq | hlt
  · exact absurd stops.struck (stops'.least _ stops.standard hlt cause)
  · obtain rfl := numbered _ stops.resettable _ stops'.resettable heq
    have struck := stops.struck.symm.trans stops'.struck
    exact ⟨rfl, by cases struck; rfl⟩
  · exact absurd stops'.struck (stops.least _ stops'.standard hlt cause')

/-- The signals that are reset by a reset that stops are those below, but for the feigned
ones. -/
theorem StopsAt.resets_iff (stops : kernel.StopsAt signal cause)
    (mask : kernel.Answers .sigmask) (n : Nat) :
    kernel.Resets n ↔
      Signal.Standard n ∧ n < signal.number ∧ kernel.resetVerdict (.signal n) ≠ some .feign := by
  constructor
  · rintro ⟨-, resettable, earlier, spared⟩
    refine ⟨(mem_resettable_iff n).mp resettable, ?_, ?_⟩
    · rcases Nat.lt_trichotomy n signal.number with hlt | rfl | hlt
      · exact hlt
      · rw [stops.struck] at spared
        cases spared
      · have hsignal := (mem_resettable_iff _).mpr stops.standard
        exact absurd stops.struck (earlier _ hsignal hlt cause)
    · rw [spared]
      exact (Option.some_ne_none _).symm
  · rintro ⟨standard, below, unfeigned⟩
    refine ⟨mask, (mem_resettable_iff n).mpr standard, fun m hm hlt => ?_, ?_⟩
    · exact stops.least m ((mem_resettable_iff m).mp hm) (Nat.lt_trans hlt below)
    · exact Fault.spared_of_answered (stops.least n standard below) unfeigned

/-- Where no call for a signal is refused, all of them are reset, but for the feigned ones. -/
theorem SignalsAnswer.resets_iff (answer : kernel.SignalsAnswer)
    (mask : kernel.Answers .sigmask) (n : Nat) :
    kernel.Resets n ↔ Signal.Standard n ∧ kernel.resetVerdict (.signal n) ≠ some .feign := by
  constructor
  · rintro ⟨-, resettable, -, spared⟩
    refine ⟨(mem_resettable_iff n).mp resettable, ?_⟩
    rw [spared]
    exact (Option.some_ne_none _).symm
  · rintro ⟨standard, unfeigned⟩
    exact ⟨mask, (mem_resettable_iff n).mpr standard,
      fun m hm _ => answer m ((mem_resettable_iff m).mp hm),
      Fault.spared_of_answered (answer n standard) unfeigned⟩

end

/-! ## What has been done -/

/-- What a reset that came to the signals below some place has done: among those, each
standard one whose call was not feigned has its default action, and every other signal is
ignored or handled as before. -/
structure HasReset (kernel : Kernel) (below : Nat → Prop) (after : Kernel) : Prop where
  reset : ∀ n, Signal.Standard n → below n → kernel.resetVerdict (.signal n) ≠ some .feign →
    n ∉ after.process.ignored ∧ n ∉ after.process.handled
  kept : ∀ n, ¬ Signal.Standard n ∨ ¬ below n ∨ kernel.resetVerdict (.signal n) = some .feign →
    (n ∈ after.process.ignored ↔ n ∈ kernel.process.ignored) ∧
      (n ∈ after.process.handled ↔ n ∈ kernel.process.handled)
  blocked : after.process.blocked
    = if kernel.resetVerdict .sigmask = some .feign then kernel.process.blocked else ∅
  uid : after.process.uid = kernel.process.uid
  gid : after.process.gid = kernel.process.gid
  env : after.process.env = kernel.process.env

section

variable {kernel : Kernel} {result : EStateM.Result Failure Kernel Unit}

/-- However a reset ends, it has done that for the signals that it resets. -/
theorem ResetExit.hasReset (exit : ResetExit kernel result) (mask : kernel.Answers .sigmask)
    {below : Nat → Prop}
    (resets : ∀ n, kernel.Resets n ↔
      Signal.Standard n ∧ below n ∧ kernel.resetVerdict (.signal n) ≠ some .feign) :
    kernel.HasReset below (left result) := by
  obtain ⟨ignored, handled, blocked, process⟩ := reset_process exit
  exact {
    reset := by
      intro n standard hbelow unfeigned
      obtain ⟨hignored, hhandled⟩ := mem_reset_iff exit n
      have hresets := (resets n).mpr ⟨standard, hbelow, unfeigned⟩
      exact ⟨fun hmem => (hignored.mp hmem).2 hresets,
        fun hmem => (hhandled.mp hmem).2 hresets⟩
    kept := by
      intro n hkept
      have hnot : ¬ kernel.Resets n := by
        rw [resets]
        rintro ⟨standard, hbelow, unfeigned⟩
        rcases hkept with hother | habove | hfeigned
        · exact hother standard
        · exact habove hbelow
        · exact unfeigned hfeigned
      obtain ⟨hignored, hhandled⟩ := mem_reset_iff exit n
      exact ⟨hignored.trans (and_iff_left hnot), hhandled.trans (and_iff_left hnot)⟩
    blocked := by
      rw [reset_blocked exit, resetVerdict_sigmask]
      by_cases hfeign : kernel.effect .sigmask = some .feign
      · rw [if_pos hfeign, if_neg (by rw [hfeign]; exact Option.some_ne_none _)]
      · rw [if_neg hfeign, if_pos (effect_eq_none mask hfeign)]
    uid := by rw [process]
    gid := by rw [process]
    env := by rw [process] }

end

section

variable {kernel : Kernel}

/-- A reset that is refused the mask changes nothing. -/
theorem reset_of_maskRefused {cause : Errno}
    (struck : kernel.resetVerdict .sigmask = some (.refuse cause)) :
    ∃ after, resetSignals kernel = .error (.signalsNotReset cause "sigprocmask") after ∧
      after.process = kernel.process := by
  have exit := reset_exit (rfl : resetSignals kernel = _)
  rw [resetVerdict_sigmask] at struck
  generalize resetSignals kernel = result at exit ⊢
  cases exit with
  | maskRefused struck' =>
    cases struck.symm.trans struck'
    refine ⟨_, rfl, ?_⟩
    rw [unblocked, called_process, struck, if_neg (Option.some_ne_none _)]
  | looped mask => exact absurd struck (mask cause)

/-- A reset that is not refused the mask comes to its end or stops at a signal. -/
theorem reset_of_maskAnswered (mask : kernel.Answers .sigmask) :
    (kernel.SignalsAnswer ∧ ∃ after, resetSignals kernel = .ok () after) ∨
      ∃ signal cause, kernel.StopsAt signal cause ∧ ∃ after, resetSignals kernel
        = .error (.signalsNotReset cause ("signal(" ++ signal.name ++ ")")) after := by
  have exit := reset_exit (rfl : resetSignals kernel = _)
  generalize resetSignals kernel = result at exit ⊢
  cases exit with
  | maskRefused struck => exact absurd struck (mask _)
  | looped mask loop =>
    cases loop with
    | refused order answered struck =>
      simp only [← resetVerdict_signal] at answered struck
      exact Or.inr ⟨_, _, stopsAt_of_refused order answered struck, _, rfl⟩
    | finished answered =>
      simp only [← resetVerdict_signal] at answered
      exact Or.inl ⟨fun n standard => answered n ((mem_resettable_iff n).mpr standard), _, rfl⟩

theorem StopsAt.not_signalsAnswer {signal : Signal} {cause : Errno}
    (stops : kernel.StopsAt signal cause) : ¬ kernel.SignalsAnswer :=
  fun answer => answer _ stops.standard cause stops.struck

/-- A reset that stops at a signal has reset those below it. -/
theorem StopsAt.hasReset {signal : Signal} {cause : Errno} (stops : kernel.StopsAt signal cause)
    (mask : kernel.Answers .sigmask) :
    ∃ after, resetSignals kernel
        = .error (.signalsNotReset cause ("signal(" ++ signal.name ++ ")")) after ∧
      kernel.HasReset (· < signal.number) after := by
  rcases reset_of_maskAnswered mask with ⟨answer, -⟩ | ⟨_, _, stops', after, h⟩
  · exact absurd answer stops.not_signalsAnswer
  · obtain ⟨rfl, rfl⟩ := stops.unique stops'
    exact ⟨after, h, (reset_exit h).hasReset mask (stops.resets_iff mask)⟩

/-- A reset that nothing stops has reset every signal that it can. -/
theorem SignalsAnswer.hasReset (answer : kernel.SignalsAnswer)
    (mask : kernel.Answers .sigmask) :
    ∃ after, resetSignals kernel = .ok () after ∧ kernel.HasReset (fun _ => True) after := by
  rcases reset_of_maskAnswered mask with ⟨-, after, h⟩ | ⟨_, _, stops, -⟩
  · refine ⟨after, h, (reset_exit h).hasReset mask fun n => ?_⟩
    rw [answer.resets_iff mask, true_and]
  · exact absurd answer stops.not_signalsAnswer

end

/-- A signal reset is decided by the call for the mask and then by the least standard signal
whose call is refused. Refused the mask, it changes nothing. Stopped at a signal, it has reset
those below; stopped nowhere, it has reset all of them. Either way the calls that were feigned
have had no effect, the other signals are as before, and so are the ids and the environment.
Without faults there is nothing left for a second reset to do. -/
theorem reset_stops_at_least_refused (kernel : Kernel) :
    (∀ cause, kernel.resetVerdict .sigmask = some (.refuse cause) →
        ∃ after, resetSignals kernel = .error (.signalsNotReset cause "sigprocmask") after ∧
          after.process = kernel.process) ∧
      ((∀ cause, kernel.resetVerdict .sigmask ≠ some (.refuse cause)) →
        (∀ signal cause, kernel.StopsAt signal cause →
          ∃ after,
            resetSignals kernel
                = .error (.signalsNotReset cause ("signal(" ++ signal.name ++ ")")) after ∧
              kernel.HasReset (· < signal.number) after) ∧
          (kernel.SignalsAnswer →
            ∃ after, resetSignals kernel = .ok () after ∧
              kernel.HasReset (fun _ => True) after) ∧
          ((∃ signal cause, kernel.StopsAt signal cause) ∨ kernel.SignalsAnswer)) ∧
      (kernel.faults = [] → ∃ after,
        resetSignals kernel = .ok () after ∧
          resetSignals after = .ok () (after.recalling (after.trace ++ resetCalls))) := by
  refine ⟨fun cause struck => reset_of_maskRefused struck, fun answers => ?_,
    fun faultless => ?_⟩
  · have mask : kernel.Answers .sigmask := by
      intro cause
      rw [← resetVerdict_sigmask]
      exact answers cause
    refine ⟨fun signal cause stops => stops.hasReset mask, fun answer => answer.hasReset mask, ?_⟩
    rcases reset_of_maskAnswered mask with ⟨answer, -⟩ | ⟨signal, cause, stops, -⟩
    · exact Or.inr answer
    · exact Or.inl ⟨signal, cause, stops⟩
  · have kept : kernel.Faultless := faultless
    have cleaned : kernel.cleaned.Faultless := faultless
    exact ⟨kernel.cleaned, kept.resetSignals_eq,
      cleaned.resetSignals_recalling kernel.process.cleaned_cleaned kernel.cleaned.trace⟩

/-- A process that ignores four signals. Calls for the second signal are feigned, and of all
other calls for signals four go well. -/
def abortRefused : Kernel :=
  Kernel.initial.configure
    { ignored := some (.ofList [1, 2, 6, 34])
      blocked := some (.ofList [15])
      faults := some [⟨.signal, some 2, .feign, 0⟩, ⟨.signal, none, .refuse ⟨22⟩, 4⟩] }

theorem abortRefused_stopsAt : abortRefused.StopsAt ⟨6, "SIGABRT"⟩ ⟨22⟩ where
  resettable := by decide
  struck := by decide
  least n _ below other := by
    have spared : ∀ m < 6, abortRefused.resetVerdict (.signal m) = none ∨
        abortRefused.resetVerdict (.signal m) = some .feign := by decide
    rcases spared n below with h | h <;> rw [h] <;> exact fun refused => by cases refused

/-- Its reset is refused the sixth signal. By then the first is no longer ignored, and the
feigned one, the refused one and the real-time signal are. -/
theorem reset_stops_at_least_refused_abortRefused :
    ∃ after,
      resetSignals abortRefused = .error (.signalsNotReset ⟨22⟩ "signal(SIGABRT)") after ∧
        1 ∉ after.process.ignored ∧ 2 ∈ after.process.ignored ∧
        6 ∈ after.process.ignored ∧ 34 ∈ after.process.ignored ∧ after.process.blocked = ∅ := by
  obtain ⟨-, answered, -⟩ := reset_stops_at_least_refused abortRefused
  have mask : abortRefused.resetVerdict .sigmask = none := by decide
  obtain ⟨stopped, -, -⟩ := answered fun cause => by
    rw [mask]
    exact (Option.some_ne_none _).symm
  obtain ⟨after, refused, reset⟩ := stopped _ _ abortRefused_stopsAt
  refine ⟨after, refused, ?_, ?_, ?_, ?_, ?_⟩
  · exact (reset.reset 1 (by decide) (by decide) (by decide)).1
  · exact (reset.kept 2 (Or.inr (Or.inr (by decide)))).1.mpr (by decide)
  · exact (reset.kept 6 (Or.inr (Or.inl (by decide)))).1.mpr (by decide)
  · exact (reset.kept 34 (Or.inl (by decide))).1.mpr (by decide)
  · rw [reset.blocked, mask, if_neg (Option.some_ne_none _).symm]

end Kernel

end GuardedLaunch

import GuardedLaunch.Failure
import GuardedLaunch.Kernel.Basic
import GuardedLaunch.Signal.Basic

/-!
# A clean signal state

Blocked signals and ignored ones outlive the replacement of a process image, so
whatever the caller arranged would reach the interpreter. Before it is started,
everything is unblocked and every standard signal that allows it is given its
default action; signals beyond the standard ones are left as they are.

- `Kernel.resetSignal`: one signal.
- `Kernel.resetSignals`: the mask, then the signals in ascending order.
-/

namespace GuardedLaunch.Kernel

/-- Give a standard signal its default action. -/
def resetSignal (signal : Signal) : EStateM Failure Kernel Unit :=
  (Kernel.signal signal.number).adaptExcept fun cause =>
    .signalsNotReset cause ("signal(" ++ signal.name ++ ")")

/-- Unblock every signal, then reset the standard ones in ascending order. The
first call that fails ends it. -/
def resetSignals : EStateM Failure Kernel Unit := do
  (sigmask ∅).adaptExcept fun cause => .signalsNotReset cause "sigprocmask"
  Signal.resettable.forM resetSignal

end GuardedLaunch.Kernel

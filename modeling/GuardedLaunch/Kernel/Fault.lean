import GuardedLaunch.Errno

/-!
# Faults

A system call may fail, and it may claim to have succeeded without doing
anything. A fault arranges for one or the other at a chosen call, after a chosen
number of calls have gone well.

- `Service`: the calls that faults can strike, with their kinds.
- `Fault`: which calls it strikes, how, and from when on.
- `Fault.consult`: what the faults decide about one call.
-/

namespace GuardedLaunch

/-- A system call as faults tell them apart. -/
inductive Service where
  | setresuid
  | setresgid
  | getresuid
  | getresgid
  | sigmask
  | signal (number : Nat)
  deriving DecidableEq

namespace Service

/-- A kind of system call, whatever the arguments. -/
inductive Kind where
  | setresuid
  | setresgid
  | getresuid
  | getresgid
  | sigmask
  | signal
  deriving DecidableEq

/-- The kind of a call. -/
def kind : Service → Kind
  | setresuid => .setresuid
  | setresgid => .setresgid
  | getresuid => .getresuid
  | getresgid => .getresgid
  | sigmask => .sigmask
  | signal _ => .signal

/-- The one signal that a call is about, if there is one. -/
def signal? : Service → Option Nat
  | signal number => some number
  | _ => none

end Service

namespace Fault

/-- What becomes of a call that is struck. It has no effect either way. -/
inductive Effect where
  /-- The call fails. -/
  | refuse (errno : Errno)
  /-- The call reports success. -/
  | feign
  deriving DecidableEq

end Fault

/-- A fault: the kind of call that it strikes, the signal to which it is
restricted, if any, and the number of calls that it lets pass before it strikes. -/
structure Fault where
  kind : Service.Kind
  signal : Option Nat
  effect : Fault.Effect
  after : Nat
  deriving DecidableEq

namespace Fault

/-- Whether a call is one of those that a fault strikes. A fault that is restricted
to a signal covers no call that is not about that signal. -/
def covers (fault : Fault) (service : Service) : Bool :=
  fault.kind == service.kind && (fault.signal.isNone || fault.signal == service.signal?)

/-- What faults decide about a call: the effect on it, if it is struck, and the
faults as they stand afterwards. -/
structure Decision where
  effect : Option Effect
  faults : List Fault

/-- A decision that is left to the faults behind another one. -/
def Decision.behind (fault : Fault) (decision : Decision) : Decision :=
  { decision with faults := fault :: decision.faults }

/-- Ask faults about a call. The first fault that covers the call and lets no
more calls pass decides; each covering fault before it has let one more pass, and
those behind it are not asked. -/
def consult (service : Service) : List Fault → Decision
  | [] => ⟨none, []⟩
  | fault :: rest =>
    if fault.covers service then
      match fault.after with
      | 0 => ⟨some fault.effect, fault :: rest⟩
      | after + 1 => (consult service rest).behind { fault with after }
    else (consult service rest).behind fault

end Fault

end GuardedLaunch

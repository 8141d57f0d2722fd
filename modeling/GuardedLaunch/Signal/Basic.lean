/-!
# Signals

The standard signals by number and name. A process may give up an ignored or
handled disposition for the default action for every one of them but two, which
are never anything else.

- `Signal`: a standard signal.
- `Signal.standard`: all of them in ascending order.
- `Signal.resettable`: those whose action a process may set.
-/

namespace GuardedLaunch

/-- A standard signal. -/
structure Signal where
  number : Nat
  name : String
  deriving DecidableEq

namespace Signal

/-- The standard signals in ascending order of their numbers. -/
def standard : List Signal :=
  [⟨1, "SIGHUP"⟩, ⟨2, "SIGINT"⟩, ⟨3, "SIGQUIT"⟩, ⟨4, "SIGILL"⟩, ⟨5, "SIGTRAP"⟩,
   ⟨6, "SIGABRT"⟩, ⟨7, "SIGBUS"⟩, ⟨8, "SIGFPE"⟩, ⟨9, "SIGKILL"⟩, ⟨10, "SIGUSR1"⟩,
   ⟨11, "SIGSEGV"⟩, ⟨12, "SIGUSR2"⟩, ⟨13, "SIGPIPE"⟩, ⟨14, "SIGALRM"⟩, ⟨15, "SIGTERM"⟩,
   ⟨16, "SIGSTKFLT"⟩, ⟨17, "SIGCHLD"⟩, ⟨18, "SIGCONT"⟩, ⟨19, "SIGSTOP"⟩, ⟨20, "SIGTSTP"⟩,
   ⟨21, "SIGTTIN"⟩, ⟨22, "SIGTTOU"⟩, ⟨23, "SIGURG"⟩, ⟨24, "SIGXCPU"⟩, ⟨25, "SIGXFSZ"⟩,
   ⟨26, "SIGVTALRM"⟩, ⟨27, "SIGPROF"⟩, ⟨28, "SIGWINCH"⟩, ⟨29, "SIGIO"⟩, ⟨30, "SIGPWR"⟩,
   ⟨31, "SIGSYS"⟩]

/-- The signal that ends a process and cannot be caught. -/
def kill : Nat := 9

/-- The signal for a write to a pipe that nobody reads. -/
def brokenPipe : Nat := 13

/-- The signal that stops a process and cannot be caught. -/
def stop : Nat := 19

/-- The standard signals whose action a process may set, in ascending order. -/
def resettable : List Signal :=
  standard.filter fun signal => signal.number ≠ kill ∧ signal.number ≠ stop

end Signal

end GuardedLaunch

import GuardedLaunch.Kernel.Host
import GuardedLaunch.Launch
import GuardedLaunch.Log
import GuardedLaunch.Profile.Shipped
import GuardedLaunch.Signal.Basic

/-!
# The program

The program launches the profile it was built with. If the interpreter does not
start, the diagnostic goes to standard output with a line feed after it, the log
has gone to standard error, and the exit code is the one of the failure. The
program starts out ignoring the signal for a pipe that nobody reads, so that a lost
diagnostic does not change the exit code; a launch that got as far as resetting
that signal has given this protection up.

- `Build`: what is settled when the program is built.
- `Ending`, `Output`: what a caller sees.
- `Program.run`: the program on a kernel.
- `Program.inStages`: the same in the order in which the process goes about it.
-/

namespace GuardedLaunch

/-- The ways in which the program is built. -/
inductive Build where
  /-- The profile of the system, and refusals alone in the log. -/
  | standard
  /-- The profile of the separate installation, and every event in the log. -/
  | traced
  deriving DecidableEq

namespace Build

/-- The profile that a build launches. -/
def profile : Build → Profile
  | .standard => .system
  | .traced => .conda

/-- The least important level that the log of a build shows. -/
def leastLevel : Build → Level
  | .standard => .warn
  | .traced => .debug

end Build

/-- How the process ends. -/
inductive Ending where
  /-- By its own decision. -/
  | exited (code : Nat)
  /-- By a signal. -/
  | killed (signal : Nat)
  deriving DecidableEq

/-- What the caller sees of the program. -/
structure Output where
  ending : Ending
  stdout : String
  stderr : String
  deriving DecidableEq

namespace Program

/-- The state in which the program begins: writing to a pipe that nobody reads is
an error of the write and nothing more. -/
def started (kernel : Kernel) : Kernel :=
  { kernel with
    process :=
      { kernel.process with
        ignored := kernel.process.ignored.insert Signal.brokenPipe
        handled := kernel.process.handled.erase Signal.brokenPipe } }

/-- Whether a process outlives a write to a pipe that nobody reads: the signal
for it is ignored, handled or blocked. -/
def outlivesBrokenPipe (process : ProcessState) : Bool :=
  Signal.brokenPipe ∈ process.ignored ∨ Signal.brokenPipe ∈ process.handled ∨
    Signal.brokenPipe ∈ process.blocked

/-- Write the diagnostic and end with the exit code of a failure. Where nobody
reads the output, the diagnostic is lost and the attempt may end the process. -/
def finish (outcome : Outcome Kernel) (stdoutOpen : Bool) (stderr : String) : Output :=
  let exited := Ending.exited outcome.failure.exitStatus.code
  if stdoutOpen then
    { ending := exited, stdout := outcome.failure.message ++ "\n", stderr }
  else if outlivesBrokenPipe outcome.state.process then
    { ending := exited, stdout := "", stderr }
  else
    { ending := .killed Signal.brokenPipe, stdout := "", stderr }

/-- The program, called with a command line. `stdoutOpen` says whether anybody
reads its standard output. -/
def run (build : Build) (argv : List Bytes) (stdoutOpen : Bool) (kernel : Kernel) : Output :=
  let outcome := GuardedLaunch.run Kernel.host build.profile argv (started kernel)
  finish outcome stdoutOpen (Log.text build.leastLevel outcome.events)

/-- The program in its stages. The log is set up between the two halves of a launch, when
the inherited environment is gone; nothing is logged before that. -/
def inStages (build : Build) (argv : List Bytes) (stdoutOpen : Bool) (kernel : Kernel) :
    Output :=
  let sanitized := sanitize Kernel.host build.profile (started kernel)
  match sanitized.1 with
  | .error failure => finish ⟨failure, [], sanitized.2⟩ stdoutOpen ""
  | .ok env =>
    let outcome := launch Kernel.host build.profile env argv sanitized.2
    finish outcome stdoutOpen (Log.text build.leastLevel outcome.events)

end Program

end GuardedLaunch

import GuardedLaunch.Errno

/-!
# Failures

Everything that can stop a launch short of handing over to the interpreter, with
its one diagnostic text and its one exit status. No failure carries the value of
an environment variable.

- `Failure`: the causes.
- `Failure.message`: the text on standard output.
- `ExitStatus`, `Failure.exitStatus`: what the caller learns from the exit code.
-/

namespace GuardedLaunch

/-- Why no interpreter was started. A cause that the system gave comes with its
error number and with what was being attempted. -/
inductive Failure where
  /-- The command line names no script. -/
  | scriptMissing
  /-- The command line names a script that is not permitted. -/
  | scriptNotPermitted (script : String)
  /-- A call that sets the ids or reads them back failed. -/
  | idsNotSettled (cause : Errno) (call : String)
  /-- The ids were set without an error and read back as something else. -/
  | idsDiffer (found : String)
  /-- A call that sets the signal mask or the action of a signal failed. -/
  | signalsNotReset (cause : Errno) (call : String)
  /-- The interpreter or one of its arguments could not be handed to the
  system. -/
  | notExecuted (cause : Errno) (subject : String)
  /-- The profile itself is unusable. -/
  | profileUnusable (reason : String)
  deriving DecidableEq

/-- What an exit code tells the caller. A usage error and a refusal are the
caller's fault; the other two are not. -/
inductive ExitStatus where
  | launchFailed
  | usage
  | unauthorized
  | identity
  deriving DecidableEq

/-- The exit code of the process. -/
def ExitStatus.code : ExitStatus → Nat
  | .launchFailed => 1
  | .usage => 2
  | .unauthorized => 3
  | .identity => 4

namespace Failure

/-- The diagnostic of a failure. -/
def message : Failure → String
  | scriptMissing => "Invoke called with no arguments"
  | scriptNotPermitted script => "Invoke called with invalid script: " ++ script
  | idsNotSettled cause call =>
    "Invoke could not normalize identity: " ++ call ++ ": " ++ cause.text
  | idsDiffer found => "Invoke could not normalize identity: " ++ found
  | signalsNotReset cause call =>
    "Invoke could not reset signal mask: " ++ call ++ ": " ++ cause.text
  | notExecuted cause subject => "Invoke could not execute " ++ subject ++ ": " ++ cause.text
  | profileUnusable reason => "Invoke misconfigured: " ++ reason

/-- The exit status of a process that ends with a failure. -/
def exitStatus : Failure → ExitStatus
  | scriptMissing => .usage
  | scriptNotPermitted _ => .unauthorized
  | idsNotSettled _ _ => .identity
  | idsDiffer _ => .identity
  | signalsNotReset _ _ => .launchFailed
  | notExecuted _ _ => .launchFailed
  | profileUnusable _ => .launchFailed

end Failure

end GuardedLaunch

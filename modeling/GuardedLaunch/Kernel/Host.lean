import GuardedLaunch.Host
import GuardedLaunch.Kernel.Identity
import GuardedLaunch.Kernel.Signals

/-!
# The kernel as a host

A launch on a kernel: the four operations of a host carried out by system calls.

- `Kernel.exec`: hand over to the interpreter, and say why that failed.
- `Kernel.host`: the host.
-/

namespace GuardedLaunch.Kernel

/-- Replace the process image, or say why it was not replaced. -/
def exec (handover : Handover) (kernel : Kernel) : Failure × Kernel :=
  let answer := kernel.execve handover.interpreter handover.argv handover.env.block
  (.notExecuted answer.1 (decodeLossy handover.interpreter), answer.2)

/-- A kernel carries out what a launch asks of its host. -/
def host : Host Kernel where
  wipe := clearenv
  normalizeIdentity := normalizeIdentity
  resetSignals := resetSignals
  exec := exec

end GuardedLaunch.Kernel

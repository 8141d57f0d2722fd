import GuardedLaunch.Identity
import GuardedLaunch.Kernel.Fault
import GuardedLaunch.Profile.Basic
import GuardedLaunch.Signal.Set

/-!
# A kernel with faults

The part of a kernel that a launch depends on: the ids, the environment and the
signal state of one process, and the system calls that read and change them. The
calls that set or read back all ids of a kind, and those that change the signal
state, may be struck by a fault. No process image is ever replaced, so that what a
launch does can be followed to its last call.

- `ProcessState`: what the kernel keeps of the process.
- `Syscall`: the calls that change it, as recorded.
- `Kernel`: the process with the faults still to come and the record so far.
- `Kernel.setresuid`, `Kernel.getresuid`, `Kernel.sigmask`, …: the calls.
-/

namespace GuardedLaunch

/-- The three ids that a process has of each kind. -/
structure IdSlots where
  real : Id
  effective : Id
  saved : Id
  deriving DecidableEq

namespace IdSlots

/-- The number that is no id. It asks for a slot to be left alone, and it is
what a reading starts out from. -/
def noId : Id := 0xFFFFFFFF

/-- The same id in every slot. -/
def all (id : Id) : IdSlots := ⟨id, id, id⟩

/-- A slot after an assignment. -/
def assignSlot (old new : Id) : Id :=
  if new = noId then old else new

/-- The slots after an assignment to each of them. -/
def assign (old new : IdSlots) : IdSlots where
  real := assignSlot old.real new.real
  effective := assignSlot old.effective new.effective
  saved := assignSlot old.saved new.saved

end IdSlots

/-- What a kernel keeps of a process. A signal that is neither ignored nor
handled has its default action. -/
structure ProcessState where
  uid : IdSlots
  gid : IdSlots
  env : List Variable
  ignored : SignalSet
  handled : SignalSet
  blocked : SignalSet
  deriving DecidableEq

namespace ProcessState

/-- Give a signal its default action. -/
def withDefault (process : ProcessState) (signal : Nat) : ProcessState :=
  { process with
    ignored := process.ignored.erase signal
    handled := process.handled.erase signal }

end ProcessState

/-- A system call that changes a process, with its arguments. -/
inductive Syscall where
  | clearenv
  | setresgid (ids : IdSlots)
  | setresuid (ids : IdSlots)
  /-- Block these signals and no others. -/
  | sigmask (blocked : SignalSet)
  /-- Give a signal its default action. -/
  | signal (number : Nat)
  | execve (path : Bytes) (argv env : List Bytes)
  deriving DecidableEq

/-- A process in its kernel: the reason for which every replacement of its image
fails, the faults to come, and the calls made so far, oldest first. Calls that
failed or that a fault struck are recorded too. -/
structure Kernel where
  process : ProcessState
  execErrno : Errno
  faults : List Fault
  trace : List Syscall

namespace Kernel

/-- The kernel after a call has been recorded. -/
def record (kernel : Kernel) (call : Syscall) : Kernel :=
  { kernel with trace := kernel.trace ++ [call] }

/-- Ask the faults about a call that answers with a value: they may refuse it or
have it answer `feigned` and change nothing. -/
def attempt {α : Type} (service : Service) (feigned : α)
    (act : ProcessState → α × ProcessState) : EStateM Errno Kernel α := fun kernel =>
  let decision := Fault.consult service kernel.faults
  let asked := { kernel with faults := decision.faults }
  match decision.effect with
  | some (.refuse errno) => .error errno asked
  | some .feign => .ok feigned asked
  | none =>
    let done := act kernel.process
    .ok done.1 { asked with process := done.2 }

/-- A call that reads a value. -/
def reading {α : Type} (service : Service) (feigned : α) (read : ProcessState → α) :
    EStateM Errno Kernel α :=
  attempt service feigned fun process => (read process, process)

/-- A recorded call that changes the process. -/
def changing (service : Service) (call : Syscall) (change : ProcessState → ProcessState) :
    EStateM Errno Kernel Unit := do
  modify (·.record call)
  attempt service () fun process => ((), change process)

/-- Empty the environment. This cannot fail. -/
def clearenv (kernel : Kernel) : Kernel :=
  let kernel := kernel.record .clearenv
  { kernel with process.env := [] }

/-- Set the user ids. -/
def setresuid (ids : IdSlots) : EStateM Errno Kernel Unit :=
  changing .setresuid (.setresuid ids) fun process =>
    { process with uid := process.uid.assign ids }

/-- Set the group ids. -/
def setresgid (ids : IdSlots) : EStateM Errno Kernel Unit :=
  changing .setresgid (.setresgid ids) fun process =>
    { process with gid := process.gid.assign ids }

/-- Read the user ids. A reading that only claims to have happened leaves its
result as it started out. -/
def getresuid : EStateM Errno Kernel IdSlots :=
  reading .getresuid (.all IdSlots.noId) ProcessState.uid

/-- Read the group ids. -/
def getresgid : EStateM Errno Kernel IdSlots :=
  reading .getresgid (.all IdSlots.noId) ProcessState.gid

/-- Block some signals and no others. -/
def sigmask (blocked : SignalSet) : EStateM Errno Kernel Unit :=
  changing .sigmask (.sigmask blocked) fun process => { process with blocked }

/-- Give a signal its default action. -/
def signal (number : Nat) : EStateM Errno Kernel Unit :=
  changing (.signal number) (.signal number) (·.withDefault number)

/-- Ask for another process image, and be told why there is none. -/
def execve (path : Bytes) (argv env : List Bytes) (kernel : Kernel) : Errno × Kernel :=
  (kernel.execErrno, kernel.record (.execve path argv env))

end Kernel

end GuardedLaunch

import GuardedLaunch.Answer
import GuardedLaunch.Kernel.Host
import GuardedLaunch.Launch

/-!
# Histories of a kernel

A process may perform the parts of a launch one by one, in any order and as often
as it likes, and the kernel may be rearranged in between. A history is such a
sequence, and its reports say what each step gave back, what it reported, which
calls it made and what it left.

- `Kernel.Step`, `Kernel.perform`: one part of a launch on its own.
- `Kernel.Settings`, `Kernel.configure`: rearranging the kernel.
- `Kernel.Instruction`, `Kernel.history`: sequences of both.
-/

namespace GuardedLaunch.Kernel

/-- A part of a launch, or a whole one. -/
inductive Step where
  /-- Look at the ids. -/
  | current
  /-- Make the effective ids the only ids. -/
  | normalizeIdentity
  /-- Clean the signal state. -/
  | resetSignals
  /-- Throw the environment away. -/
  | wipe
  /-- Throw the environment away and build the one of a profile. -/
  | sanitize (profile : Profile)
  /-- Hand a command line over at once, without asking whether it is permitted. -/
  | exec (profile : Profile) (argv : List Bytes)
  /-- A whole launch. -/
  | run (profile : Profile) (argv : List Bytes)

/-- Prepare a command line for the interpreter, its arguments before its
environment, and hand it over. -/
def execUnchecked (profile : Profile) (argv : List Bytes) (kernel : Kernel) :
    Failure × Kernel :=
  match profile.interpreterArgv argv with
  | .error failure => (failure, kernel)
  | .ok argv =>
    match Environment.ofProfile profile with
    | .error failure => (failure, kernel)
    | .ok env => kernel.exec { interpreter := utf8 profile.interpreter, argv, env }

/-- What a step comes to: its answer, its events and the kernel it leaves. -/
structure Completed where
  answer : Answer
  events : List Event
  kernel : Kernel

/-- A step without events that may fail. -/
def Completed.ofResult {α : Type} (report : α → Answer) :
    EStateM.Result Failure Kernel α → Completed
  | .ok value kernel => ⟨report value, [], kernel⟩
  | .error failure kernel => ⟨.failed failure, [], kernel⟩

/-- Carry out a step. -/
def carryOut (kernel : Kernel) : Step → Completed
  | .current => ⟨.identity kernel.identity, [], kernel⟩
  | .normalizeIdentity => .ofResult .identity (Kernel.normalizeIdentity kernel)
  | .resetSignals => .ofResult (fun () => .passed) (Kernel.resetSignals kernel)
  | .wipe => ⟨.passed, [], kernel.clearenv⟩
  | .sanitize profile =>
    let sanitized := GuardedLaunch.sanitize host profile kernel
    ⟨.ofExcept .environment sanitized.1, [], sanitized.2⟩
  | .exec profile argv =>
    let answer := kernel.execUnchecked profile argv
    ⟨.failed answer.1, [], answer.2⟩
  | .run profile argv =>
    let outcome := GuardedLaunch.run host profile argv kernel
    ⟨.failed outcome.failure, outcome.events, outcome.state⟩

/-- What a step did. -/
structure Report where
  answer : Answer
  events : List Event
  trace : List Syscall
  process : ProcessState

/-- Perform a step, starting the record of calls afresh. -/
def perform (kernel : Kernel) (step : Step) : Report × Kernel :=
  let completed := { kernel with trace := [] }.carryOut step
  ({ answer := completed.answer
     events := completed.events
     trace := completed.kernel.trace
     process := completed.kernel.process },
   completed.kernel)

/-- A rearrangement of a kernel: what is given is replaced, the rest is kept. -/
structure Settings where
  uid : Option IdSlots := none
  gid : Option IdSlots := none
  env : Option (List Variable) := none
  ignored : Option SignalSet := none
  handled : Option SignalSet := none
  blocked : Option SignalSet := none
  execErrno : Option Errno := none
  faults : Option (List Fault) := none

/-- The kernel after a rearrangement. -/
def configure (kernel : Kernel) (settings : Settings) : Kernel where
  process :=
    { uid := settings.uid.getD kernel.process.uid
      gid := settings.gid.getD kernel.process.gid
      env := settings.env.getD kernel.process.env
      ignored := settings.ignored.getD kernel.process.ignored
      handled := settings.handled.getD kernel.process.handled
      blocked := settings.blocked.getD kernel.process.blocked }
  execErrno := settings.execErrno.getD kernel.execErrno
  faults := settings.faults.getD kernel.faults
  trace := kernel.trace

/-- A kernel before any history: a process of the superuser with an empty
environment and every signal at its default, and no faults. Its interpreter
cannot be found. -/
def initial : Kernel where
  process :=
    { uid := .all 0, gid := .all 0, env := [], ignored := ∅, handled := ∅, blocked := ∅ }
  execErrno := ⟨2⟩
  faults := []
  trace := []

/-- One entry of a history. -/
inductive Instruction where
  | configure (settings : Settings)
  | perform (step : Step)

/-- What an instruction shows: the report of a step, or the process as it is
after a rearrangement. -/
inductive Entry where
  | configured (process : ProcessState)
  | performed (report : Report)

/-- Follow one instruction. -/
def follow (kernel : Kernel) : Instruction → Entry × Kernel
  | .configure settings =>
    let configured := kernel.configure settings
    (.configured configured.process, configured)
  | .perform step =>
    let performed := kernel.perform step
    (.performed performed.1, performed.2)

/-- What the instructions of a history show, in order, and the kernel after the
last. -/
def history (kernel : Kernel) : List Instruction → List Entry × Kernel
  | [] => ([], kernel)
  | instruction :: rest =>
    let followed := kernel.follow instruction
    let entries := followed.2.history rest
    (followed.1 :: entries.1, entries.2)

end GuardedLaunch.Kernel

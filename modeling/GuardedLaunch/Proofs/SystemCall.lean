import GuardedLaunch.Kernel.Basic
import GuardedLaunch.Proofs.Verdict

/-!
# One system call at a time

Every call that a fault can strike asks the faults first. Which kernel it leaves does
not depend on whether it was refused: a refused call and a feigned one are recorded
alike and change nothing. A sequence of calls is therefore followed by its kernels
alone, and its answers are read off the faults.

- `Kernel.effect`, `Kernel.Answers`: what the faults decide about the next call.
- `Kernel.called`, `Kernel.asked`: the kernel that a recorded call and a reading leave.
- `changing_of_answers`, `reading_of_answers`, …: the calls, one equation per answer.
- `bind_of_ok`, `bind_of_error`, …: the steps by which sequences are followed.
- `Kernel.left`: the kernel that a computation leaves, whether or not it succeeded.
-/

namespace GuardedLaunch

/-! ## Sequences -/

section Sequences

variable {ε ε' σ α β : Type} {state after : σ}

theorem bind_of_ok {x : EStateM ε σ α} {f : α → EStateM ε σ β} {a : α}
    (h : x state = .ok a after) : (x >>= f) state = f a after := by
  show EStateM.bind x f state = f a after
  rw [EStateM.bind, h]

theorem bind_of_error {x : EStateM ε σ α} {f : α → EStateM ε σ β} {e : ε}
    (h : x state = .error e after) : (x >>= f) state = .error e after := by
  show EStateM.bind x f state = .error e after
  rw [EStateM.bind, h]

theorem adaptExcept_of_ok {x : EStateM ε σ α} {a : α} (f : ε → ε')
    (h : x state = .ok a after) : x.adaptExcept f state = .ok a after := by
  rw [EStateM.adaptExcept, h]

theorem adaptExcept_of_error {x : EStateM ε σ α} {e : ε} (f : ε → ε')
    (h : x state = .error e after) : x.adaptExcept f state = .error (f e) after := by
  rw [EStateM.adaptExcept, h]

end Sequences

namespace Kernel

/-- The kernel that a computation leaves. A failure takes nothing back. -/
def left {ε α : Type} : EStateM.Result ε Kernel α → Kernel
  | .ok _ after => after
  | .error _ after => after

/-! ## Decisions about the next call -/

/-- What the faults decide about a call that is made now. -/
def effect (kernel : Kernel) (service : Service) : Option Fault.Effect :=
  (Fault.consult service kernel.faults).effect

/-- A call that is made now is not refused. It may still be feigned. -/
def Answers (kernel : Kernel) (service : Service) : Prop :=
  ∀ cause, kernel.effect service ≠ some (.refuse cause)

theorem refuses_or_answers (kernel : Kernel) (service : Service) :
    (∃ cause, kernel.effect service = some (.refuse cause)) ∨ kernel.Answers service := by
  by_cases h : ∃ cause, kernel.effect service = some (.refuse cause)
  · exact Or.inl h
  · exact Or.inr fun cause struck => h ⟨cause, struck⟩

/-- A call that is neither refused nor feigned is not struck at all. -/
theorem effect_eq_none {kernel : Kernel} {service : Service} (answers : kernel.Answers service)
    (h : kernel.effect service ≠ some .feign) : kernel.effect service = none :=
  Fault.spared_of_answered answers h

/-! ## The kernel that a call leaves -/

/-- The kernel once the faults have been asked about a call. -/
def asked (kernel : Kernel) (service : Service) : Kernel :=
  { kernel with faults := (Fault.consult service kernel.faults).faults }

/-- The kernel that a recorded call leaves. A call that is struck changes nothing. -/
def called (kernel : Kernel) (service : Service) (call : Syscall)
    (change : ProcessState → ProcessState) : Kernel :=
  { (kernel.record call).asked service with
    process :=
      if kernel.effect service = none then change kernel.process else kernel.process }

/-- What a reading answers if it is not refused. -/
def found {α : Type} (kernel : Kernel) (service : Service) (feigned : α)
    (read : ProcessState → α) : α :=
  if kernel.effect service = some .feign then feigned else read kernel.process

section

variable (kernel : Kernel) (service : Service) (call : Syscall)
  (change : ProcessState → ProcessState)

theorem called_process :
    (kernel.called service call change).process
      = if kernel.effect service = none then change kernel.process else kernel.process := rfl

@[simp] theorem called_trace :
    (kernel.called service call change).trace = kernel.trace ++ [call] := rfl

end

/-! ## The answer of a call -/

theorem attempt_of_refuse {α : Type} {kernel : Kernel} {service : Service} {cause : Errno}
    (feigned : α) (act : ProcessState → α × ProcessState)
    (struck : kernel.effect service = some (.refuse cause)) :
    attempt service feigned act kernel = .error cause (kernel.asked service) := by
  rw [effect] at struck
  simp only [attempt, struck]
  rfl

theorem attempt_of_feign {α : Type} {kernel : Kernel} {service : Service} (feigned : α)
    (act : ProcessState → α × ProcessState) (struck : kernel.effect service = some .feign) :
    attempt service feigned act kernel = .ok feigned (kernel.asked service) := by
  rw [effect] at struck
  simp only [attempt, struck]
  rfl

theorem attempt_of_none {α : Type} {kernel : Kernel} {service : Service} (feigned : α)
    (act : ProcessState → α × ProcessState) (spared : kernel.effect service = none) :
    attempt service feigned act kernel
      = .ok (act kernel.process).1
          { kernel.asked service with process := (act kernel.process).2 } := by
  rw [effect] at spared
  simp only [attempt, spared]
  rfl

theorem reading_of_refuse {α : Type} {kernel : Kernel} {service : Service} {cause : Errno}
    (feigned : α) (read : ProcessState → α)
    (struck : kernel.effect service = some (.refuse cause)) :
    reading service feigned read kernel = .error cause (kernel.asked service) :=
  attempt_of_refuse feigned _ struck

theorem reading_of_answers {α : Type} {kernel : Kernel} {service : Service} (feigned : α)
    (read : ProcessState → α) (answers : kernel.Answers service) :
    reading service feigned read kernel
      = .ok (kernel.found service feigned read) (kernel.asked service) := by
  by_cases h : kernel.effect service = some .feign
  · rw [found, if_pos h]
    exact attempt_of_feign feigned _ h
  · rw [found, if_neg h]
    exact attempt_of_none feigned _ (effect_eq_none answers h)

/-- A recorded call enters the record before the faults are asked. -/
theorem changing_apply (kernel : Kernel) (service : Service) (call : Syscall)
    (change : ProcessState → ProcessState) :
    changing service call change kernel
      = attempt service () (fun process => ((), change process)) (kernel.record call) := rfl

theorem changing_of_refuse {kernel : Kernel} {service : Service} {cause : Errno}
    (call : Syscall) (change : ProcessState → ProcessState)
    (struck : kernel.effect service = some (.refuse cause)) :
    changing service call change kernel
      = .error cause (kernel.called service call change) := by
  have hne : kernel.effect service ≠ none := by
    rw [struck]
    exact Option.some_ne_none _
  rw [called, if_neg hne, changing_apply]
  exact attempt_of_refuse () _ struck

theorem changing_of_answers {kernel : Kernel} {service : Service} (call : Syscall)
    (change : ProcessState → ProcessState) (answers : kernel.Answers service) :
    changing service call change kernel
      = .ok () (kernel.called service call change) := by
  rw [changing_apply]
  by_cases h : kernel.effect service = some .feign
  · have hne : kernel.effect service ≠ none := by
      rw [h]
      exact Option.some_ne_none _
    rw [called, if_neg hne]
    exact attempt_of_feign () _ h
  · have hnone := effect_eq_none answers h
    rw [called, if_pos hnone]
    exact attempt_of_none () _ hnone

end Kernel

end GuardedLaunch

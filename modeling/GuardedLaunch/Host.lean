import GuardedLaunch.CommandLine
import GuardedLaunch.Identity

/-!
# Hosts

A launch acts on the process it runs in through four operations and in no other
way. A host is any implementation of them over a state of its own, so that what
a launch asks for can be stated for every host at once.

- `Host`: the four operations.
- `Request`, `Host.observed`: a host that keeps a record of what it was asked.
- `Replies`, `Host.scripted`: a host that gives prepared answers.
-/

namespace GuardedLaunch

/-- The operations on the process that a launch performs. -/
structure Host (σ : Type) where
  /-- Throw the inherited environment away. -/
  wipe : σ → σ
  /-- Make the effective ids the only ids. The answer is the identity that was
  seen before the change. -/
  normalizeIdentity : EStateM Failure σ Identity
  /-- Unblock every signal and give each its default action. -/
  resetSignals : EStateM Failure σ Unit
  /-- Replace the process image. There is an answer only if that failed. -/
  exec : Handover → σ → Failure × σ

/-- What a host can be asked. -/
inductive Request where
  | wipe
  | normalizeIdentity
  | resetSignals
  | exec (handover : Handover)
  deriving DecidableEq

/-- A state together with the requests made so far, oldest first. -/
structure Observed (σ : Type) where
  requests : List Request
  state : σ

namespace Observed

variable {σ : Type}

/-- A state before any request. -/
def fresh (state : σ) : Observed σ := ⟨[], state⟩

/-- Record a request and move to the state it leads to. -/
def after (o : Observed σ) (request : Request) (state : σ) : Observed σ :=
  ⟨o.requests ++ [request], state⟩

end Observed

namespace Host

/-- The same host with a record of what it is asked. -/
def observed {σ : Type} (host : Host σ) : Host (Observed σ) where
  wipe o := o.after .wipe (host.wipe o.state)
  normalizeIdentity o :=
    match host.normalizeIdentity o.state with
    | .ok before state => .ok before (o.after .normalizeIdentity state)
    | .error failure state => .error failure (o.after .normalizeIdentity state)
  resetSignals o :=
    match host.resetSignals o.state with
    | .ok () state => .ok () (o.after .resetSignals state)
    | .error failure state => .error failure (o.after .resetSignals state)
  exec handover o :=
    let answer := host.exec handover o.state
    (answer.1, o.after (.exec handover) answer.2)

end Host

/-- The answers of a host that only plays a part. -/
structure Replies where
  identity : Except Failure Identity
  signals : Except Failure Unit
  exec : Failure

/-- The host that gives prepared answers and changes nothing. -/
def Host.scripted : Host Replies where
  wipe replies := replies
  normalizeIdentity replies :=
    match replies.identity with
    | .ok before => .ok before replies
    | .error failure => .error failure replies
  resetSignals replies :=
    match replies.signals with
    | .ok () => .ok () replies
    | .error failure => .error failure replies
  exec _ replies := (replies.exec, replies)

end GuardedLaunch

import GuardedLaunch.Event
import GuardedLaunch.Host

/-!
# Launching

A launch throws the inherited environment away, checks the profile and the
command line, builds everything the interpreter needs, and only then touches the
ids and the signals of the process and hands over. The first step that fails
ends it, and nothing later is attempted.

- `sanitize`: from the inherited environment to the profile's own.
- `launch`: from a command line to the interpreter.
- `run`: both, one after the other.
- `Outcome`: what is left if the interpreter could not be started.
-/

namespace GuardedLaunch

variable {σ : Type}

/-- What a launch that did not start the interpreter leaves behind. A launch
that started it leaves nothing, for the process is no longer its own. -/
structure Outcome (σ : Type) where
  failure : Failure
  events : List Event
  state : σ

/-- Throw the inherited environment away, then build the one that the profile
describes. The inherited environment is gone even if the profile is unusable. -/
def sanitize (host : Host σ) (profile : Profile) (state : σ) :
    Except Failure Environment × σ :=
  (Environment.ofValidated profile, host.wipe state)

/-- Check a command line and hand it to the interpreter in the given
environment. -/
def launch (host : Host σ) (profile : Profile) (env : Environment) (argv : List Bytes)
    (state : σ) : Outcome σ :=
  let sanitized := Event.sanitized env.names
  match profile.authorize argv with
  | .error failure => ⟨failure, [sanitized, .rejected failure], state⟩
  | .ok () =>
    match profile.handover env argv with
    | .error failure => ⟨failure, [sanitized], state⟩
    | .ok handover =>
      let validated := Event.validated handover.argv.length
      match host.normalizeIdentity state with
      | .error failure state => ⟨failure, [sanitized, validated], state⟩
      | .ok before state =>
        let events := [sanitized, validated, .normalized before]
        match host.resetSignals state with
        | .error failure state => ⟨failure, events, state⟩
        | .ok () state =>
          let answer := host.exec handover state
          ⟨answer.1, events, answer.2⟩

/-- The whole launch. -/
def run (host : Host σ) (profile : Profile) (argv : List Bytes) (state : σ) : Outcome σ :=
  let sanitized := sanitize host profile state
  match sanitized.1 with
  | .error failure => ⟨failure, [], sanitized.2⟩
  | .ok env => launch host profile env argv sanitized.2

end GuardedLaunch

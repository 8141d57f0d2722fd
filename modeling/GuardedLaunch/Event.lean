import GuardedLaunch.Failure
import GuardedLaunch.Identity
import GuardedLaunch.Text.Quoted

/-!
# Events

A launch reports how far it has got. An event carries names, counts and ids, and
never the value of a variable.

- `Stage`: the stages of a launch.
- `Level`: how important an event is.
- `Event`: what is reported; `Event.level`, `Event.message?` and `Event.fields`
  say how.
-/

namespace GuardedLaunch

/-- How far a launch has got. A stage is left only for the next one, for the
interpreter or for a failure. -/
inductive Stage where
  | envSanitized
  | argsValidated
  | identityNormalized
  deriving DecidableEq

namespace Stage

/-- The stages in the order in which a launch reaches them. -/
def all : List Stage :=
  [.envSanitized, .argsValidated, .identityNormalized]

/-- The name of a stage. -/
def text : Stage → String
  | .envSanitized => "env-sanitized"
  | .argsValidated => "args-validated"
  | .identityNormalized => "identity-normalized"

end Stage

/-- The importance of an event. -/
inductive Level where
  | debug
  | warn
  deriving DecidableEq

namespace Level

/-- The name of a level. -/
def text : Level → String
  | .debug => "DEBUG"
  | .warn => "WARN"

/-- Whether events of a level are shown where `least` is the least important
level that is. -/
def shownFrom (level least : Level) : Bool :=
  least == .debug || level == .warn

end Level

/-- What a launch reports. -/
inductive Event where
  /-- The environment has been rebuilt and holds variables of these names. -/
  | sanitized (names : List String)
  /-- The command line was refused. -/
  | rejected (failure : Failure)
  /-- The interpreter will be given this many arguments, slot 0 included. -/
  | validated (argc : Nat)
  /-- The effective ids are the only ids; before, they were these. -/
  | normalized (before : Identity)
  deriving DecidableEq

namespace Event

/-- Only a refusal is more than a note on progress. -/
def level : Event → Level
  | rejected _ => .warn
  | _ => .debug

/-- The stage in which an event falls. -/
def stage : Event → Stage
  | sanitized _ | rejected _ => .envSanitized
  | validated _ => .argsValidated
  | normalized _ => .identityNormalized

/-- The text of an event that has one. -/
def message? : Event → Option String
  | rejected failure => some ("rejected: " ++ failure.message)
  | _ => none

/-- What an event says besides its stage. -/
def details : Event → List (String × String)
  | sanitized names => [("vars", quotedList names)]
  | rejected _ => []
  | validated argc => [("argc", toString argc)]
  | normalized before =>
    [("was_split", if before.isSplit then "true" else "false"),
     ("uid", toString before.effectiveUid),
     ("gid", toString before.effectiveGid)]

/-- The named values of an event, in the order in which they are written. -/
def fields (event : Event) : List (String × String) :=
  ("stage", event.stage.text) :: event.details

end Event

end GuardedLaunch

import GuardedLaunch.Environment

/-!
# Command lines

The caller's command line, slot 0 included, decides whether anything is run and
supplies the arguments of what is run. Only slot 1 is ever looked at to decide;
slot 0, which a caller may set to anything, is replaced.

- `Profile.authorize`: whether a command line names a permitted script.
- `Profile.interpreterArgv`: the argument list of the interpreter.
- `Handover`, `Profile.handover`: all that replacing the process image needs,
  built in full before any privileged step.
-/

namespace GuardedLaunch

/-- Everything that the system is given when the process image is replaced. -/
structure Handover where
  interpreter : Bytes
  argv : List Bytes
  env : Environment
  deriving DecidableEq

namespace Profile

/-- The gate on a command line: it has a slot 1, and that slot is a permitted
script. -/
def authorize (profile : Profile) : List Bytes → Except Failure Unit
  | _ :: script :: _ =>
    if profile.Permits script then .ok ()
    else .error (.scriptNotPermitted (decodeLossy script))
  | _ => .error .scriptMissing

/-- The path of the interpreter as the system takes it. -/
def interpreterBytes (profile : Profile) : Except Failure Bytes :=
  if hasNul profile.interpreter then
    .error (Violation.interpreterHasNul profile.interpreter).failure
  else .ok (utf8 profile.interpreter)

/-- An argument that holds a NUL byte cannot be passed on; `slot` is where it
stands. -/
def argumentFailure (slot : Nat) : Failure :=
  .notExecuted .invalidArgument s!"argument {slot}"

/-- The argument list of the interpreter: slot 0 is the interpreter, and every
other slot is the caller's, byte for byte. -/
def interpreterArgv (profile : Profile) (argv : List Bytes) : Except Failure (List Bytes) :=
  match profile.interpreterBytes with
  | .error failure => .error failure
  | .ok interpreter =>
    match argv.tail.findIdx? (·.contains 0) with
    | some index => .error (argumentFailure (index + 1))
    | none => .ok (interpreter :: argv.tail)

/-- What the system is given to run the interpreter on a command line. -/
def handover (profile : Profile) (env : Environment) (argv : List Bytes) :
    Except Failure Handover :=
  match profile.interpreterBytes with
  | .error failure => .error failure
  | .ok interpreter =>
    match profile.interpreterArgv argv with
    | .error failure => .error failure
    | .ok argv => .ok { interpreter, argv, env }

end Profile

end GuardedLaunch

import GuardedLaunch.Profile.Validation

/-!
# The environment of the interpreter

The environment is built from a profile alone, so neither its contents nor its
size depend on what was inherited.

- `Environment`: the entries, each `name=value`.
- `Environment.ofProfile`, `Environment.ofValidated`: how one is built, without and
  with a validation of the profile.
- `Environment.names`: what may be logged of it.
- `Environment.block`: the byte strings handed to the system.
-/

namespace GuardedLaunch

/-- The environment handed to the interpreter: its entries in the order of the
profile's variables. -/
structure Environment where
  entries : List String
  deriving DecidableEq

/-- A variable as the system writes it. -/
def Variable.entry (var : Variable) : String :=
  var.name ++ "=" ++ var.value

/-- Whether a variable holds a NUL, which keeps it from being passed to the
system. -/
def Variable.hasNul (var : Variable) : Bool :=
  GuardedLaunch.hasNul var.name || GuardedLaunch.hasNul var.value

namespace Environment

/-- The environment that a profile describes. The first variable that cannot be
passed on is reported by name. -/
def ofProfile (profile : Profile) : Except Failure Environment :=
  match profile.env.find? Variable.hasNul with
  | some var => .error (Violation.valueHasNul var.name).failure
  | none => .ok ⟨profile.env.map Variable.entry⟩

/-- The environment of a profile that is fit for use. -/
def ofValidated (profile : Profile) : Except Failure Environment :=
  match profile.validate with
  | .error failure => .error failure
  | .ok () => ofProfile profile

/-- The part of an entry before its first equals sign. -/
def entryName (entry : String) : String :=
  String.ofList (entry.toList.takeWhile (· ≠ '='))

/-- The names of the variables, without their values. -/
def names (env : Environment) : List String :=
  env.entries.map entryName

/-- The entries as byte strings. -/
def block (env : Environment) : List Bytes :=
  env.entries.map utf8

end Environment

end GuardedLaunch

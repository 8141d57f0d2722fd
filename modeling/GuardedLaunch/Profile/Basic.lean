import GuardedLaunch.Text.Utf8

/-!
# Profiles

A profile is the one privileged action that a launcher can perform: run a
permitted script under one interpreter, in an environment that holds the
profile's variables and nothing else. A profile is part of the program; nothing
that a caller passes can change it.

- `Variable`, `Profile`: the data.
- `Profile.Permits`: which byte strings name a permitted script.
- `hasNul`: texts that the system cannot take as a string.
-/

namespace GuardedLaunch

/-- An environment variable with its value. -/
structure Variable where
  name : String
  value : String
  deriving DecidableEq

/-- The interpreter, the scripts it may run, and the variables it sees. -/
structure Profile where
  interpreter : String
  scripts : List String
  env : List Variable
  deriving DecidableEq

/-- Whether a text holds the character that ends every string of the system. -/
def hasNul (text : String) : Bool :=
  text.toList.contains '\x00'

/-- A byte string names a permitted script when it is one, byte for byte:
nothing is trimmed, folded or resolved. -/
def Profile.Permits (profile : Profile) (candidate : Bytes) : Prop :=
  ∃ script ∈ profile.scripts, utf8 script = candidate

instance (profile : Profile) (candidate : Bytes) : Decidable (profile.Permits candidate) :=
  inferInstanceAs (Decidable (∃ script ∈ profile.scripts, utf8 script = candidate))

end GuardedLaunch

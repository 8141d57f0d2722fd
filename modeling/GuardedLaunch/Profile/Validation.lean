import GuardedLaunch.Failure
import GuardedLaunch.Profile.Basic
import GuardedLaunch.Text.Quoted

/-!
# Validation of profiles

Every profile has to satisfy a few rules before it is put to use. The checks run
in a fixed order, interpreter, scripts, variables from the first to the last, and
the first rule that is broken is the one reported.

- `Violation`: a broken rule, and its text.
- `Profile.violation?`: the first broken rule.
- `Profile.validate`: the verdict on a profile.
- `Profile.WellFormed`: the rules themselves, in no order.
-/

namespace GuardedLaunch

/-- A rule that a profile breaks. -/
inductive Violation where
  | interpreterNotAbsolute (path : String)
  | interpreterHasNul (path : String)
  | noScripts
  | scriptNotAbsolute (path : String)
  | invalidName (name : String)
  | valueHasNul (name : String)
  | repeatedName (name : String)
  deriving DecidableEq

namespace Violation

/-- The text of a broken rule. Paths and rejected names are quoted; a name that
stands bare has passed the check on names wherever a whole profile is
validated. -/
def message : Violation → String
  | interpreterNotAbsolute path =>
    "interpreter " ++ quoted path ++ " is not an absolute path"
  | interpreterHasNul path => "interpreter " ++ quoted path ++ " contains NUL"
  | noScripts => "no permitted scripts"
  | scriptNotAbsolute path => "script " ++ quoted path ++ " is not an absolute path"
  | invalidName name => "invalid environment variable name " ++ quoted name
  | valueHasNul name => "value of " ++ name ++ " contains NUL"
  | repeatedName name => name ++ " listed twice"

/-- A broken rule as the failure that ends a launch. -/
def failure (violation : Violation) : Failure :=
  .profileUnusable violation.message

end Violation

/-- Whether a text is the path of a file from the root on, in a form that the
system can take. -/
def isAbsolutePath (path : String) : Bool :=
  path.toList.head? == some '/' && !hasNul path

/-- Whether a character may begin the name of a variable. -/
def isNameStart (c : Char) : Bool :=
  c.isAlpha || c == '_'

/-- Whether a character may stand in the name of a variable after the first. -/
def isNameRest (c : Char) : Bool :=
  c.isAlphanum || c == '_'

/-- Whether a text is the name of a variable: a letter or underscore, then
letters, digits and underscores, all of them ASCII. -/
def isVariableName (name : String) : Bool :=
  match name.toList with
  | [] => false
  | c :: rest => isNameStart c && rest.all isNameRest

/-- The rule that a variable breaks, given the names listed before it. -/
def Variable.violation? (var : Variable) (earlier : List String) : Option Violation :=
  if !isVariableName var.name then some (.invalidName var.name)
  else if hasNul var.value then some (.valueHasNul var.name)
  else if var.name ∈ earlier then some (.repeatedName var.name)
  else none

/-- The first rule that a list of variables breaks, given the names listed
before it. -/
def envViolation? (earlier : List String) : List Variable → Option Violation
  | [] => none
  | var :: rest =>
    match var.violation? earlier with
    | some violation => some violation
    | none => envViolation? (var.name :: earlier) rest

namespace Profile

/-- The first rule that a profile breaks. -/
def violation? (profile : Profile) : Option Violation :=
  if !isAbsolutePath profile.interpreter then
    some (.interpreterNotAbsolute profile.interpreter)
  else if profile.scripts.isEmpty then some .noScripts
  else
    match profile.scripts.find? (!isAbsolutePath ·) with
    | some script => some (.scriptNotAbsolute script)
    | none => envViolation? [] profile.env

/-- The verdict on a profile. -/
def validate (profile : Profile) : Except Failure Unit :=
  match profile.violation? with
  | some violation => .error violation.failure
  | none => .ok ()

end Profile

/-! ## The rules -/

/-- A path from the root on: it begins with a slash and holds no NUL. -/
def AbsolutePath (path : String) : Prop :=
  (∃ rest, path.toList = '/' :: rest) ∧ '\x00' ∉ path.toList

/-- A letter or an underscore, ASCII only. -/
def NameStart (c : Char) : Prop :=
  ('A' ≤ c ∧ c ≤ 'Z') ∨ ('a' ≤ c ∧ c ≤ 'z') ∨ c = '_'

/-- The name of a variable: a letter or underscore, then letters, digits and
underscores. -/
def VariableName (name : String) : Prop :=
  ∃ first rest, name.toList = first :: rest ∧ NameStart first ∧
    ∀ c ∈ rest, NameStart c ∨ ('0' ≤ c ∧ c ≤ '9')

/-- The rules for profiles. -/
structure Profile.WellFormed (profile : Profile) : Prop where
  interpreter : AbsolutePath profile.interpreter
  scripts_nonempty : profile.scripts ≠ []
  scripts : ∀ script ∈ profile.scripts, AbsolutePath script
  names : ∀ entry ∈ profile.env, VariableName entry.name
  values : ∀ entry ∈ profile.env, '\x00' ∉ entry.value.toList
  distinct : (profile.env.map Variable.name).Nodup

end GuardedLaunch

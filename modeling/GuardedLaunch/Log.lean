import GuardedLaunch.Event

/-!
# The log

Events are written to standard error, one line each: the level in a column of
its own, the message if there is one, then the fields. A message may hold what a
caller passed, so the characters that would make a terminal act on it are
written out as escapes; fields are quoted where they need to be and are written
as they are.

- `Log.inert`: the written form of a character of a message.
- `Log.line`: the line of an event.
- `Log.text`: the lines of the events from some level on.
-/

namespace GuardedLaunch.Log

/-- An escape that names a character by two hexadecimal digits. -/
def byteEscape (c : Char) : List Char :=
  let digits := hexDigits c.toNat
  ['\\', 'x'] ++ List.replicate (2 - digits.length) '0' ++ digits

/-- The form in which a character of a message is written: the controls that a
terminal would act on are escaped, every other character stands for itself. -/
def inert (c : Char) : List Char :=
  if c ∈ ['\x07', '\x08', '\x0c', '\x1b', '\x7f'] then byteEscape c
  else if 0x80 ≤ c.toNat ∧ c.toNat ≤ 0x9F then codePointEscape c
  else [c]

/-- A message as it is written. -/
def inertText (message : String) : String :=
  String.ofList (message.toList.flatMap inert)

/-- The name of a level, right-aligned in five columns. -/
def levelColumn (level : Level) : String :=
  String.ofList (List.replicate (5 - level.text.length) ' ') ++ level.text

/-- The parts of an event that follow its level. -/
def items (event : Event) : List String :=
  (event.message?.map inertText).toList ++
    event.fields.map fun (name, value) => name ++ "=" ++ value

/-- The line of an event, with its line feed. -/
def line (event : Event) : String :=
  " ".intercalate (levelColumn event.level :: items event) ++ "\n"

/-- What a log that shows events from a level on holds after some events. -/
def text (least : Level) (events : List Event) : String :=
  String.join ((events.filter (·.level.shownFrom least)).map line)

end GuardedLaunch.Log

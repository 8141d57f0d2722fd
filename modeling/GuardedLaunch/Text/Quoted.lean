import GuardedLaunch.Text.Printable

/-!
# Quoted text

Text from a profile or a caller is written between double quotes in
diagnostics and log fields, with everything escaped that would not show as
itself. A quoted text is therefore always one line of visible characters.

- `Quoted.escaped`: the written form of one character.
- `quoted`: a text between quotes.
- `quotedList`: a bracketed list of quoted texts.
-/

namespace GuardedLaunch

/-- The lower-case hexadecimal digits of a number, without leading zeros. -/
def hexDigits (n : Nat) : List Char :=
  Nat.toDigits 16 n

/-- The escape that names a character by its code point in braces. -/
def codePointEscape (c : Char) : List Char :=
  ['\\', 'u', '\x7b'] ++ hexDigits c.toNat ++ ['\x7d']

namespace Quoted

/-- The written form of a character between double quotes. Six characters have
short escapes; whatever else is not printable, or would merge with the
character before it, is named by its code point. -/
def escaped (c : Char) : List Char :=
  if c = '\x00' then ['\\', '0']
  else if c = '\t' then ['\\', 't']
  else if c = '\r' then ['\\', 'r']
  else if c = '\n' then ['\\', 'n']
  else if c = '"' then ['\\', '"']
  else if c = '\\' then ['\\', '\\']
  else if Unicode.isExtending c || !Unicode.isPrintable c then codePointEscape c
  else [c]

end Quoted

/-- A text between double quotes, with its characters escaped. -/
def quoted (text : String) : String :=
  String.ofList ('"' :: text.toList.flatMap Quoted.escaped ++ ['"'])

/-- A list of texts, each quoted, between brackets and separated by commas. -/
def quotedList (texts : List String) : String :=
  "[" ++ ", ".intercalate (texts.map quoted) ++ "]"

end GuardedLaunch

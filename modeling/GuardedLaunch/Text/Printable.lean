import GuardedLaunch.Text.Extending
import GuardedLaunch.Text.Unassigned

/-!
# Printable characters

Which characters may stand as they are in a diagnostic. A character is
printable when it shows as a mark of its own or as an ordinary space: controls,
separators, format characters, fillers, private use and unassigned code points are
not.

- `inRanges`: membership in a table of closed ranges.
- `isPrintable`: the class, over the tables of its exceptions.
- `isExtending`: characters that merge with the one before them.
-/

namespace GuardedLaunch.Unicode

/-- Whether a code point lies in one of the closed ranges. -/
def inRanges (ranges : List (Nat × Nat)) (c : Char) : Bool :=
  ranges.any fun (first, last) => first ≤ c.toNat ∧ c.toNat ≤ last

/-- The control characters U+0000–U+001F and U+007F–U+009F. -/
def control : List (Nat × Nat) :=
  [(0x0, 0x1F), (0x7F, 0x9F)]

/-- Spaces other than U+0020, and the line and paragraph separators. -/
def separator : List (Nat × Nat) :=
  [(0xA0, 0xA0), (0x1680, 0x1680), (0x2000, 0x200A), (0x2028, 0x2029), (0x202F, 0x202F),
   (0x205F, 0x205F), (0x3000, 0x3000)]

/-- Format characters, which have no shape of their own. -/
def format : List (Nat × Nat) :=
  [(0xAD, 0xAD), (0x600, 0x605), (0x61C, 0x61C), (0x6DD, 0x6DD), (0x70F, 0x70F), (0x890, 0x891),
   (0x8E2, 0x8E2), (0x180E, 0x180E), (0x200B, 0x200F), (0x202A, 0x202E), (0x2060, 0x2064),
   (0x2066, 0x206F), (0xFEFF, 0xFEFF), (0xFFF9, 0xFFFB), (0x110BD, 0x110BD),
   (0x110CD, 0x110CD), (0x13430, 0x1343F), (0x1BCA0, 0x1BCA3), (0x1D173, 0x1D17A),
   (0xE0001, 0xE0001), (0xE0020, 0xE007F)]

/-- Letters that fill the place of a missing part of a syllable and have no shape
of their own. They are the only letters among the code points that a display may
ignore. -/
def filler : List (Nat × Nat) :=
  [(0x115F, 0x1160), (0x3164, 0x3164), (0xFFA0, 0xFFA0)]

/-- Code points set aside for private use. -/
def privateUse : List (Nat × Nat) :=
  [(0xE000, 0xF8FF), (0xF0000, 0xFFFFD), (0x100000, 0x10FFFD)]

/-- Whether a character shows as a mark of its own or as the ordinary space. -/
def isPrintable (c : Char) : Bool :=
  [control, separator, format, filler, privateUse, unassignedBasic,
    unassignedSupplementary].all fun ranges => !inRanges ranges c

/-- The halfwidth voicing marks, which extend the preceding character in meaning and
yet stand in a cell of their own. They are the only letters among the extending
characters. -/
def voicing : List (Nat × Nat) :=
  [(0xFF9E, 0xFF9F)]

/-- Whether a character merges with the one before it. -/
def isExtending (c : Char) : Bool :=
  inRanges extending c && !inRanges voicing c

end GuardedLaunch.Unicode

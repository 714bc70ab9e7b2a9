import Entitlement.Text.Printable
import Entitlement.Url.Joining
import Entitlement.Url.Variant

/-!
# Characters of host names

What a character of a host name stands for. Most characters stand for themselves, variants
for other characters, and some for nothing at all; characters that have no glyph, and those
that stand for a text with a delimiter of addresses in it, are not allowed.
-/

namespace Entitlement.Url

open Text

/-- Characters that stand for nothing. -/
def ignored : List (Nat × Nat) :=
  [
  (0x00AD, 0x00AD), (0x034F, 0x034F), (0x115F, 0x1160), (0x17B4, 0x17B5), (0x180B, 0x180F),
  (0x200B, 0x200B), (0x2060, 0x2064), (0x206A, 0x206F), (0x3164, 0x3164), (0xFE00, 0xFE0F),
  (0xFEFF, 0xFEFF), (0xFFA0, 0xFFA0), (0x1BCA0, 0x1BCA3), (0x1D173, 0x1D17A), (0xE0100, 0xE01EF)]

/-- Characters that stand for a text with a blank or a delimiter in it, or for no text that a
host name can have. -/
def refused : List (Nat × Nat) :=
  [
  (0x00A0, 0x00A0), (0x00A8, 0x00A8), (0x00AF, 0x00AF), (0x00B4, 0x00B4), (0x00B8, 0x00B8),
  (0x02D8, 0x02DD), (0x037A, 0x037A), (0x0384, 0x0385), (0x1FBD, 0x1FBD), (0x1FBF, 0x1FC1),
  (0x1FCD, 0x1FCF), (0x1FDD, 0x1FDF), (0x1FED, 0x1FEE), (0x1FFD, 0x200A), (0x2017, 0x2017),
  (0x2024, 0x2026), (0x202F, 0x202F), (0x203E, 0x203E), (0x2047, 0x2049), (0x205F, 0x205F),
  (0x2100, 0x2101), (0x2105, 0x2106), (0x2488, 0x249B), (0x2A74, 0x2A74), (0x2FF0, 0x3000),
  (0x309B, 0x309C), (0x31EF, 0x31EF), (0x33C2, 0x33C2), (0x33C7, 0x33C7), (0x33D8, 0x33D8),
  (0xFC5E, 0xFC63), (0xFDFA, 0xFDFB), (0xFE12, 0xFE13), (0xFE16, 0xFE16), (0xFE19, 0xFE19),
  (0xFE30, 0xFE30), (0xFE47, 0xFE4C), (0xFE52, 0xFE52), (0xFE55, 0xFE56), (0xFE5F, 0xFE5F),
  (0xFE68, 0xFE68), (0xFE6A, 0xFE70), (0xFE72, 0xFE72), (0xFE74, 0xFE76), (0xFE78, 0xFE78),
  (0xFE7A, 0xFE7A), (0xFE7C, 0xFE7C), (0xFE7E, 0xFE7E), (0xFF03, 0xFF03), (0xFF05, 0xFF05),
  (0xFF0F, 0xFF0F), (0xFF1A, 0xFF1A), (0xFF1F, 0xFF20), (0xFF3B, 0xFF3E), (0xFF5C, 0xFF5C),
  (0xFFE3, 0xFFE3), (0xFFFC, 0xFFFD), (0x1F100, 0x1F100)]

/-- A blank or delimiter of ASCII, which no host name has. -/
def isForbidden (c : Char) : Bool :=
  c.toNat ≤ 0x20 || c.toNat = 0x7F
    || ['#', '%', '/', ':', '<', '>', '?', '@', '[', '\\', ']', '^', '|'].contains c

/-- The character is one of ASCII. -/
def isAscii (c : Char) : Bool := c.toNat < 0x80

/-- No host name has the character, which is not one of ASCII. -/
def isRefused (c : Char) : Bool :=
  !isAscii c && ((!isPrintable c && !isJoiner c) || inRanges refused c)

/-- What a character of a host name stands for, unless it is refused. A delimiter of ASCII
stands for itself, as a mark behind it may make another character of it. -/
def hostChar? (c : Char) : Option (List Char) :=
  if inRanges ignored c then some []
  else if isRefused c then none
  else some ((variant? c).getD [c])

/-- The character stands for itself and is not forbidden. -/
def isKept (c : Char) : Bool :=
  hostChar? c = some [c] && !isForbidden c

end Entitlement.Url

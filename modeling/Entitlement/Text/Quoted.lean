import Entitlement.Text.Extender
import Entitlement.Text.Printable

/-!
# Quoted text

Text in messages is quoted so that every character of it can be seen. A backslash, the
quote in use and the controls with a letter of their own are written with a backslash;
extenders and characters without a glyph are written as `\u{...}` with their code point
in hexadecimal; all others stand for themselves. A character is put between single quotes
and a text between double ones.
-/

namespace Entitlement.Text.Quoted

/-- The lowercase hexadecimal digits of a number. -/
def hexDigits (n : Nat) : String :=
  String.ofList (Nat.toDigits 16 n)

/-- The code point of a character, between braces. -/
def codePoint (c : Char) : String :=
  "\\u\x7b" ++ hexDigits c.toNat ++ "\x7d"

/-- The spelling of a character between two quotes `quote`. -/
def spell (quote c : Char) : String :=
  if c = '\x00' then "\\0"
  else if c = '\t' then "\\t"
  else if c = '\r' then "\\r"
  else if c = '\n' then "\\n"
  else if c = '\\' || c = quote then String.ofList ['\\', c]
  else if isExtender c || !isPrintable c then codePoint c
  else String.singleton c

/-- The character between single quotes. -/
def character (c : Char) : String :=
  "'" ++ spell '\'' c ++ "'"

/-- The text between double quotes. -/
def text (s : String) : String :=
  "\"" ++ String.join (s.toList.map (spell '"')) ++ "\""

end Entitlement.Text.Quoted

import Entitlement.Text.Range
import Entitlement.Text.Split
import Entitlement.Url.Variant.Cursive
import Entitlement.Url.Variant.Ideograph
import Entitlement.Url.Variant.Letter

/-!
# Variants

Many characters are variants of other ones, and stand for them in host names: capital letters
for small ones, letters and digits in other shapes for the plain ones, and abbreviations in
one character for their letters. `Url.variant?` is what such a character stands for.
-/

namespace Entitlement.Url

namespace Variant

/-- Ranges whose characters stand for those of another range, each with the first one of it. -/
def shifted : List (Nat × Nat × Nat) :=
  [
  (0x0041, 0x005A, 0x0061), (0x00C0, 0x00D6, 0x00E0), (0x00D8, 0x00DE, 0x00F8),
  (0x0388, 0x038A, 0x03AD), (0x0391, 0x03A1, 0x03B1), (0x03A3, 0x03AB, 0x03C3),
  (0x03FD, 0x03FF, 0x037B), (0x0400, 0x040F, 0x0450), (0x0410, 0x042F, 0x0430),
  (0x0531, 0x0556, 0x0561), (0x10A0, 0x10C5, 0x2D00), (0x13F8, 0x13FD, 0x13F0),
  (0x1C90, 0x1CBA, 0x10D0), (0x1CBD, 0x1CBF, 0x10FD), (0x1D33, 0x1D3A, 0x0067),
  (0x1D5D, 0x1D5F, 0x03B2), (0x1DA4, 0x1DA6, 0x0268), (0x1DAE, 0x1DB1, 0x0272),
  (0x1DBC, 0x1DBE, 0x0290), (0x1F08, 0x1F0F, 0x1F00), (0x1F18, 0x1F1D, 0x1F10),
  (0x1F28, 0x1F2F, 0x1F20), (0x1F38, 0x1F3F, 0x1F30), (0x1F48, 0x1F4D, 0x1F40),
  (0x1F68, 0x1F6F, 0x1F60), (0x2074, 0x2079, 0x0034), (0x2080, 0x2089, 0x0030),
  (0x2096, 0x2099, 0x006B), (0x2119, 0x211B, 0x0070), (0x2135, 0x2138, 0x05D0),
  (0x2460, 0x2468, 0x0031), (0x24B6, 0x24CF, 0x0061), (0x24D0, 0x24E9, 0x0061),
  (0x2C00, 0x2C2F, 0x2C30), (0x3137, 0x3139, 0x1103), (0x313A, 0x313F, 0x11B0),
  (0x3141, 0x3143, 0x1106), (0x3145, 0x314E, 0x1109), (0x314F, 0x3163, 0x1161),
  (0x3178, 0x317C, 0x112B), (0x3184, 0x3186, 0x1157), (0x3263, 0x3265, 0x1105),
  (0x3269, 0x326D, 0x110E), (0x32E4, 0x32E9, 0x30CA), (0x32EE, 0x32F2, 0x30DE),
  (0x32F5, 0x32FA, 0x30E8), (0x32FB, 0x32FE, 0x30EF), (0xAB70, 0xABBF, 0x13A0),
  (0xFB24, 0xFB26, 0x05DB), (0xFE41, 0xFE44, 0x300C), (0xFF06, 0xFF0E, 0x0026),
  (0xFF10, 0xFF19, 0x0030), (0xFF1B, 0xFF1E, 0x003B), (0xFF21, 0xFF3A, 0x0061),
  (0xFF3F, 0xFF5B, 0x005F), (0xFF85, 0xFF8A, 0x30CA), (0xFF8F, 0xFF93, 0x30DE),
  (0xFF96, 0xFF9B, 0x30E8), (0xFFA7, 0xFFA9, 0x1103), (0xFFAA, 0xFFAF, 0x11B0),
  (0xFFB1, 0xFFB3, 0x1106), (0xFFB5, 0xFFBE, 0x1109), (0xFFC2, 0xFFC7, 0x1161),
  (0xFFCA, 0xFFCF, 0x1167), (0xFFD2, 0xFFD7, 0x116D), (0xFFDA, 0xFFDC, 0x1173),
  (0xFFE9, 0xFFEC, 0x2190), (0x10400, 0x10427, 0x10428), (0x104B0, 0x104D3, 0x104D8),
  (0x10570, 0x1057A, 0x10597), (0x1057C, 0x1058A, 0x105A3), (0x1058C, 0x10592, 0x105B3),
  (0x107B6, 0x107B8, 0x01C0), (0x10C80, 0x10CB2, 0x10CC0), (0x10D50, 0x10D65, 0x10D70),
  (0x118A0, 0x118BF, 0x118C0), (0x16E40, 0x16E5F, 0x16E60), (0x16EA0, 0x16EB8, 0x16EBB),
  (0x1CCD6, 0x1CCEF, 0x0061), (0x1CCF0, 0x1CCF9, 0x0030), (0x1D400, 0x1D419, 0x0061),
  (0x1D41A, 0x1D433, 0x0061), (0x1D434, 0x1D44D, 0x0061), (0x1D44E, 0x1D454, 0x0061),
  (0x1D456, 0x1D467, 0x0069), (0x1D468, 0x1D481, 0x0061), (0x1D482, 0x1D49B, 0x0061),
  (0x1D4A9, 0x1D4AC, 0x006E), (0x1D4AE, 0x1D4B5, 0x0073), (0x1D4B6, 0x1D4B9, 0x0061),
  (0x1D4BD, 0x1D4C3, 0x0068), (0x1D4C5, 0x1D4CF, 0x0070), (0x1D4D0, 0x1D4E9, 0x0061),
  (0x1D4EA, 0x1D503, 0x0061), (0x1D507, 0x1D50A, 0x0064), (0x1D50D, 0x1D514, 0x006A),
  (0x1D516, 0x1D51C, 0x0073), (0x1D51E, 0x1D537, 0x0061), (0x1D53B, 0x1D53E, 0x0064),
  (0x1D540, 0x1D544, 0x0069), (0x1D54A, 0x1D550, 0x0073), (0x1D552, 0x1D56B, 0x0061),
  (0x1D56C, 0x1D585, 0x0061), (0x1D586, 0x1D59F, 0x0061), (0x1D5A0, 0x1D5B9, 0x0061),
  (0x1D5BA, 0x1D5D3, 0x0061), (0x1D5D4, 0x1D5ED, 0x0061), (0x1D5EE, 0x1D607, 0x0061),
  (0x1D608, 0x1D621, 0x0061), (0x1D622, 0x1D63B, 0x0061), (0x1D63C, 0x1D655, 0x0061),
  (0x1D656, 0x1D66F, 0x0061), (0x1D670, 0x1D689, 0x0061), (0x1D68A, 0x1D6A3, 0x0061),
  (0x1D6A8, 0x1D6B8, 0x03B1), (0x1D6BA, 0x1D6C0, 0x03C3), (0x1D6C2, 0x1D6D2, 0x03B1),
  (0x1D6D4, 0x1D6DA, 0x03C3), (0x1D6E2, 0x1D6F2, 0x03B1), (0x1D6F4, 0x1D6FA, 0x03C3),
  (0x1D6FC, 0x1D70C, 0x03B1), (0x1D70E, 0x1D714, 0x03C3), (0x1D71C, 0x1D72C, 0x03B1),
  (0x1D72E, 0x1D734, 0x03C3), (0x1D736, 0x1D746, 0x03B1), (0x1D748, 0x1D74E, 0x03C3),
  (0x1D756, 0x1D766, 0x03B1), (0x1D768, 0x1D76E, 0x03C3), (0x1D770, 0x1D780, 0x03B1),
  (0x1D782, 0x1D788, 0x03C3), (0x1D790, 0x1D7A0, 0x03B1), (0x1D7A2, 0x1D7A8, 0x03C3),
  (0x1D7AA, 0x1D7BA, 0x03B1), (0x1D7BC, 0x1D7C2, 0x03C3), (0x1D7CE, 0x1D7D7, 0x0030),
  (0x1D7D8, 0x1D7E1, 0x0030), (0x1D7E2, 0x1D7EB, 0x0030), (0x1D7EC, 0x1D7F5, 0x0030),
  (0x1D7F6, 0x1D7FF, 0x0030), (0x1E030, 0x1E038, 0x0430), (0x1E039, 0x1E03B, 0x043A),
  (0x1E03C, 0x1E046, 0x043E), (0x1E051, 0x1E059, 0x0430), (0x1E05F, 0x1E064, 0x0443),
  (0x1E900, 0x1E921, 0x1E922), (0x1EE0A, 0x1EE0D, 0x0643), (0x1EE2A, 0x1EE2D, 0x0643),
  (0x1EE8B, 0x1EE8D, 0x0644), (0x1EEAB, 0x1EEAD, 0x0644), (0x1F130, 0x1F149, 0x0061),
  (0x1FBF0, 0x1FBF9, 0x0030)]

/-- Ranges in which the first and then every second character stand for the one behind it. -/
def alternating : List (Nat × Nat) :=
  [
  (0x0100, 0x012E), (0x0134, 0x0136), (0x0139, 0x013D), (0x0141, 0x0147), (0x014A, 0x0176),
  (0x0179, 0x017D), (0x0182, 0x0184), (0x01A0, 0x01A4), (0x01B3, 0x01B5), (0x01CD, 0x01DB),
  (0x01DE, 0x01EE), (0x01F8, 0x021E), (0x0222, 0x0232), (0x0246, 0x024E), (0x0370, 0x0372),
  (0x03D8, 0x03EE), (0x0460, 0x0480), (0x048A, 0x04BE), (0x04C1, 0x04CD), (0x04D0, 0x052E),
  (0x1E00, 0x1E94), (0x1EA0, 0x1EFE), (0x2C67, 0x2C6B), (0x2C80, 0x2CE2), (0x2CEB, 0x2CED),
  (0xA640, 0xA66C), (0xA680, 0xA69A), (0xA722, 0xA72E), (0xA732, 0xA76E), (0xA779, 0xA77B),
  (0xA77E, 0xA786), (0xA790, 0xA792), (0xA796, 0xA7A8), (0xA7B4, 0xA7C2), (0xA7C7, 0xA7C9),
  (0xA7CC, 0xA7DA)]

/-- What the characters from a given one on stand for. -/
def texts : List (Nat × List (List Char)) :=
  (letters ++ ideographs ++ cursive).map fun (first, words) =>
    (first, Text.split ' ' words.toList)

/-- The character of another range that a character stands for. -/
def shifted? (c : Char) : Option Char :=
  (shifted.find? fun r => r.1 ≤ c.toNat && c.toNat ≤ r.2.1).map fun r =>
    Char.ofNat (r.2.2 + (c.toNat - r.1))

/-- The following character, if a character stands for it. -/
def following? (c : Char) : Option Char :=
  if alternating.any fun r =>
    r.1 ≤ c.toNat && c.toNat ≤ r.2 && (c.toNat - r.1) % 2 = 0
  then some (Char.ofNat (c.toNat + 1)) else none

/-- The text that a character stands for. -/
def text? (c : Char) : Option (List Char) :=
  texts.findSome? fun (first, words) =>
    if first ≤ c.toNat then words[c.toNat - first]? else none

end Variant

/-- What a character stands for, if it is a variant. -/
def variant? (c : Char) : Option (List Char) :=
  match Variant.shifted? c with
  | some d => some [d]
  | none =>
    match Variant.following? c with
    | some d => some [d]
    | none => Variant.text? c

end Entitlement.Url

/-!
# Variants of letters

Letters and signs of many scripts, most of them for notations and old typefaces, that stand for
plain ones: small letters for capitals, letters for those that are raised or joined, and digits
for numbers in other shapes.
-/

namespace Entitlement.Url.Variant

/-- What characters stand for, each text after the first of them with a blank before it: the
first text belongs to the given character and the others to the following ones. -/
def letters : List (Nat × String) :=
  [
  (0x00AA, "a"), (0x00B2, "2 3"), (0x00B5, "μ"), (0x00B9, "1 o"),
  (0x00BC, "1\u20444 1\u20442 3\u20444"), (0x0130, "i\u0307"), (0x0132, "ij ij"),
  (0x013F, "l\u00b7 l\u00b7"), (0x0149, "ʼn"), (0x0178, "ÿ"), (0x017F, "s"), (0x0181, "ɓ"),
  (0x0186, "ɔ ƈ"), (0x0189, "ɖ ɗ ƌ"), (0x018E, "ǝ ə ɛ ƒ"), (0x0193, "ɠ ɣ"), (0x0196, "ɩ ɨ ƙ"),
  (0x019C, "ɯ ɲ"), (0x019F, "ɵ"), (0x01A6, "ʀ ƨ"), (0x01A9, "ʃ"), (0x01AC, "ƭ"), (0x01AE, "ʈ ư"),
  (0x01B1, "ʊ ʋ"), (0x01B7, "ʒ ƹ"), (0x01BC, "ƽ"), (0x01C4, "dž dž dž lj lj lj nj nj nj"),
  (0x01F1, "dz dz dz ǵ"), (0x01F6, "ƕ ƿ"), (0x0220, "ƞ"), (0x023A, "ⱥ ȼ"), (0x023D, "ƚ ⱦ"),
  (0x0241, "ɂ"), (0x0243, "ƀ ʉ ʌ"), (0x02B0, "h ɦ j r ɹ ɻ ʁ w y"), (0x02E0, "ɣ l s x ʕ"),
  (0x0340, "\u0300 \u0301"), (0x0343, "\u0313 \u0308\u0301 ι"), (0x0374, "ʹ"), (0x0376, "ͷ"),
  (0x037E, "; ϳ"), (0x0386, "ά \u00b7"), (0x038C, "ό"), (0x038E, "ύ ώ"),
  (0x03CF, "ϗ β θ υ ύ ϋ φ π"), (0x03F0, "κ ρ σ"), (0x03F4, "θ ε"), (0x03F7, "ϸ"), (0x03F9, "σ ϻ"),
  (0x04C0, "ӏ"), (0x0587, "եւ"), (0x0675, "\u0627\u0674 \u0648\u0674 \u06c7\u0674 \u064a\u0674"),
  (0x0958, "क\u093c ख\u093c ग\u093c ज\u093c ड\u093c ढ\u093c फ\u093c य\u093c"),
  (0x09DC, "ড\u09bc ঢ\u09bc"), (0x09DF, "য\u09bc"), (0x0A33, "ਲ\u0a3c"), (0x0A36, "ਸ\u0a3c"),
  (0x0A59, "ਖ\u0a3c ਗ\u0a3c ਜ\u0a3c"), (0x0A5E, "ਫ\u0a3c"), (0x0B5C, "ଡ\u0b3c ଢ\u0b3c"),
  (0x0E33, "\u0e4dา"), (0x0EB3, "\u0ecdາ"), (0x0EDC, "ຫນ ຫມ"), (0x0F0C, "\u0f0b"),
  (0x0F43, "ག\u0fb7"), (0x0F4D, "ཌ\u0fb7"), (0x0F52, "ད\u0fb7"), (0x0F57, "བ\u0fb7"),
  (0x0F5C, "ཛ\u0fb7"), (0x0F69, "ཀ\u0fb5"), (0x0F73, "\u0f71\u0f72"),
  (0x0F75, "\u0f71\u0f74 \u0fb2\u0f80 \u0fb2\u0f71\u0f80 \u0fb3\u0f80 \u0fb3\u0f71\u0f80"),
  (0x0F81, "\u0f71\u0f80"), (0x0F93, "\u0f92\u0fb7"), (0x0F9D, "\u0f9c\u0fb7"),
  (0x0FA2, "\u0fa1\u0fb7"), (0x0FA7, "\u0fa6\u0fb7"), (0x0FAC, "\u0fab\u0fb7"),
  (0x0FB9, "\u0f90\u0fb5"), (0x10C7, "ⴧ"), (0x10CD, "ⴭ"), (0x10FC, "ნ"),
  (0x1C80, "в д о с т т ъ ѣ ꙋ ᲊ"), (0x1D2C, "a æ b"), (0x1D30, "d e ǝ"),
  (0x1D3C, "o ȣ p r t u w a ɐ ɑ ᴂ b d e ə ɛ ɜ g"), (0x1D4F, "k m ŋ o ɔ ᴖ ᴗ p t u ᴝ ɯ v ᴥ"),
  (0x1D60, "φ χ i r u v β γ ρ φ χ"), (0x1D78, "н"), (0x1D9B, "ɒ c ɕ ð ɜ f ɟ ɡ ɥ"),
  (0x1DA7, "ᵻ ʝ ɭ ᶅ ʟ ɱ ɰ"), (0x1DB2, "ɸ ʂ ʃ ƫ ʉ ʊ ᴜ ʋ ʌ z"), (0x1DBF, "θ"), (0x1E9A, "aʾ ṡ"),
  (0x1E9E, "ß"), (0x1F59, "ὑ"), (0x1F5B, "ὓ"), (0x1F5D, "ὕ"), (0x1F5F, "ὗ"), (0x1F71, "ά"),
  (0x1F73, "έ"), (0x1F75, "ή"), (0x1F77, "ί"), (0x1F79, "ό"), (0x1F7B, "ύ"), (0x1F7D, "ώ"),
  (0x1F80, "ἀι ἁι ἂι ἃι ἄι ἅι ἆι ἇι ἀι ἁι ἂι ἃι ἄι ἅι ἆι ἇι ἠι ἡι ἢι ἣι ἤι ἥι ἦι ἧι ἠι ἡι ἢι ἣι"),
  (0x1F9C, "ἤι ἥι ἦι ἧι ὠι ὡι ὢι ὣι ὤι ὥι ὦι ὧι ὠι ὡι ὢι ὣι ὤι ὥι ὦι ὧι"), (0x1FB2, "ὰι αι άι"),
  (0x1FB7, "ᾶι ᾰ ᾱ ὰ ά αι"), (0x1FBE, "ι"), (0x1FC2, "ὴι ηι ήι"), (0x1FC7, "ῆι ὲ έ ὴ ή ηι"),
  (0x1FD3, "ΐ"), (0x1FD8, "ῐ ῑ ὶ ί"), (0x1FE3, "ΰ"), (0x1FE8, "ῠ ῡ ὺ ύ ῥ"), (0x1FEF, "`"),
  (0x1FF2, "ὼι ωι ώι"), (0x1FF7, "ῶι ὸ ό ὼ ώ ωι"), (0x2011, "\u2010"),
  (0x2033, "\u2032\u2032 \u2032\u2032\u2032"), (0x2036, "\u2035\u2035 \u2035\u2035\u2035"),
  (0x203C, "!!"), (0x2057, "\u2032\u2032\u2032\u2032"), (0x2070, "0 i"),
  (0x207A, "+ \u2212 = ( ) n"), (0x208A, "+ \u2212 = ( )"), (0x2090, "a e o x ə h"),
  (0x209A, "p s t"), (0x20A8, "rs"), (0x2102, "c \u00b0c"), (0x2107, "ɛ"),
  (0x2109, "\u00b0f g h h h h ħ i i l l"), (0x2115, "n no"), (0x211C, "r r"), (0x2120, "sm tel tm"),
  (0x2124, "z"), (0x2126, "ω"), (0x2128, "z"), (0x212A, "k å b c"), (0x212F, "e e f ⅎ m o"),
  (0x2139, "i"), (0x213B, "fax π γ γ π \u2211"), (0x2145, "d d e i j"),
  (0x2150, "1\u20447 1\u20449 1\u204410 1\u20443 2\u20443 1\u20445 2\u20445 3\u20445 4\u20445"),
  (0x2159, "1\u20446 5\u20446 1\u20448 3\u20448 5\u20448 7\u20448 1\u2044 i ii iii iv v vi vii"),
  (0x2167, "viii ix x xi xii l c d m i ii iii iv v vi vii viii ix x xi xii l c d m"), (0x2183, "ↄ"),
  (0x2189, "0\u20443"), (0x222C, "\u222b\u222b \u222b\u222b\u222b"),
  (0x222F, "\u222e\u222e \u222e\u222e\u222e"), (0x2329, "\u3008 \u3009"),
  (0x2469, "10 11 12 13 14 15 16 17 18 19 20 (1) (2) (3) (4) (5) (6) (7) (8) (9) (10) (11) (12)"),
  (0x2480, "(13) (14) (15) (16) (17) (18) (19) (20)"),
  (0x249C, "(a) (b) (c) (d) (e) (f) (g) (h) (i) (j) (k) (l) (m) (n) (o) (p) (q) (r) (s) (t) (u)"),
  (0x24B1, "(v) (w) (x) (y) (z)"), (0x24EA, "0"), (0x2A0C, "\u222b\u222b\u222b\u222b"),
  (0x2A75, "== ==="), (0x2ADC, "\u2add\u0338"), (0x2C60, "ⱡ"), (0x2C62, "ɫ ᵽ ɽ"),
  (0x2C6D, "ɑ ɱ ɐ ɒ"), (0x2C72, "ⱳ"), (0x2C75, "ⱶ"), (0x2C7C, "j v ȿ ɀ"), (0x2CF2, "ⳳ"),
  (0x2D6F, "ⵡ"), (0xA69C, "ъ ь"), (0xA770, "ꝯ"), (0xA77D, "ᵹ"), (0xA78B, "ꞌ"), (0xA78D, "ɥ"),
  (0xA7AA, "ɦ ɜ ɡ ɬ ɪ"), (0xA7B0, "ʞ ʇ ʝ ꭓ"), (0xA7C4, "ꞔ ʂ ᶎ"), (0xA7CB, "ɤ"), (0xA7DC, "ƛ"),
  (0xA7F1, "s c f q ꟶ"), (0xA7F8, "ħ œ"), (0xAB5C, "ꜧ ꬷ ɫ ꭒ"), (0xAB69, "ʍ"),
  (0xFB00, "ff fi fl ffi ffl st st"), (0xFB13, "մն մե մի վն մխ"), (0x10594, "𐖻 𐖼"),
  (0x10781, "ː ˑ æ ʙ ɓ"),
  (0x10787, "ʣ ꭦ ʥ ʤ ɖ ɗ ᶑ ɘ ɞ ʩ ɤ ɢ ɠ ʛ ħ ʜ ɧ ʄ ʪ ʫ ɬ 𝼄 ꞎ ɮ 𝼅 ʎ 𝼆 ø ɶ ɷ q ɺ 𝼈 ɽ ɾ ʀ ʨ ʦ ꭧ ʧ ʈ ⱱ"),
  (0x107B2, "ʏ ʡ ʢ ʘ"), (0x107B9, "𝼊 𝼞"), (0x1D15E, "𝅗𝅥 𝅘𝅥 𝅘𝅥𝅮 𝅘𝅥𝅯 𝅘𝅥𝅰 𝅘𝅥𝅱 𝅘𝅥𝅲"),
  (0x1D1BB, "𝆹𝅥 𝆺𝅥 𝆹𝅥𝅮 𝆺𝅥𝅮 𝆹𝅥𝅯 𝆺𝅥𝅯"), (0x1D49C, "a"), (0x1D49E, "c d"), (0x1D4A2, "g"),
  (0x1D4A5, "j k"), (0x1D4BB, "f"), (0x1D504, "a b"), (0x1D538, "a b"), (0x1D546, "o"),
  (0x1D6A4, "ı ȷ"), (0x1D6B9, "θ"), (0x1D6C1, "\u2207"), (0x1D6D3, "σ"),
  (0x1D6DB, "\u2202 ε θ κ φ ρ π"), (0x1D6F3, "θ"), (0x1D6FB, "\u2207"), (0x1D70D, "σ"),
  (0x1D715, "\u2202 ε θ κ φ ρ π"), (0x1D72D, "θ"), (0x1D735, "\u2207"), (0x1D747, "σ"),
  (0x1D74F, "\u2202 ε θ κ φ ρ π"), (0x1D767, "θ"), (0x1D76F, "\u2207"), (0x1D781, "σ"),
  (0x1D789, "\u2202 ε θ κ φ ρ π"), (0x1D7A1, "θ"), (0x1D7A9, "\u2207"), (0x1D7BB, "σ"),
  (0x1D7C3, "\u2202 ε θ κ φ ρ π ϝ ϝ"), (0x1E047, "ы э ю ꚉ ә і ј ө ү ӏ"), (0x1E05A, "к л о п с"),
  (0x1E065, "ъ ы ґ і ѕ џ ҫ ꙑ ұ")]

end Entitlement.Url.Variant

/-!
# Composed characters

Some characters are composed of two others, a letter and a mark for the most part. The
syllables of the Korean script are composed of a consonant and a vowel, or of such a
syllable and a final consonant, and follow each other in this order; all others are given by
a table. The first of the two may be composed itself, the second never is.

The table has the characters that names of hosts can hold, so there are no capital letters
in it, and no variants of other characters.
-/

namespace Entitlement.Text

/-- Second characters below U+10000, each with first ones, which are followed by what both
compose. -/
def compositions : List (Nat × String) :=
  [
  (0x0300, "aàeèiìoòuùüǜnǹеѐиѝēḕōṑwẁâầăằêềôồơờưừyỳἀἂἁἃἐἒἑἓἠἢἡἣἰἲἱἳὀὂὁὃὐὒὑὓὠὢὡὣαὰεὲηὴιὶοὸυὺωὼϊῒϋῢ"),
  (0x0301, "aáeéiíoóuúyýcćlĺnńrŕsśzźüǘgǵåǻæǽøǿϊΐαάεέηήιίϋΰοόυύωώгѓкќçḉēḗïḯkḱmḿõṍōṓpṕũṹwẃâấăắêếôố"),
  (0x0301, "ơớưứἀἄἁἅἐἔἑἕἠἤἡἥἰἴἱἵὀὄὁὅὐὔὑὕὠὤὡὥ"), (0x0302, "aâeêiîoôuûcĉgĝhĥjĵsŝwŵyŷzẑạậẹệọộ"),
  (0x0303, "aãnñoõiĩuũvṽâẫăẵeẽêễôỗơỡưữyỹ"),
  (0x0304, "aāeēiīoōuūüǖäǟȧǡæǣǫǭöȫõȭȯȱyȳиӣуӯgḡḷḹṛṝαᾱιῑυῡ"),
  (0x0306, "aăeĕgğiĭoŏuŭийуўжӂаӑеӗȩḝạặαᾰιῐυῠ"),
  (0x0307, "cċeėgġzżaȧoȯbḃdḋfḟhḣmṁnṅpṗrṙsṡśṥšṧṣṩtṫwẇxẋyẏ"),
  (0x0308, "aäeëiïoöuüyÿιϊυϋеёіїаӓәӛжӝзӟиӥоӧөӫэӭуӱчӵыӹhḧõṏūṻwẅxẍtẗ"),
  (0x0309, "aảâẩăẳeẻêểiỉoỏôổơởuủưửyỷ"), (0x030A, "aåuůwẘyẙ"), (0x030B, "oőuűуӳ"),
  (0x030C, "cčdďeělľnňrřsštťzžaǎiǐoǒuǔüǚgǧkǩʒǯjǰhȟ"), (0x030F, "aȁeȅiȉoȍrȑuȕѵѷ"),
  (0x0311, "aȃeȇiȋoȏrȓuȗ"), (0x0313, "αἀεἐηἠιἰοὀυὐωὠρῤ"), (0x0314, "αἁεἑηἡιἱοὁυὑωὡρῥ"),
  (0x031B, "oơuư"), (0x0323, "bḅdḍhḥkḳlḷmṃnṇrṛsṣtṭvṿwẉzẓaạeẹiịoọơợuụưựyỵ"), (0x0324, "uṳ"),
  (0x0325, "aḁ"), (0x0326, "sștț"), (0x0327, "cçgģkķlļnņrŗsştţeȩdḑhḩ"), (0x0328, "aąeęiįuųoǫ"),
  (0x032D, "dḓeḙlḽnṋtṱuṷ"), (0x032E, "hḫ"), (0x0330, "eḛiḭuṵ"), (0x0331, "bḇdḏkḵlḻnṉrṟtṯzẕhẖ"),
  (0x0338, "\u2190\u219a\u2192\u219b\u2194\u21ae\u21d0\u21cd\u21d4\u21ce\u21d2\u21cf\u2203\u2204"),
  (0x0338, "\u2208\u2209\u220b\u220c\u2223\u2224\u2225\u2226\u223c\u2241\u2243\u2244\u2245\u2247"),
  (0x0338, "\u2248\u2249=\u2260\u2261\u2262\u224d\u226d<\u226e>\u226f\u2264\u2270\u2265\u2271"),
  (0x0338, "\u2272\u2274\u2273\u2275\u2276\u2278\u2277\u2279\u227a\u2280\u227b\u2281\u2282\u2284"),
  (0x0338, "\u2283\u2285\u2286\u2288\u2287\u2289\u22a2\u22ac\u22a8\u22ad\u22a9\u22ae\u22ab\u22af"),
  (0x0338, "\u227c\u22e0\u227d\u22e1\u2291\u22e2\u2292\u22e3\u22b2\u22ea\u22b3\u22eb\u22b4\u22ec"),
  (0x0338, "\u22b5\u22ed"), (0x0342, "ἀἆἁἇἠἦἡἧἰἶἱἷὐὖὑὗὠὦὡὧαᾶηῆιῖϊῗυῦϋῧωῶ"),
  (0x0653, "\u0627\u0622"),
  (0x0654, "\u0627\u0623\u0648\u0624\u064a\u0626\u06d5\u06c0\u06c1\u06c2\u06d2\u06d3"),
  (0x0655, "\u0627\u0625"), (0x093C, "नऩरऱळऴ"), (0x09BE, "\u09c7\u09cb"), (0x09D7, "\u09c7\u09cc"),
  (0x0B3E, "\u0b47\u0b4b"), (0x0B56, "\u0b47\u0b48"), (0x0B57, "\u0b47\u0b4c"),
  (0x0BBE, "\u0bc6\u0bca\u0bc7\u0bcb"), (0x0BD7, "ஒஔ\u0bc6\u0bcc"), (0x0C56, "\u0c46\u0c48"),
  (0x0CC2, "\u0cc6\u0cca"), (0x0CD5, "\u0cbf\u0cc0\u0cc6\u0cc7\u0cca\u0ccb"),
  (0x0CD6, "\u0cc6\u0cc8"), (0x0D3E, "\u0d46\u0d4a\u0d47\u0d4b"), (0x0D57, "\u0d46\u0d4c"),
  (0x0DCA, "\u0dd9\u0dda\u0ddc\u0ddd"), (0x0DCF, "\u0dd9\u0ddc"), (0x0DDF, "\u0dd9\u0dde"),
  (0x102E, "ဥဦ"),
  (0x1B35, "ᬅᬆᬇᬈᬉᬊᬋᬌᬍᬎᬑᬒ\u1b3a\u1b3b\u1b3c\u1b3d\u1b3e\u1b40\u1b3f\u1b41\u1b42\u1b43"),
  (0x3099, "かがきぎくぐけげこごさざしじすずせぜそぞただちぢつづてでとどはばひびふぶへべほぼうゔゝゞカガキギクグケゲコゴサザシジスズセゼソゾタダチヂツヅテデトドハバヒビフブヘベホボ"),
  (0x3099, "ウヴワヷヰヸヱヹヲヺヽヾ"), (0x309A, "はぱひぴふぷへぺほぽハパヒピフプヘペホポ")]

/-- First, second and composed characters from U+10000 on. -/
def highTriples : List (Nat × Nat × Nat) :=
  [
  (0x105D2, 0x00307, 0x105C9), (0x105DA, 0x00307, 0x105E4), (0x11099, 0x110BA, 0x1109A),
  (0x1109B, 0x110BA, 0x1109C), (0x110A5, 0x110BA, 0x110AB), (0x11131, 0x11127, 0x1112E),
  (0x11132, 0x11127, 0x1112F), (0x11347, 0x1133E, 0x1134B), (0x11347, 0x11357, 0x1134C),
  (0x11382, 0x113C9, 0x11383), (0x11384, 0x113BB, 0x11385), (0x1138B, 0x113C2, 0x1138E),
  (0x11390, 0x113C9, 0x11391), (0x113C2, 0x113B8, 0x113C7), (0x113C2, 0x113C2, 0x113C5),
  (0x113C2, 0x113C9, 0x113C8), (0x114B9, 0x114B0, 0x114BC), (0x114B9, 0x114BA, 0x114BB),
  (0x114B9, 0x114BD, 0x114BE), (0x115B8, 0x115AF, 0x115BA), (0x115B9, 0x115AF, 0x115BB),
  (0x11935, 0x11930, 0x11938), (0x1611E, 0x1611E, 0x16121), (0x1611E, 0x1611F, 0x16123),
  (0x1611E, 0x16120, 0x16125), (0x1611E, 0x16129, 0x16122), (0x16121, 0x1611F, 0x16126),
  (0x16121, 0x16120, 0x16128), (0x16122, 0x1611F, 0x16127), (0x16129, 0x1611F, 0x16124),
  (0x16D63, 0x16D67, 0x16D69), (0x16D67, 0x16D67, 0x16D68), (0x16D69, 0x16D67, 0x16D6A)]

/-- The triples of a first, the given second, and a composed character, which a text has with
the first ones before the composed ones. -/
def triples (second : Char) : List Char → List (Char × Char × Char)
  | first :: composed :: cs => (first, second, composed) :: triples second cs
  | _ => []

/-- The triples of a first, a second and a composed character. -/
def allTriples : List (Char × Char × Char) :=
  compositions.flatMap (fun (second, text) => triples (Char.ofNat second) text.toList)
    ++ highTriples.map fun (first, second, composed) =>
      (Char.ofNat first, Char.ofNat second, Char.ofNat composed)

/-! ### Korean syllables -/

/-- The consonants with which a syllable begins start here. -/
def initialBase : Nat := 0x1100

/-- The vowels start here. -/
def vowelBase : Nat := 0x1161

/-- The final consonants start behind this code point. -/
def finalBase : Nat := 0x11A7

/-- The syllables start here. -/
def syllableBase : Nat := 0xAC00

/-- The number of consonants with which a syllable begins. -/
def initialCount : Nat := 19

/-- The number of vowels. -/
def vowelCount : Nat := 21

/-- The number of final consonants and of their absence. -/
def finalCount : Nat := 28

/-- The place of a character among some that follow each other. -/
def placeIn? (base count : Nat) (c : Char) : Option Nat :=
  if base ≤ c.toNat ∧ c.toNat < base + count then some (c.toNat - base) else none

/-- The place of a syllable among all. -/
def syllable? (c : Char) : Option Nat :=
  placeIn? syllableBase (initialCount * vowelCount * finalCount) c

/-- The syllable of two characters. -/
def composeSyllable? (a b : Char) : Option Char :=
  match placeIn? initialBase initialCount a, placeIn? vowelBase vowelCount b with
  | some i, some v => some (Char.ofNat (syllableBase + (i * vowelCount + v) * finalCount))
  | _, _ =>
    match syllable? a, placeIn? (finalBase + 1) (finalCount - 1) b with
    | some s, some f => if s % finalCount = 0 then some (Char.ofNat (a.toNat + f + 1)) else none
    | _, _ => none

/-- The two characters of the syllable at a place. -/
def partsOfSyllable (s : Nat) : Char × Char :=
  if s % finalCount = 0 then
    (Char.ofNat (initialBase + s / finalCount / vowelCount),
      Char.ofNat (vowelBase + s / finalCount % vowelCount))
  else
    (Char.ofNat (syllableBase + s / finalCount * finalCount),
      Char.ofNat (finalBase + s % finalCount))

/-! ### All characters -/

/-- The character that is composed of two. -/
def compose? (a b : Char) : Option Char :=
  match composeSyllable? a b with
  | some c => some c
  | none => (allTriples.find? fun (first, second, _) => first = a && second = b).map (·.2.2)

/-- The two characters that a character is composed of. -/
def parts? (c : Char) : Option (Char × Char) :=
  match syllable? c with
  | some s => some (partsOfSyllable s)
  | none =>
    (allTriples.find? fun (_, _, composed) => composed = c).map fun t => (t.1, t.2.1)

end Entitlement.Text

import Entitlement.Proofs.Key.Signed
import Entitlement.Proofs.Key.Symbols
import Mathlib.Data.Bool.AllAny
import Mathlib.Data.List.DropRight

/-!
# Spellings of a key

The same key can be written in many ways. What is read of a text are its version, once blank
characters around it are off, and the symbols behind the first dash: texts in which these are
the same are read as the same key, or found wrong in the same way
(`DecodedKey.ofText_congr`). Whether the letters are large or small matters only to a text
that is found wrong (`DecodedKey.ofText_of_toUpper`). `KeyText.grouped` changes the dashes and
blank characters among the symbols, so it changes nothing that is read
(`DecodedKey.ofText_spelling`).
-/

namespace Entitlement

/-! ### Letters and separators -/

/-- A large letter stands for a small one, and any other character for itself. -/
theorem toUpper_cases (c : Char) :
  c.toUpper = c ∨ (97 ≤ c.toNat ∧ c.toNat ≤ 122 ∧ c.toUpper.toNat = c.toNat - 32)
  := by
  unfold Char.toUpper
  split
  · rename_i h
    right
    have hlow : 97 ≤ c.toNat := UInt32.le_iff_toNat_le.1 h.1
    have hhigh : c.toNat ≤ 122 := UInt32.le_iff_toNat_le.1 h.2
    use hlow, hhigh
    change (c.val + (65 - 97)).toNat = c.toNat - 32
    rw [UInt32.toNat_add]
    change (c.toNat + 4294967264) % 4294967296 = c.toNat - 32
    omega
  · left
    rfl

/-- Characters below the large letters have one spelling. -/
theorem toUpper_eq_iff {c d : Char} (hd : d.toNat < 65) :
  c.toUpper = d ↔ c = d
  := by
  rcases toUpper_cases c with h | ⟨hlow, -, h⟩
  · rw [h]
  · constructor
    · rintro rfl
      omega
    · rintro rfl
      omega

theorem toUpper_toUpper (c : Char) :
  c.toUpper.toUpper = c.toUpper
  := by
  rcases toUpper_cases c with h | ⟨hlow, hhigh, h⟩
  · rw [h, h]
  · rcases toUpper_cases c.toUpper with h' | ⟨hlow', -, -⟩
    · apply h'
    · omega

theorem Text.isBlank_toUpper (c : Char) :
  isBlank c.toUpper = isBlank c
  := by
  rcases toUpper_cases c with h | ⟨hlow, hhigh, h⟩
  · rw [h]
  · rw [Bool.eq_iff_iff]
    simp only [isBlank, h, Bool.or_eq_true, Bool.and_eq_true, decide_eq_true_eq]
    omega

namespace Symbols

theorem isSeparator_toUpper (c : Char) :
  isSeparator c.toUpper = isSeparator c
  := by
  rw [isSeparator, isSeparator, Text.isBlank_toUpper]
  congr 1
  apply decide_eq_decide.2 (toUpper_eq_iff (by decide))

theorem value?_toUpper (c : Char) :
  value? c.toUpper = value? c
  := by
  rw [value?, value?, toUpper_toUpper]

end Symbols

/-! ### Blank characters at the ends -/

namespace Text

/-- What stands in front of a character that is not blank stays when the end is trimmed. -/
theorem trimEnd_append_cons (front : List Char) {c : Char} (hc : isBlank c = false)
    (back : List Char) :
  trimEnd (front ++ c :: back) = front ++ c :: trimEnd back
  := by
  have hkeep : (c :: front.reverse).dropWhile isBlank = c :: front.reverse := by
    rw [List.dropWhile_cons, hc, if_neg Bool.false_ne_true]
  have hreverse : (front ++ c :: back).reverse = back.reverse ++ c :: front.reverse := by
    rw [List.reverse_append, List.reverse_cons, List.append_assoc, List.singleton_append]
  rw [trimEnd, trimEnd, hreverse, List.dropWhile_append, hkeep]
  split
  · rename_i h
    rw [List.isEmpty_iff.1 h, List.reverse_cons, List.reverse_reverse, List.reverse_nil]
  · rw [List.reverse_append, List.reverse_cons, List.reverse_reverse, List.append_assoc,
      List.singleton_append]

theorem mem_of_mem_trimChars {c : Char} {cs : List Char} (h : c ∈ trimChars cs) :
  c ∈ cs
  := by
  apply (List.dropWhile_suffix isBlank).subset
  apply (List.rdropWhile_prefix isBlank _).subset h

theorem trimChars_trimChars (cs : List Char) :
  trimChars (trimChars cs) = trimChars cs
  := by
  have hend (ds : List Char) : trimEnd (trimEnd ds) = trimEnd ds :=
    List.rdropWhile_idempotent isBlank ds
  cases h : cs.dropWhile isBlank with
  | nil =>
    rw [trimChars, trimChars, h]
    rfl
  | cons c rest =>
    have hc : isBlank c = false := by
      have hhead := List.head_dropWhile_not isBlank (l := cs) (by simp [h])
      simpa [h] using hhead
    have htrim : trimChars cs = c :: trimEnd rest := by
      rw [trimChars, h]
      apply trimEnd_append_cons [] hc
    rw [htrim, trimChars, List.dropWhile_cons, hc, if_neg Bool.false_ne_true,
      ← htrim, trimChars, hend]

theorem trim_trim (s : String) :
  trim (trim s) = trim s
  := by
  rw [trim, trim, String.toList_ofList, trimChars_trimChars]

end Text

/-! ### Parts of a text -/

namespace KeyText

/-- The symbols among characters: all that are no separators. -/
def symbols (cs : List Char) : List Char :=
  cs.filter fun c => !Symbols.isSeparator c

theorem symbols_eq_nil {cs : List Char} (h : ∀ c ∈ cs, Text.isBlank c = true) :
  symbols cs = []
  := by
  apply List.filter_eq_nil_iff.2
  intro c hc
  simp [Symbols.isSeparator, h c hc]

theorem symbols_trimEnd (cs : List Char) :
  symbols (Text.trimEnd cs) = symbols cs
  := by
  have hblank : ∀ c ∈ cs.rtakeWhile Text.isBlank, Text.isBlank c = true := fun _ hc =>
    List.mem_rtakeWhile_imp hc
  calc symbols (Text.trimEnd cs)
      = symbols (Text.trimEnd cs) ++ symbols (cs.rtakeWhile Text.isBlank) := by
        rw [symbols_eq_nil hblank, List.append_nil]
    _ = symbols (Text.trimEnd cs ++ cs.rtakeWhile Text.isBlank) :=
        (List.filter_append _ _).symm
    _ = symbols cs := congrArg symbols List.rdropWhile_append_rtakeWhile

theorem symbols_symbols (cs : List Char) :
  symbols (symbols cs) = symbols cs
  := by
  simp [symbols]

theorem trimChars_append (front back : List Char) :
  Text.trimChars (front ++ '-' :: back) =
    front.dropWhile Text.isBlank ++ '-' :: Text.trimEnd back
  := by
  have hdash : Text.isBlank '-' = false := rfl
  have hdrop : (front ++ '-' :: back).dropWhile Text.isBlank =
      front.dropWhile Text.isBlank ++ '-' :: back := by
    rw [List.dropWhile_append]
    split
    · rename_i h
      rw [List.isEmpty_iff.1 h, List.dropWhile_cons, hdash, if_neg Bool.false_ne_true]
      rfl
    · rfl
  rw [Text.trimChars, hdrop, Text.trimEnd_append_cons _ hdash]

/-- A text with a dash has two parts, without the blank characters at its ends. -/
theorem split?_append {front : List Char} (h : '-' ∉ front) (back : List Char) :
  split? (front ++ '-' :: back) = some (front.dropWhile Text.isBlank, Text.trimEnd back)
  := by
  have hfront : ∀ c ∈ front.dropWhile Text.isBlank, decide (c ≠ '-') = true := by
    intro c hc
    apply decide_eq_true
    rintro rfl
    apply h ((List.dropWhile_suffix _).subset hc)
  unfold split?
  dsimp only
  rw [trimChars_append, List.dropWhile_append_of_pos hfront, List.takeWhile_append_of_pos hfront]
  simp

theorem split?_eq_none_iff {cs : List Char} :
  split? cs = none ↔ '-' ∉ cs
  := by
  constructor
  · intro h hdash
    obtain ⟨front, back, rfl, hfront⟩ := List.eq_append_cons_of_mem hdash
    rw [split?_append hfront] at h
    cases h
  · intro h
    have htrim : ∀ c ∈ Text.trimChars cs, decide (c ≠ '-') = true := by
      intro c hc
      apply decide_eq_true
      rintro rfl
      apply h (Text.mem_of_mem_trimChars hc)
    unfold split?
    dsimp only
    rw [List.dropWhile_eq_nil_iff.2 htrim]

theorem exists_append_of_split? {cs version body : List Char}
    (h : split? cs = some (version, body)) :
  ∃ front back, cs = front ++ '-' :: back ∧ '-' ∉ front ∧
    version = front.dropWhile Text.isBlank ∧ body = Text.trimEnd back
  := by
  have hdash : '-' ∈ cs := by
    by_contra hdash
    rw [split?_eq_none_iff.2 hdash] at h
    cases h
  obtain ⟨front, back, rfl, hfront⟩ := List.eq_append_cons_of_mem hdash
  rw [split?_append hfront] at h
  cases h
  use front, back

/-- The parts of a text, with the dash between them, are the text without blank characters around
it. -/
theorem trimChars_of_split? {cs version body : List Char} (h : split? cs = some (version, body)) :
  Text.trimChars cs = version ++ '-' :: body
  := by
  obtain ⟨front, back, rfl, -, rfl, rfl⟩ := exists_append_of_split? h
  apply trimChars_append

/-- No blank character stands in front of a version. -/
theorem dropWhile_of_split? {cs version body : List Char} (h : split? cs = some (version, body)) :
  version.dropWhile Text.isBlank = version
  := by
  obtain ⟨front, back, -, -, rfl, -⟩ := exists_append_of_split? h
  apply List.dropWhile_idempotent

theorem split?_trim (key : String) :
  split? (Text.trim key).toList = split? key.toList
  := by
  rw [Text.trim, String.toList_ofList, split?, split?, Text.trimChars_trimChars]

/-! ### Groups -/

theorem flatten_chunks (n : Nat) (cs : List Char) :
  (chunks n cs).flatten = cs
  := by
  fun_induction chunks n cs with
  | case1 => rfl
  | case2 c cs ih => rw [List.flatten_cons, ih, List.cons_append, List.take_append_drop]

theorem symbols_intersperse (parts : List (List Char)) :
  symbols (parts.intersperse ['-']).flatten = symbols parts.flatten
  := by
  induction parts with
  | nil => rfl
  | cons part parts ih =>
    cases parts with
    | nil => rfl
    | cons next parts =>
      rw [List.intersperse_cons_cons, List.flatten_cons, List.flatten_cons, List.flatten_cons,
        symbols, symbols, List.filter_append, List.filter_append, List.filter_append]
      congr 1

/-- What stands behind the first dash once the symbols are in groups. -/
def groupedBody (n : Nat) (body : List Char) : List Char :=
  match n with
  | 0 => body
  | n + 1 => ((chunks n (symbols body)).intersperse ['-']).flatten

theorem symbols_groupedBody (n : Nat) (body : List Char) :
  symbols (groupedBody n body) = symbols body
  := by
  cases n with
  | zero => rfl
  | succ n => rw [groupedBody, symbols_intersperse, flatten_chunks, symbols_symbols]

theorem groupedBody_congr {n : Nat} (hn : 0 < n) {body body' : List Char}
    (h : symbols body = symbols body') :
  groupedBody n body = groupedBody n body'
  := by
  cases n with
  | zero => cases hn
  | succ n => rw [groupedBody, groupedBody, h]

theorem grouped_of_split? {key : String} {version body : List Char}
    (h : split? key.toList = some (version, body)) (n : Nat) :
  grouped key n = String.ofList (version ++ '-' :: groupedBody n body)
  := by
  rw [grouped, h]
  cases n <;> rfl

theorem grouped_of_split?_eq_none {key : String} (h : split? key.toList = none) (n : Nat) :
  grouped key n = Text.trim key
  := by
  rw [grouped, h]

/-- The text in groups has the same version and the same symbols. -/
theorem split?_grouped {key : String} {version body : List Char}
    (h : split? key.toList = some (version, body)) (n : Nat) :
  ∃ body', split? (grouped key n).toList = some (version, body') ∧
    symbols body' = symbols body
  := by
  obtain ⟨front, back, -, hfront, rfl, -⟩ := exists_append_of_split? h
  have hdash : '-' ∉ front.dropWhile Text.isBlank := fun hmem =>
    hfront ((List.dropWhile_suffix _).subset hmem)
  rw [grouped_of_split? h, String.toList_ofList, split?_append hdash, List.dropWhile_idempotent]
  use Text.trimEnd (groupedBody n body), rfl
  rw [symbols_trimEnd, symbols_groupedBody]

/-- Groups that were there before do not matter. -/
theorem grouped_grouped (key : String) (n : Nat) {m : Nat} (hm : 0 < m) :
  grouped (grouped key n) m = grouped key m
  := by
  cases h : split? key.toList with
  | none =>
    rw [grouped_of_split?_eq_none h, grouped_of_split?_eq_none h,
      grouped_of_split?_eq_none ((split?_trim key).trans h), Text.trim_trim]
  | some parts =>
    obtain ⟨body', hbody', hsymbols⟩ := split?_grouped h n
    rw [grouped_of_split? hbody', grouped_of_split? h, groupedBody_congr hm hsymbols]

/-! ### Large and small letters -/

theorem trimChars_map_toUpper (cs : List Char) :
  Text.trimChars (cs.map Char.toUpper) = (Text.trimChars cs).map Char.toUpper
  := by
  have hblank : Text.isBlank ∘ Char.toUpper = Text.isBlank := funext Text.isBlank_toUpper
  simp only [Text.trimChars, Text.trimEnd, List.dropWhile_map, ← List.map_reverse, hblank]

/-- The parts of a text in other letters are its parts in those letters. -/
theorem split?_map_toUpper (cs : List Char) :
  split? (cs.map Char.toUpper) =
    (split? cs).map fun parts => (parts.1.map Char.toUpper, parts.2.map Char.toUpper)
  := by
  have hdash : (fun c => decide (c ≠ '-')) ∘ Char.toUpper = fun c => decide (c ≠ '-') := by
    funext c
    apply decide_eq_decide.2 (not_congr (toUpper_eq_iff (by decide)))
  unfold split?
  dsimp only
  rw [trimChars_map_toUpper, List.dropWhile_map, List.takeWhile_map, hdash]
  cases (Text.trimChars cs).dropWhile fun c => decide (c ≠ '-') <;> rfl

/-- The texts have the same version, blank characters around it apart, and the same symbols, in
letters of either case. -/
def Respells (s t : String) : Prop :=
  ∃ version version' body body', split? s.toList = some (version, body) ∧
    split? t.toList = some (version', body') ∧
    Text.trimChars version = Text.trimChars version' ∧
    (symbols body).map Char.toUpper = (symbols body').map Char.toUpper

end KeyText

namespace Symbols

/-- Separators are passed over. -/
theorem decodeFrom_symbols (cs : List Char) (word : UInt32) (n : Nat) :
  decodeFrom word n (KeyText.symbols cs) = decodeFrom word n cs
  := by
  induction cs generalizing word n with
  | nil => rfl
  | cons c cs ih =>
    rw [KeyText.symbols, List.filter_cons]
    change decodeFrom word n (if _ then _ :: KeyText.symbols cs else KeyText.symbols cs) = _
    cases hc : isSeparator c with
    | true =>
      rw [if_neg (by simp), ih, decodeFrom, if_pos hc]
    | false =>
      rw [if_pos (by simp), decodeFrom, decodeFrom, hc]
      simp only [ih]

theorem decode_congr {cs ds : List Char} (h : KeyText.symbols cs = KeyText.symbols ds) :
  decode cs = decode ds
  := by
  rw [decode, decode, ← decodeFrom_symbols cs, h, decodeFrom_symbols ds]

theorem textBits_map_toUpper (cs : List Char) :
  textBits (cs.map Char.toUpper) = textBits cs
  := by
  have hsymbol : symbolBits ∘ Char.toUpper = symbolBits := by
    funext c
    rw [Function.comp_apply, symbolBits, symbolBits, value?_toUpper]
  have hseparator : (fun c => !isSeparator c) ∘ Char.toUpper = fun c => !isSeparator c := by
    funext c
    rw [Function.comp_apply, isSeparator_toUpper]
  rw [textBits, textBits, List.filter_map, List.flatMap_map, hseparator]
  change List.flatMap (symbolBits ∘ Char.toUpper) _ = _
  rw [hsymbol]

/-- A small letter is as good as a large one. -/
theorem decode_map_toUpper {cs : List Char} {bs : Bytes} :
  decode (cs.map Char.toUpper) = .ok bs ↔ decode cs = .ok bs
  := by
  rw [decode_eq_ok_iff, decode_eq_ok_iff, textBits_map_toUpper, List.forall_mem_map]
  simp only [isSeparator_toUpper, value?_toUpper]

end Symbols

/-! ### Keys -/

theorem KeyVersion.ofChars_congr {cs ds : List Char} (h : Text.trimChars cs = Text.trimChars ds) :
  ofChars cs = ofChars ds
  := by
  rw [ofChars, ofChars, h]

theorem KeyVersion.ofChars_eq_ok_iff {cs : List Char} {v : KeyVersion} :
  ofChars cs = .ok v ↔ Text.trimChars cs = v.toText.toList
  := by
  unfold ofChars
  split
  · rename_i h
    rw [h]
    cases v <;> decide
  · rename_i h
    rw [h]
    cases v <;> decide
  · rename_i h₁ h₂
    constructor
    · rintro ⟨⟩
    · intro h
      cases v with
      | v1 => exact absurd h h₁
      | v2 => exact absurd h h₂

theorem KeyVersion.ofChars_map_toUpper {cs : List Char} {v : KeyVersion} :
  ofChars (cs.map Char.toUpper) = .ok v ↔ ofChars cs = .ok v
  := by
  obtain ⟨c, htext, hmem⟩ := v.exists_digit
  have hdigit : ∀ c ∈ ['1', '2'], c.toNat < 65 := List.all_iff_forall_prop.1 (by decide)
  have hc := hdigit c hmem
  rw [ofChars_eq_ok_iff, ofChars_eq_ok_iff, KeyText.trimChars_map_toUpper, htext,
    List.map_eq_singleton_iff]
  simp only [toUpper_eq_iff hc, exists_eq_right]

namespace DecodedKey

theorem ofText_trim (s : String) :
  ofText (Text.trim s) = ofText s
  := by
  rw [ofText, ofText, KeyText.split?_trim]

/-- The key is read off the version and the octets. -/
theorem ofText_eq_of_split? {s t : String} {version version' body body' : List Char}
    (hs : KeyText.split? s.toList = some (version, body))
    (ht : KeyText.split? t.toList = some (version', body'))
    (hversion : KeyVersion.ofChars version = KeyVersion.ofChars version')
    (hbody : Symbols.decode body = Symbols.decode body') :
  ofText s = ofText t
  := by
  rw [ofText, ofText, hs, ht]
  dsimp only
  rw [hversion, hbody]

/-- Texts with the same version and the same symbols are the same key, or are wrong in the
same way. -/
theorem ofText_congr {s t : String} {version version' body body' : List Char}
    (hs : KeyText.split? s.toList = some (version, body))
    (ht : KeyText.split? t.toList = some (version', body'))
    (hversion : Text.trimChars version = Text.trimChars version')
    (hsymbols : KeyText.symbols body = KeyText.symbols body') :
  ofText s = ofText t
  := ofText_eq_of_split? hs ht (KeyVersion.ofChars_congr hversion) (Symbols.decode_congr hsymbols)

/-- The case of letters does not matter to a key that can be read. -/
theorem ofText_of_toUpper {s t : String} {k : DecodedKey}
    (h : s.toList.map Char.toUpper = t.toList.map Char.toUpper) (hs : ofText s = .ok k) :
  ofText t = .ok k
  := by
  obtain ⟨version, body, hsplit, hversion, hbody, -⟩ := ofText_eq_ok hs
  -- The parts of the other text are those of this one in other letters.
  have hparts := KeyText.split?_map_toUpper t.toList
  rw [← h, KeyText.split?_map_toUpper, hsplit] at hparts
  obtain ⟨⟨version', body'⟩, hsplit', hletters⟩ := Option.map_eq_some_iff.1 hparts.symm
  obtain ⟨hversion', hbody'⟩ := Prod.mk.inj hletters
  dsimp only at hversion' hbody'
  rw [← hs]
  apply ofText_eq_of_split? hsplit' hsplit
  · rw [hversion, ← KeyVersion.ofChars_map_toUpper, hversion', KeyVersion.ofChars_map_toUpper,
      hversion]
  · rw [hbody, ← Symbols.decode_map_toUpper, hbody', Symbols.decode_map_toUpper, hbody]

/-- All that matters to a key that can be read are its version and its symbols, in letters of
either case. -/
theorem ofText_of_respells {s t : String} {k : DecodedKey} (h : KeyText.Respells s t)
    (hs : ofText s = .ok k) :
  ofText t = .ok k
  := by
  obtain ⟨version, version', body, body', hsplit, hsplit', hversion, hletters⟩ := h
  obtain ⟨_, _, hsplit'', -, hbody, -⟩ := ofText_eq_ok hs
  cases hsplit.symm.trans hsplit''
  rw [← hs]
  apply ofText_eq_of_split? hsplit' hsplit (KeyVersion.ofChars_congr hversion.symm)
  rw [hbody, Symbols.decode_congr (KeyText.symbols_symbols body').symm,
    ← Symbols.decode_map_toUpper, ← hletters, Symbols.decode_map_toUpper,
    Symbols.decode_congr (KeyText.symbols_symbols body), hbody]

theorem ofText_grouped (s : String) (n : Nat) :
  ofText (KeyText.grouped s n) = ofText s
  := by
  cases h : KeyText.split? s.toList with
  | none =>
    rw [KeyText.grouped_of_split?_eq_none h, ofText_trim]
  | some parts =>
    obtain ⟨body, hbody, hsymbols⟩ := KeyText.split?_grouped h n
    apply ofText_congr hbody h rfl hsymbols

/-- Of a text, only the version and the symbols matter. Every text whose version is the same
without blank characters around it, and whose symbols are the same, is the same key, or is
wrong in the same way; so is the text in groups, and new groups replace those that are there.
If the text is a key, it is the same key in letters of another case. -/
theorem ofText_spelling (s : String) :
  (∀ t version version' body body', KeyText.split? s.toList = some (version, body) →
    KeyText.split? t.toList = some (version', body') →
    Text.trimChars version = Text.trimChars version' →
    KeyText.symbols body = KeyText.symbols body' → ofText s = ofText t) ∧
  (∀ t k, ofText s = .ok k → s.toList.map Char.toUpper = t.toList.map Char.toUpper →
    ofText t = .ok k) ∧
  (∀ n, ofText (KeyText.grouped s n) = ofText s) ∧
  (∀ n m, 0 < m → KeyText.grouped (KeyText.grouped s n) m = KeyText.grouped s m)
  := by
  constructor
  · intro t version version' body body' hs ht hversion hsymbols
    apply ofText_congr hs ht hversion hsymbols
  · constructor
    · intro t k hs hupper
      apply ofText_of_toUpper hupper hs
    · constructor
      · intro n
        apply ofText_grouped
      · intro n m hm
        apply KeyText.grouped_grouped s n hm

/-- A key with a truth value, with blank characters and dashes, with small letters, and in
groups. -/
theorem ofText_spelling_auditable :
  ∃ k, ofText "2-3J2ZY" = .ok k ∧ ofText " 2 -3J-2\tZY\n" = .ok k ∧ ofText "2-3j2zY" = .ok k ∧
    ofText (KeyText.grouped "2-3J2ZY" 2) = .ok k ∧
    KeyText.grouped (KeyText.grouped "2-3J2ZY" 2) 4 = "2-3J2Z-Y"
  := by
  obtain ⟨hseparators, hletters, hgroups, hagain⟩ := ofText_spelling "2-3J2ZY"
  have hread : (ofText "2-3J2ZY").toOption.isSome = true := by decide +kernel
  obtain ⟨k, hk⟩ := Option.isSome_iff_exists.1 hread
  have hk := eq_ok_of_toOption hk
  refine ⟨k, hk, ?_, hletters _ k hk ?_, ?_, ?_⟩
  · rw [← hk]
    symm
    apply hseparators _ ['2'] ['2', ' '] ['3', 'J', '2', 'Z', 'Y']
      ['3', 'J', '-', '2', '\t', 'Z', 'Y'] <;> decide +kernel
  · decide +kernel
  · rw [hgroups, hk]
  · rw [hagain 2 4 (by decide)]
    decide +kernel

end DecodedKey

end Entitlement

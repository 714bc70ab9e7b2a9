import Entitlement.Json.Reader
import Entitlement.Proofs.Json.Decimal
import Entitlement.Proofs.Json.Text
import Mathlib.Data.Bool.AllAny

/-!
# Values that are read back

What is read as a value is nested no deeper than the reader goes, and the members of its
objects are sorted (`Json.Shaped`), and its numbers are in range (`Json.inRange_of_value`).
What is written for such a value in either layout is read as the value with its numbers read
again (`Json.value_write`), which is the value if each of them is read as it is written
(`Json.reread_eq`).
-/

namespace Entitlement.Json

/-! ### Blanks -/

theorem skipBlank_append {bs : List Char} (h : ∀ c ∈ bs, isBlank c = true) (cs : List Char) :
  skipBlank (bs ++ cs) = skipBlank cs
  := List.dropWhile_append_of_pos h

theorem skipBlank_cons {c : Char} (h : isBlank c = false) (cs : List Char) :
  skipBlank (c :: cs) = c :: cs
  := by
  rw [skipBlank, List.dropWhile_cons, h, if_neg Bool.false_ne_true]

/-- The text begins with a character that is neither blank nor the closing bracket. -/
def Opens (close : Char) (cs : List Char) : Prop :=
  ∃ c cs', cs = c :: cs' ∧ isBlank c = false ∧ c ≠ close

theorem ends_cons {c : Char} (h : c.isDigit = false ∧ c ≠ '.' ∧ c ≠ 'e' ∧ c ≠ 'E')
    (cs : List Char) :
  Numeral.Ends (c :: cs)
  := by
  rintro _ ⟨⟩
  apply h

/-- The closing brackets. -/
def closings : List Char := [']', '}']

theorem ends_close {close : Char} {bs rest : List Char} (hclose : close ∈ closings)
    (hbs : ∀ c ∈ bs, isBlank c = true) :
  Numeral.Ends (bs ++ close :: rest)
  := by
  have hclosings : ∀ c ∈ closings, c.isDigit = false ∧ c ≠ '.' ∧ c ≠ 'e' ∧ c ≠ 'E' :=
    List.all_iff_forall_prop.1 (by decide)
  have hblanks : ∀ c ∈ [' ', '\n', '\t', '\r'],
      c.isDigit = false ∧ c ≠ '.' ∧ c ≠ 'e' ∧ c ≠ 'E' :=
    List.all_iff_forall_prop.1 (by decide)
  cases bs with
  | nil => apply ends_cons (hclosings close hclose)
  | cons b bs =>
    apply ends_cons
    apply hblanks
    have hb := hbs b List.mem_cons_self
    simpa [isBlank, or_assoc] using hb

/-! ### Elements -/

section

variable {α β : Type} {item : Reader β} {f : α → β} {close : Char} {w : α → List Char}
  {before after behind rest : List Char}

/-- What is written for the elements after the first one, and what stands behind them. -/
def moreText (before : List Char) (w : α → List Char) (behind : List Char) :
    List α → List Char
  | [] => behind
  | a :: as => ',' :: (before ++ (w a ++ moreText before w behind as))

theorem ends_moreText (h : Numeral.Ends behind) (as : List α) :
  Numeral.Ends (moreText before w behind as)
  := by
  cases as with
  | nil => apply h
  | cons a as => apply ends_cons (by decide)

/-- There are no more elements than characters. -/
theorem length_le_moreText (before : List Char) (w : α → List Char) (behind : List Char)
    (as : List α) :
  as.length ≤ (moreText before w behind as).length
  := by
  induction as with
  | nil => apply Nat.zero_le
  | cons a as ih =>
    simp only [moreText, List.length_append, List.length_cons]
    omega

/-- What is written for the elements after the first one is read as what each of them is
read as. -/
theorem moreItems_moreText {as : List α} {fuel : Nat} (rest : List Char)
    (hitem : ∀ a ∈ as, ∀ rest, Numeral.Ends rest → item (w a ++ rest) = some (f a, rest))
    (hopens : ∀ a ∈ as, Opens close (w a)) (hclose : close ∈ closings)
    (hbefore : ∀ c ∈ before, isBlank c = true) (hafter : ∀ c ∈ after, isBlank c = true)
    (hfuel : as.length < fuel) :
  moreItems item close fuel (moreText before w (after ++ close :: rest) as) =
    some (as.map f, rest)
  := by
  induction as generalizing fuel with
  | nil =>
    have hclosings : ∀ c ∈ closings, isBlank c = false ∧ c ≠ ',' :=
      List.all_iff_forall_prop.1 (by decide)
    obtain ⟨hblank, hcomma⟩ := hclosings close hclose
    obtain ⟨fuel, rfl⟩ := Nat.exists_eq_succ_of_ne_zero (Nat.ne_of_gt hfuel)
    unfold moreItems moreText
    rw [skipBlank_append hafter, skipBlank_cons hblank]
    split
    · rename_i h
      cases h
    · rename_i h
      cases h
      cases hcomma rfl
    · rename_i h
      cases h
      rw [if_pos rfl, List.map_nil]
  | cons a as ih =>
    obtain ⟨fuel, rfl⟩ := Nat.exists_eq_succ_of_ne_zero (Nat.ne_of_gt (Nat.zero_lt_of_lt hfuel))
    obtain ⟨c, cs, hw, hblank, -⟩ := hopens a List.mem_cons_self
    have hothers := ih (fun a' ha' => hitem a' (List.mem_cons_of_mem a ha'))
      (fun a' ha' => hopens a' (List.mem_cons_of_mem a ha')) (Nat.lt_of_succ_lt_succ hfuel)
    have hfirst := hitem a List.mem_cons_self (moreText before w (after ++ close :: rest) as)
      (ends_moreText (ends_close hclose hafter) as)
    change (item (skipBlank (before ++ (w a ++ moreText before w _ as))) >>= _) = _
    rw [skipBlank_append hbefore, hw, List.cons_append, skipBlank_cons hblank,
      ← List.cons_append, ← hw, hfirst]
    change (moreItems item close fuel (moreText before w _ as) >>= _) = _
    rw [hothers]
    rfl

theorem items_close (hclose : close ∈ closings) :
  items item close (close :: rest) = some ([], rest)
  := by
  have hclosings : ∀ c ∈ closings, isBlank c = false :=
    List.all_iff_forall_prop.1 (by decide)
  unfold items
  rw [skipBlank_cons (hclosings close hclose)]
  dsimp only
  rw [if_pos rfl]

theorem items_cons {a : α} {as : List α} (rest : List Char)
    (hitem : ∀ b ∈ a :: as, ∀ rest, Numeral.Ends rest → item (w b ++ rest) = some (f b, rest))
    (hopens : ∀ b ∈ a :: as, Opens close (w b)) (hclose : close ∈ closings)
    (hbefore : ∀ c ∈ before, isBlank c = true) (hafter : ∀ c ∈ after, isBlank c = true) :
  items item close (before ++ (w a ++ moreText before w (after ++ close :: rest) as)) =
    some ((a :: as).map f, rest)
  := by
  obtain ⟨c, cs, hw, hblank, hc⟩ := hopens a List.mem_cons_self
  have hlength := length_le_moreText before w (after ++ close :: rest) as
  have hothers := moreItems_moreText rest
    (fun b hb => hitem b (List.mem_cons_of_mem a hb))
    (fun b hb => hopens b (List.mem_cons_of_mem a hb)) hclose hbefore hafter
    (Nat.lt_succ_of_le hlength)
  have hfirst := hitem a List.mem_cons_self (moreText before w (after ++ close :: rest) as)
    (ends_moreText (ends_close hclose hafter) as)
  unfold items
  rw [skipBlank_append hbefore, hw, List.cons_append, skipBlank_cons hblank]
  dsimp only
  rw [if_neg hc, ← List.cons_append, ← hw, hfirst]
  change (moreItems item close _ (moreText before w _ as) >>= _) = _
  rw [hothers]
  rfl

/-- Whatever is read as one of the elements has been read as an element. -/
theorem mem_moreItems {fuel : Nat} {cs : List Char} {as : List β}
    (h : moreItems item close fuel cs = some (as, rest)) :
  ∀ a ∈ as, ∃ cs cs', item cs = some (a, cs')
  := by
  induction fuel generalizing cs as with
  | zero => cases h
  | succ fuel ih =>
    unfold moreItems at h
    split at h
    · cases h
    · rename_i cs₁ _
      obtain ⟨⟨b, cs₂⟩, hb, h₁⟩ := Option.bind_eq_some_iff.1 h
      obtain ⟨⟨bs, cs₃⟩, hbs, h₂⟩ := Option.bind_eq_some_iff.1 h₁
      cases h₂
      intro a ha
      rcases List.mem_cons.1 ha with rfl | ha
      · use skipBlank cs₁, cs₂
      · apply ih hbs a ha
    · split at h
      · cases h
        rintro _ ⟨⟩
      · cases h

theorem mem_items {cs : List Char} {as : List β} (h : items item close cs = some (as, rest)) :
  ∀ a ∈ as, ∃ cs cs', item cs = some (a, cs')
  := by
  unfold items at h
  split at h
  · cases h
  · rename_i c cs₁ _
    split at h
    · cases h
      rintro _ ⟨⟩
    · obtain ⟨⟨b, cs₂⟩, hb, h₁⟩ := Option.bind_eq_some_iff.1 h
      obtain ⟨⟨bs, cs₃⟩, hbs, h₂⟩ := Option.bind_eq_some_iff.1 h₁
      cases h₂
      intro a ha
      rcases List.mem_cons.1 ha with rfl | ha
      · use c :: cs₁, cs₂
      · apply mem_moreItems hbs a ha

end

/-! ### Members -/

theorem Layout.isBlank_lineBreak (layout : Layout) (level : Nat) :
  ∀ c ∈ layout.lineBreak level, isBlank c = true
  := by
  cases layout with
  | compact => rintro _ ⟨⟩
  | indented =>
    intro c hc
    rcases List.mem_cons.1 hc with rfl | hc
    · rfl
    · rw [List.eq_of_mem_replicate hc]
      rfl

/-- Whatever is read as the value of a member has been read as a value. -/
theorem value_of_member {α κ : Type} {name : Reader κ} {value : κ → Reader α} {m : κ × α}
    {cs rest : List Char} (h : member name value cs = some (m, rest)) :
  ∃ cs, value m.1 cs = some (m.2, rest)
  := by
  unfold member at h
  split at h
  · obtain ⟨⟨k, cs₁⟩, -, h₁⟩ := Option.bind_eq_some_iff.1 h
    dsimp only at h₁
    split at h₁
    · rename_i cs₂ _
      obtain ⟨⟨v, cs₃⟩, hv, hdone⟩ := Option.bind_eq_some_iff.1 h₁
      cases hdone
      use skipBlank cs₂
    · cases h₁
  · cases h

/-- What is written for a name and a value is read as them. -/
theorem member_append {α : Type} {layout : Layout} {value : String → Reader α} {k : String}
    {v : α} {close : Char} {cs rest : List Char} (hcs : Opens close cs)
    (hvalue : value k cs = some (v, rest)) :
  member readString value (Quoted.encode k ++ (layout.colon ++ cs)) = some ((k, v), rest)
  := by
  obtain ⟨c, cs', rfl, hblank, -⟩ := hcs
  have hcolon : ∃ bs, layout.colon ++ c :: cs' = ':' :: (bs ++ c :: cs') ∧
      ∀ b ∈ bs, isBlank b = true := by
    cases layout with
    | compact =>
      use [], rfl
      rintro _ ⟨⟩
    | indented =>
      use [' '], rfl
      simp [isBlank]
  obtain ⟨bs, hbs, hblanks⟩ := hcolon
  obtain ⟨cs₁, hencode, hname⟩ := readString_encode k (layout.colon ++ c :: cs')
  rw [hencode]
  change (readString cs₁ >>= _) = _
  rw [hname, hbs, Option.bind_eq_bind, Option.bind_some]
  dsimp only
  rw [skipBlank_cons (by decide)]
  change (value k (skipBlank (bs ++ c :: cs')) >>= _) = _
  rw [skipBlank_append hblanks, skipBlank_cons hblank, hvalue]
  rfl

/-! ### Values -/

/-- The value is nested up to the depth, and the members of its objects are sorted. -/
def Shaped : (depth : Nat) → Json → Prop
  | depth + 1, array vs => ∀ v ∈ vs, Shaped depth v
  | depth + 1, object ms => Sorted.Ascending ms ∧ ∀ m ∈ ms, Shaped depth m.2
  | 0, array _ | 0, object _ => False
  | _, null | _, bool _ | _, number _ | _, string _ => True

theorem ofMembers_of_ascending {ms : List (String × Json)} (h : Sorted.Ascending ms) :
  ofMembers ms = ms
  := by
  have hasymm (a b : String) (hab : a < b) (hba : b < a) : False :=
    String.lt_irrefl a (String.lt_trans hab hba)
  have hnil : Sorted.Ascending ([] ++ ms) := h
  rw [ofMembers, Sorted.foldl_insert hasymm hnil, List.nil_append]

theorem ofMembers_cases (ms : List (String × Json)) :
  Sorted.Ascending (ofMembers ms) ∧ ∀ m ∈ ofMembers ms, m ∈ ms
  := by
  have htotal (a b : String) : a < b ∨ a = b ∨ b < a := by
    by_cases hab : a < b
    · left
      apply hab
    · right
      by_cases hba : b < a
      · right
        apply hba
      · left
        apply String.le_antisymm (String.not_lt.1 hba) (String.not_lt.1 hab)
  have hfold (ps : List (String × Json)) (hps : Sorted.Ascending ps) :
      Sorted.Ascending (ms.foldl (fun ms m => Sorted.insert m.1 m.2 ms) ps) ∧
        ∀ m ∈ ms.foldl (fun ms m => Sorted.insert m.1 m.2 ms) ps, m ∈ ps ∨ m ∈ ms := by
    induction ms generalizing ps with
    | nil =>
      use hps
      intro m hm
      left
      apply hm
    | cons q ms ih =>
      obtain ⟨hascending, hmem⟩ := ih _ (hps.insert htotal (k := q.1) (v := q.2))
      use hascending
      intro m hm
      rcases hmem m hm with hm | hm
      · rcases Sorted.mem_insert hm with rfl | hm
        · right
          apply List.mem_cons_self
        · left
          apply hm
      · right
        apply List.mem_cons_of_mem q hm
  obtain ⟨hascending, hmem⟩ := hfold [] List.Pairwise.nil
  use hascending
  intro m hm
  rcases hmem m hm with ⟨⟨⟩⟩ | hm
  apply hm

/-- The number occurs in the value. -/
inductive Mentions (x : Number) : Json → Prop where
  | number : Mentions x (.number x)
  | item {vs : List Json} {v : Json} (mem : v ∈ vs) (mentions : Mentions x v) :
    Mentions x (.array vs)
  | member {ms : List (String × Json)} {m : String × Json} (mem : m ∈ ms)
    (mentions : Mentions x m.2) : Mentions x (.object ms)

mutual

/-- What the text of a value is read as: the value with its numbers read again. -/
def reread : Json → Json
  | null => null
  | bool b => bool b
  | number x => number x.reread
  | string s => string s
  | array vs => array (rereadItems vs)
  | object ms => object (rereadMembers ms)

/-- What the texts of elements are read as. -/
def rereadItems : List Json → List Json
  | [] => []
  | v :: vs => v.reread :: rereadItems vs

/-- What the texts of members are read as. -/
def rereadMembers : List (String × Json) → List (String × Json)
  | [] => []
  | (k, v) :: ms => (k, v.reread) :: rereadMembers ms

end

theorem rereadItems_eq (vs : List Json) :
  rereadItems vs = vs.map reread
  := by
  induction vs with
  | nil => rw [rereadItems, List.map_nil]
  | cons v vs ih => rw [rereadItems, ih, List.map_cons]

theorem rereadMembers_eq (ms : List (String × Json)) :
  rereadMembers ms = ms.map fun m => (m.1, m.2.reread)
  := by
  induction ms with
  | nil => rw [rereadMembers, List.map_nil]
  | cons m ms ih => rw [rereadMembers, ih, List.map_cons]

theorem ascending_reread {ms : List (String × Json)} (h : Sorted.Ascending ms) :
  Sorted.Ascending (ms.map fun m => (m.1, m.2.reread))
  := by
  apply List.pairwise_map.2
  apply h

theorem Shaped.reread {depth : Nat} {v : Json} (h : v.Shaped depth) :
  v.reread.Shaped depth
  := by
  induction depth generalizing v with
  | zero => cases v <;> exact h
  | succ depth ih =>
    cases v with
    | array vs =>
      rw [Json.reread, rereadItems_eq]
      intro v hv
      obtain ⟨u, hu, rfl⟩ := List.mem_map.1 hv
      apply ih (h u hu)
    | object ms =>
      rw [Json.reread, rereadMembers_eq]
      use ascending_reread h.1
      intro m hm
      obtain ⟨u, hu, rfl⟩ := List.mem_map.1 hm
      apply ih (h.2 u hu)
    | null | bool b | number x | string s => exact h

/-- A value all of whose numbers are read as they are written is read as it is written. -/
theorem reread_eq {depth : Nat} {v : Json} (hv : v.Shaped depth)
    (hx : ∀ x, v.Mentions x → x.IsReread) :
  v.reread = v
  := by
  induction depth generalizing v with
  | zero =>
    cases v with
    | number x => rw [reread, (hx x .number).reread_eq]
    | array vs => cases hv
    | object ms => cases hv
    | null | bool b | string s => rw [reread]
  | succ depth ih =>
    cases v with
    | array vs =>
      have hmap : vs.map reread = vs.map id := by
        apply List.map_congr_left
        intro v hmem
        apply ih (hv v hmem)
        intro x h
        apply hx x (.item hmem h)
      rw [reread, rereadItems_eq, hmap, List.map_id]
    | object ms =>
      have hmap : ms.map (fun m => (m.1, m.2.reread)) = ms.map id := by
        apply List.map_congr_left
        intro m hmem
        rw [ih (hv.2 m hmem) fun x h => hx x (.member hmem h)]
        rfl
      rw [reread, rereadMembers_eq, hmap, List.map_id]
    | number x => rw [reread, (hx x .number).reread_eq]
    | null | bool b | string s => rw [reread]

theorem writeItems_append (layout : Layout) (level : Nat) (vs : List Json)
    (behind : List Char) :
  writeItems layout level vs ++ behind =
    moreText (layout.lineBreak level) (fun v => v.write layout level) behind vs
  := by
  induction vs with
  | nil =>
    rw [writeItems]
    rfl
  | cons v vs ih =>
    rw [writeItems, moreText, ← ih]
    simp only [List.cons_append, List.append_assoc]

/-- The text of a member. -/
def memberText (layout : Layout) (level : Nat) (m : String × Json) : List Char :=
  Quoted.encode m.1 ++ (layout.colon ++ m.2.write layout level)

theorem writeMembers_append (layout : Layout) (level : Nat) (ms : List (String × Json))
    (behind : List Char) :
  writeMembers layout level ms ++ behind =
    moreText (layout.lineBreak level) (memberText layout level) behind ms
  := by
  induction ms with
  | nil =>
    rw [writeMembers]
    rfl
  | cons m ms ih =>
    rw [writeMembers, moreText, ← ih, memberText]
    simp only [List.cons_append, List.append_assoc]

theorem write_object (ms : List (String × Json)) (layout : Layout) (level : Nat) :
  ∃ cs, (object ms).write layout level = '\x7b' :: cs
  := by
  cases ms <;> exact ⟨_, by rw [write]⟩

theorem opens_memberText (layout : Layout) (level : Nat) (m : String × Json) :
  Opens '}' (memberText layout level m)
  := by
  use '"', (m.1.toList.flatMap Quoted.spell ++ ['"']) ++ (layout.colon ++ m.2.write layout level)
  use rfl
  decide

/-- The characters with a part to play at the front of a value that is no number. -/
def signs : List Char := [' ', '\n', '\t', '\r', ']', 'n', 't', 'f', '"', '[', '{']

theorem not_mem_signs {c : Char} (h : c = '-' ∨ c.isDigit = true) :
  c ∉ signs
  := by
  have hsigns : ∀ d ∈ signs, d ≠ '-' ∧ d.isDigit = false :=
    List.all_iff_forall_prop.1 (by decide)
  intro hc
  obtain ⟨hminus, hdigit⟩ := hsigns c hc
  rcases h with h | h
  · apply hminus h
  · rw [hdigit] at h
    cases h

theorem opens_write {v : Json} (hx : ∀ x, v.Mentions x → x.IsReadable) (layout : Layout)
    (level : Nat) :
  Opens ']' (v.write layout level)
  := by
  cases v with
  | null => exact ⟨'n', _, by rw [write], by decide, by decide⟩
  | bool b => cases b <;> exact ⟨_, _, by rw [write], by decide, by decide⟩
  | number x =>
    obtain ⟨c, cs, hcs, hc⟩ := Number.head_of_read? (hx x .number).read?_text
    have hsigns := not_mem_signs hc
    simp only [signs, List.mem_cons, not_or] at hsigns
    use c, cs
    constructor
    · rw [write, hcs]
    · simp [isBlank, hsigns]
  | string s => exact ⟨'"', _, by rw [write, Quoted.encode], by decide, by decide⟩
  | array vs => cases vs <;> exact ⟨'[', _, by rw [write], by decide, by decide⟩
  | object ms => cases ms <;> exact ⟨'{', _, by rw [write], by decide, by decide⟩

/-- What is written for an array is read as its elements behind the opening bracket. -/
theorem items_write {item : Reader Json} {layout : Layout} {level : Nat} {vs : List Json}
    (hitem : ∀ v ∈ vs, ∀ rest, Numeral.Ends rest →
      item (v.write layout (level + 1) ++ rest) = some (v.reread, rest))
    (hopens : ∀ v ∈ vs, Opens ']' (v.write layout (level + 1))) (rest : List Char) :
  ∃ cs, (array vs).write layout level ++ rest = '[' :: cs ∧
    items item ']' cs = some (vs.map reread, rest)
  := by
  cases vs with
  | nil =>
    use ']' :: rest
    rw [write]
    constructor
    · rfl
    · apply items_close (by decide)
  | cons v vs =>
    have hitems := items_cons rest hitem hopens (by decide)
      (layout.isBlank_lineBreak (level + 1)) (layout.isBlank_lineBreak level)
    rw [write]
    simp only [List.cons_append, List.append_assoc, List.nil_append]
    rw [writeItems_append]
    exact ⟨_, rfl, hitems⟩

theorem write_object_cons (layout : Layout) (level : Nat) (m : String × Json)
    (ms : List (String × Json)) (rest : List Char) :
  (object (m :: ms)).write layout level ++ rest =
    '\x7b' :: (layout.lineBreak (level + 1) ++ (memberText layout (level + 1) m ++
      moreText (layout.lineBreak (level + 1)) (memberText layout (level + 1))
        (layout.lineBreak level ++ '\x7d' :: rest) ms))
  := by
  rw [write, memberText]
  simp only [List.cons_append, List.append_assoc, List.nil_append]
  rw [writeMembers_append]

/-- What is written for an object is read as its members behind the opening bracket. -/
theorem members_write {item : Reader Json} {layout : Layout} {level : Nat}
    {ms : List (String × Json)}
    (hitem : ∀ m ∈ ms, ∀ rest, Numeral.Ends rest →
      item (m.2.write layout (level + 1) ++ rest) = some (m.2.reread, rest))
    (hopens : ∀ m ∈ ms, Opens ']' (m.2.write layout (level + 1))) (rest : List Char) :
  ∃ cs, (object ms).write layout level ++ rest = '\x7b' :: cs ∧
    items (member readString fun _ => item) '\x7d' cs =
      some (ms.map fun m => (m.1, m.2.reread), rest)
  := by
  cases ms with
  | nil =>
    use '\x7d' :: rest
    rw [write]
    constructor
    · rfl
    · apply items_close (by decide)
  | cons m ms =>
    have hmember (u : String × Json) (hu : u ∈ m :: ms) (rest : List Char)
        (hrest : Numeral.Ends rest) :
        member readString (fun _ => item) (memberText layout (level + 1) u ++ rest) =
          some ((u.1, u.2.reread), rest) := by
      rw [memberText, List.append_assoc, List.append_assoc]
      have hbegins : Opens ']' (u.2.write layout (level + 1) ++ rest) := by
        obtain ⟨c, cs, hcs, hc⟩ := hopens u hu
        rw [hcs]
        use c, cs ++ rest, rfl
      apply member_append hbegins (hitem u hu rest hrest)
    have hitems := items_cons rest hmember (fun u _ => opens_memberText layout (level + 1) u)
      (by decide) (layout.isBlank_lineBreak (level + 1)) (layout.isBlank_lineBreak level)
    rw [write_object_cons]
    exact ⟨_, rfl, hitems⟩

theorem value_of_scalar {c : Char} (hc : c ≠ '[' ∧ c ≠ '\x7b') (depth : Nat) (cs : List Char) :
  Parts.kept.value depth (c :: cs) = Parts.kept.scalar (c :: cs)
  := by
  cases depth with
  | zero => rfl
  | succ depth =>
    unfold Parts.value
    split
    · rfl
    · rename_i h
      cases h
      cases hc.1 rfl
    · rename_i h
      cases h
      cases hc.2 rfl
    · rfl

theorem scalar_of_number {c : Char} (hc : c ∉ signs) (cs : List Char) :
  Parts.kept.scalar (c :: cs) = (Number.read? (c :: cs)).map fun (x, cs) => (.number x, cs)
  := by
  unfold Parts.scalar
  split
  case h_5 => rfl
  all_goals
    rename_i h
    cases h
    cases hc (by decide)

/-- A value that is neither array nor object is read as it is written. -/
theorem value_write_leaf {v : Json} (hv : v.Shaped 0) (hx : ∀ x, v.Mentions x → x.IsReadable)
    (layout : Layout) (level depth : Nat) {rest : List Char} (hrest : Numeral.Ends rest) :
  Parts.kept.value depth (v.write layout level ++ rest) = some (v.reread, rest)
  := by
  cases v with
  | null =>
    rw [write]
    apply value_of_scalar (by decide)
  | bool b =>
    cases b
    · rw [write]
      apply value_of_scalar (by decide)
    · rw [write]
      apply value_of_scalar (by decide)
  | number x =>
    have hx := (hx x .number).read?_text
    obtain ⟨c, cs, hcs, hc⟩ := Number.head_of_read? hx
    have hsigns := not_mem_signs hc
    have hbrackets : c ≠ '[' ∧ c ≠ '\x7b' := by
      constructor
      · rintro rfl
        apply hsigns (by decide)
      · rintro rfl
        apply hsigns (by decide)
    have hread := Number.read?_append hx hrest
    rw [write, reread]
    rw [hcs, List.cons_append] at hread ⊢
    rw [value_of_scalar hbrackets, scalar_of_number hsigns, hread]
    rfl
  | string s =>
    obtain ⟨cs, hcs, hread⟩ := readString_encode s rest
    rw [write, hcs, value_of_scalar (by decide)]
    change (readString cs).map _ = _
    rw [hread]
    rfl
  | array vs => cases hv
  | object ms => cases hv

/-- What is written for a value is read as the value with its numbers read again. -/
theorem value_write {depth : Nat} {v : Json} (hv : v.Shaped depth)
    (hx : ∀ x, v.Mentions x → x.IsReadable) (layout : Layout) (level : Nat) {rest : List Char}
    (hrest : Numeral.Ends rest) :
  Parts.kept.value depth (v.write layout level ++ rest) = some (v.reread, rest)
  := by
  induction depth generalizing v level rest with
  | zero => apply value_write_leaf hv hx layout level 0 hrest
  | succ depth ih =>
    cases v with
    | array vs =>
      have hopens (v : Json) (hmem : v ∈ vs) : Opens ']' (v.write layout (level + 1)) :=
        opens_write (fun x h => hx x (.item hmem h)) layout (level + 1)
      have hitem (v : Json) (hmem : v ∈ vs) (rest : List Char) (hrest : Numeral.Ends rest) :=
        ih (hv v hmem) (fun x h => hx x (.item hmem h)) (level + 1) hrest
      obtain ⟨cs, hcs, hitems⟩ := items_write hitem hopens rest
      rw [hcs]
      change (items (Parts.kept.value depth) ']' cs >>= _) = _
      rw [hitems, reread, rereadItems_eq]
      rfl
    | object ms =>
      obtain ⟨hascending, hshaped⟩ := hv
      have hopens (m : String × Json) (hmem : m ∈ ms) :
          Opens ']' (m.2.write layout (level + 1)) :=
        opens_write (fun x h => hx x (.member hmem h)) layout (level + 1)
      have hitem (m : String × Json) (hmem : m ∈ ms) (rest : List Char)
          (hrest : Numeral.Ends rest) :=
        ih (hshaped m hmem) (fun x h => hx x (.member hmem h)) (level + 1) hrest
      obtain ⟨cs, hcs, hitems⟩ := members_write hitem hopens rest
      rw [hcs]
      change (items (member readString fun _ => Parts.kept.value depth) '\x7d' cs >>= _) = _
      rw [hitems]
      change some (object (ofMembers (ms.map fun m => (m.1, m.2.reread))), rest) = _
      rw [ofMembers_of_ascending (ascending_reread hascending), reread, rereadMembers_eq]
    | null | bool b | number x | string s =>
      apply value_write_leaf _ hx layout level (depth + 1) hrest
      trivial

/-! ### Values that were read -/

theorem Shaped.mono {v : Json} (h : v.Shaped 0) (depth : Nat) :
  v.Shaped depth
  := by
  cases v with
  | array vs => cases h
  | object ms => cases h
  | null | bool b | number x | string s =>
    cases depth
    · trivial
    · trivial

theorem shaped_of_scalar {cs rest : List Char} {v : Json}
    (h : Parts.kept.scalar cs = some (v, rest)) :
  v.Shaped 0
  := by
  unfold Parts.scalar at h
  split at h
  · cases h
    trivial
  · cases h
    trivial
  · cases h
    trivial
  · obtain ⟨⟨s, cs⟩, -, hs⟩ := Option.map_eq_some_iff.1 h
    cases hs
    trivial
  · obtain ⟨⟨x, cs⟩, -, hx⟩ := Option.map_eq_some_iff.1 h
    cases hx
    trivial

theorem shaped_of_value {depth : Nat} {cs rest : List Char} {v : Json}
    (h : Parts.kept.value depth cs = some (v, rest)) :
  v.Shaped depth
  := by
  induction depth generalizing cs rest v with
  | zero => apply shaped_of_scalar h
  | succ depth ih =>
    unfold Parts.value at h
    split at h
    · apply (shaped_of_scalar h).mono
    · rename_i hdepth
      cases hdepth
      obtain ⟨⟨vs, cs₁⟩, hvs, hdone⟩ := Option.bind_eq_some_iff.1 h
      cases hdone
      intro v hv
      obtain ⟨cs₂, cs₃, hread⟩ := mem_items hvs v hv
      apply ih hread
    · rename_i hdepth
      cases hdepth
      obtain ⟨⟨ms, cs₁⟩, hms, hdone⟩ := Option.bind_eq_some_iff.1 h
      cases hdone
      obtain ⟨hascending, hmem⟩ := ofMembers_cases ms
      use hascending
      intro m hm
      obtain ⟨cs₂, cs₃, hmember⟩ := mem_items hms m (hmem m hm)
      obtain ⟨cs₄, hread⟩ := value_of_member hmember
      apply ih hread
    · apply (shaped_of_scalar h).mono

theorem inRange_of_scalar {cs rest : List Char} {v : Json}
    (h : Parts.kept.scalar cs = some (v, rest)) :
  ∀ x, v.Mentions x → x.InRange
  := by
  unfold Parts.scalar at h
  split at h
  · cases h
    rintro _ ⟨⟩
  · cases h
    rintro _ ⟨⟩
  · cases h
    rintro _ ⟨⟩
  · obtain ⟨⟨s, cs⟩, -, hs⟩ := Option.map_eq_some_iff.1 h
    cases hs
    rintro _ ⟨⟩
  · obtain ⟨⟨x, cs⟩, hx, hdone⟩ := Option.map_eq_some_iff.1 h
    cases hdone
    rintro _ ⟨⟩
    apply Number.inRange_of_read? hx

theorem inRange_of_value {depth : Nat} {cs rest : List Char} {v : Json}
    (h : Parts.kept.value depth cs = some (v, rest)) :
  ∀ x, v.Mentions x → x.InRange
  := by
  induction depth generalizing cs rest v with
  | zero => apply inRange_of_scalar h
  | succ depth ih =>
    unfold Parts.value at h
    split at h
    · apply inRange_of_scalar h
    · rename_i hdepth
      cases hdepth
      obtain ⟨⟨vs, cs₁⟩, hvs, hdone⟩ := Option.bind_eq_some_iff.1 h
      cases hdone
      rintro x (_ | ⟨hmem, hmentions⟩)
      obtain ⟨cs₂, cs₃, hread⟩ := mem_items hvs _ hmem
      apply ih hread x hmentions
    · rename_i hdepth
      cases hdepth
      obtain ⟨⟨ms, cs₁⟩, hms, hdone⟩ := Option.bind_eq_some_iff.1 h
      cases hdone
      rintro x (_ | _ | ⟨hmem, hmentions⟩)
      obtain ⟨cs₂, cs₃, hmember⟩ := mem_items hms _ ((ofMembers_cases ms).2 _ hmem)
      obtain ⟨cs₄, hread⟩ := value_of_member hmember
      apply ih hread x hmentions
    · apply inRange_of_scalar h

/-! ### Texts -/

/-- A text that begins with a character that is not blank is read as a whole. -/
theorem document?_of_read {α : Type} {r : Reader α} {s : String} {a : α} {c : Char}
    {cs : List Char} (hs : s.toList = c :: cs) (hblank : isBlank c = false)
    (h : r (c :: cs) = some (a, [])) :
  document? r s = some a
  := by
  rw [document?, hs, skipBlank_cons hblank, h]
  rfl

/-- The text of an object is read as its members. -/
theorem document?_members {ms : List (String × Json)}
    (hshaped : ∀ m ∈ ms, m.2.Shaped (maxDepth - 1))
    (hx : ∀ m ∈ ms, ∀ x, m.2.Mentions x → x.IsReadable) :
  document? members (object ms).pretty = some (ms.map fun m => (m.1, m.2.reread))
  := by
  have hitem (m : String × Json) (hm : m ∈ ms) (rest : List Char) (hrest : Numeral.Ends rest) :
      inner (m.2.write .indented (0 + 1) ++ rest) = some (m.2.reread, rest) :=
    value_write (hshaped m hm) (hx m hm) .indented (0 + 1) hrest
  have hopens (m : String × Json) (hm : m ∈ ms) : Opens ']' (m.2.write .indented (0 + 1)) :=
    opens_write (hx m hm) .indented (0 + 1)
  obtain ⟨cs, hcs, hitems⟩ := members_write hitem hopens []
  rw [List.append_nil] at hcs
  have htext : (object ms).pretty.toList = '\x7b' :: cs := by
    rw [pretty, hcs, String.toList_ofList]
  apply document?_of_read htext (by decide) hitems

/-- The values of the members that were read have been read as values. -/
theorem value_of_document? {s : String} {ms : List (String × Json)}
    (h : document? members s = some ms) :
  ∀ m ∈ ms, ∃ cs rest, inner cs = some (m.2, rest)
  := by
  obtain ⟨⟨ms', cs⟩, hread, hdone⟩ := Option.bind_eq_some_iff.1 h
  have hms : ms' = ms := by
    dsimp only at hdone
    split at hdone
    · cases hdone
      rfl
    · cases hdone
  subst ms'
  unfold members at hread
  split at hread
  · intro m hm
    obtain ⟨cs₁, cs₂, hmember⟩ := mem_items hread m hm
    obtain ⟨cs₃, hvalue⟩ := value_of_member hmember
    use cs₃, cs₂
  · cases hread

theorem shaped_of_document? {s : String} {ms : List (String × Json)}
    (h : document? members s = some ms) :
  ∀ m ∈ ms, m.2.Shaped (maxDepth - 1)
  := by
  intro m hm
  obtain ⟨cs, rest, hvalue⟩ := value_of_document? h m hm
  apply shaped_of_value hvalue

theorem inRange_of_document? {s : String} {ms : List (String × Json)}
    (h : document? members s = some ms) :
  ∀ m ∈ ms, ∀ x, m.2.Mentions x → x.InRange
  := by
  intro m hm
  obtain ⟨cs, rest, hvalue⟩ := value_of_document? h m hm
  apply inRange_of_value hvalue

end Entitlement.Json

import Entitlement.Proofs.Store.Configuration

/-!
# Configurations that are saved and loaded

A program has a configuration by loading it, or the empty one, and adds keys to it
(`Configuration.Obtained`). What it saves is loaded as the same configuration, and saving that
once more changes nothing in the store (`Configuration.save_load`). Whether the
doubles of a configuration allow this can be computed: `Json.numbers` lists the numbers of a
value.
-/

namespace Entitlement

/-! ### Numbers of a value -/

namespace Json

mutual

/-- The numbers that occur in a value. -/
def numbers : Json → List Number
  | null | bool _ | string _ => []
  | number x => [x]
  | array vs => numbersOfItems vs
  | object ms => numbersOfMembers ms

/-- The numbers that occur in elements. -/
def numbersOfItems : List Json → List Number
  | [] => []
  | v :: vs => v.numbers ++ numbersOfItems vs

/-- The numbers that occur in members. -/
def numbersOfMembers : List (String × Json) → List Number
  | [] => []
  | (_, v) :: ms => v.numbers ++ numbersOfMembers ms

end

theorem mem_numbersOfItems_iff {x : Number} {vs : List Json} :
  x ∈ numbersOfItems vs ↔ ∃ v ∈ vs, x ∈ v.numbers
  := by
  induction vs with
  | nil => simp [numbersOfItems]
  | cons v vs ih => simp [numbersOfItems, ih]

theorem mem_numbersOfMembers_iff {x : Number} {ms : List (String × Json)} :
  x ∈ numbersOfMembers ms ↔ ∃ m ∈ ms, x ∈ m.2.numbers
  := by
  induction ms with
  | nil => simp [numbersOfMembers]
  | cons m ms ih => simp [numbersOfMembers, ih]

theorem mem_numbers_of_mentions {x : Number} {v : Json} (h : v.Mentions x) :
  x ∈ v.numbers
  := by
  induction h with
  | number =>
    rw [numbers]
    apply List.mem_singleton_self
  | @item _ v mem _ ih =>
    rw [numbers, mem_numbersOfItems_iff]
    use v, mem
  | @member _ m mem _ ih =>
    rw [numbers, mem_numbersOfMembers_iff]
    use m, mem

end Json

namespace Configuration

/-! ### Configurations of a program -/

/-- The configurations that a program can have. -/
inductive Obtained : Configuration → Prop where
  | empty : Obtained {}
  | loaded {f f' : Files} {c : Configuration} (h : load.Ends f (.ok c) f') : Obtained c
  | added {c c' : Configuration} {key : String} (hc : Obtained c) (h : c.add? key = some c') :
    Obtained c'

theorem eq_of_add? {c c' : Configuration} {key : String} (h : c.add? key = some c') :
  c' = { c with licenses := c.licenses ++ [Text.trim key] }
  := by
  unfold add? at h
  dsimp only at h
  split at h
  · cases h
  · cases h
    rfl

/-- Its other members are as they were read. -/
theorem Obtained.shaped_inRange {c : Configuration} (h : c.Obtained) :
  c.Shaped ∧ c.InRange
  := by
  induction h with
  | empty =>
    use shaped_empty
    rintro _ ⟨⟩
  | loaded hload =>
    obtain ⟨-, ⟨_, ⟨⟩⟩ | ⟨⟨⟩, -⟩ | ⟨c, ⟨⟩, -, hc⟩⟩ := ends_load hload
    use shaped_of_ofContents? hc, inRange_of_ofContents? hc
  | added _ hadd ih =>
    obtain ⟨hshaped, hinRange⟩ := ih
    rw [eq_of_add? hadd]
    use hshaped.withLicenses _, hinRange

theorem Obtained.ofContents?_text {c : Configuration} (h : c.Obtained)
    (hdoubles : c.RereadsDoubles) :
  ofContents? (some c.text) = some c
  := by
  obtain ⟨hshaped, hinRange⟩ := h.shaped_inRange
  apply ofText?_text_of_rereadsDoubles hshaped hinRange hdoubles

/-! ### Saving -/

theorem store_of_ends_save {c : Configuration} {f f' : Files} (h : c.save.Ends f (.ok ()) f') :
  f'.store = some c.text
  := by
  obtain ⟨-, _, ⟨⟩⟩ | ⟨-, g, -, -, rfl⟩ := Files.ends_replace h
  rfl

/-- A configuration that a program saves is loaded again, whatever the store contained before,
with its keys and with all its other members, and saving it writes the same text. So it is
when nothing fails; and if something does, nothing else can be loaded. -/
theorem save_load {c : Configuration} (h : c.Obtained) (hdoubles : c.RereadsDoubles) :
  (∀ f : Files, f.Calm → ∃ f₁ f₂ f₃ : Files,
    c.save.Ends f (.ok ()) f₁ ∧ load.Ends f₁ (.ok c) f₂ ∧ c.save.Ends f₂ (.ok ()) f₃ ∧
    f₁.store = some c.text ∧ f₃.store = f₁.store) ∧
  ∀ (f f₁ g g₁ : Files) (r : Except LicenseError Configuration),
    c.save.Ends f (.ok ()) f₁ → g.store = f₁.store → load.Ends g r g₁ →
    (∃ e, r = .error (.io e)) ∨ r = .ok c ∧
      ∀ g₂, c.save.Ends g₁ (.ok ()) g₂ → g₂.store = f₁.store
  := by
  have hreread := h.ofContents?_text hdoubles
  constructor
  · intro f hcalm
    have hcalm₁ : (f.afterWrite .store c.text).Calm := ⟨hcalm.schedule, hcalm.faults⟩
    obtain ⟨n, hload⟩ := ends_load_of_calm hcalm₁ hreread
    refine ⟨_, _, _, hcalm.ends_replace .store c.text, hload,
      (hcalm₁.reads n).ends_replace .store c.text, rfl, rfl⟩
  · intro f f₁ g g₁ r hsave hstore hload
    have hf₁ := store_of_ends_save hsave
    rw [hf₁] at hstore
    obtain ⟨-, hio | ⟨-, hnone⟩ | ⟨c', rfl, -, hc'⟩⟩ := ends_load hload
    · left
      apply hio
    · rw [hstore, hreread] at hnone
      cases hnone
    · right
      rw [hstore, hreread] at hc'
      cases hc'
      use rfl
      intro g₂ hagain
      rw [store_of_ends_save hagain, hf₁]

/-! ### Settings of another program -/

theorem rereadsDoubles_of_numbers {c : Configuration}
    (h : ∀ m ∈ c.other, ∀ x ∈ m.2.numbers, x.IsReread) :
  c.RereadsDoubles
  := by
  intro m hm negative x hmentions
  apply h m hm _ (Json.mem_numbers_of_mentions hmentions)

/-- Files with a store that another program keeps its settings in. A key occurs twice, one has
a blank in it, and there is no key besides the list. -/
def settingsFiles : Files where
  store := some <|
    "\x7b\"telemetry\": \x7b\"license\": null, \"rates\": [0.5, [], \x7b\x7d, -3]\x7d, " ++
    "\"licenses\": [\"2-AAA\", \"2- B\", \"2-AAA\"], \"license\": null, " ++
    "\"about\": \"\"\x7d"

/-- The settings and the keys are there again after another key has been added. -/
theorem save_load_settings :
  ∃ c c' f, load.Ends settingsFiles (.ok c) f ∧ c.add? "2-CCC" = some c' ∧
    c'.licenses = ["2-AAA", "2- B", "2-AAA", "2-CCC"] ∧ c'.license = none ∧
    c'.other.map Prod.fst = ["about", "telemetry"] ∧
    ∃ f₁ f₂ f₃ : Files, c'.save.Ends f (.ok ()) f₁ ∧ load.Ends f₁ (.ok c') f₂ ∧
      c'.save.Ends f₂ (.ok ()) f₃ ∧ f₃.store = f₁.store
  := by
  have hstore : ((ofContents? settingsFiles.store).bind fun c => (c.add? "2-CCC").map fun c' =>
      (c'.licenses, c'.license, c'.other.map Prod.fst,
        decide (∀ m ∈ c'.other, ∀ x ∈ m.2.numbers, x.IsReread))) =
      some (["2-AAA", "2- B", "2-AAA", "2-CCC"], none, ["about", "telemetry"], true) := by
    decide +kernel
  obtain ⟨c, hc, hadded⟩ := Option.bind_eq_some_iff.1 hstore
  obtain ⟨c', hc', hfields⟩ := Option.map_eq_some_iff.1 hadded
  simp only [Prod.mk.injEq] at hfields
  obtain ⟨hlicenses, hlicense, hnames, hnumbers⟩ := hfields
  have hcalm : settingsFiles.Calm := ⟨rfl, rfl⟩
  obtain ⟨n, hload⟩ := ends_load_of_calm hcalm hc
  have hobtained : c'.Obtained := (Obtained.loaded hload).added hc'
  have hdoubles : c'.RereadsDoubles := rereadsDoubles_of_numbers (of_decide_eq_true hnumbers)
  obtain ⟨f₁, f₂, f₃, hsave, hagain, hsaved, -, hsame⟩ :=
    (save_load hobtained hdoubles).1 _ (hcalm.reads n)
  exact ⟨c, c', _, hload, hc', hlicenses, hlicense, hnames, f₁, f₂, f₃, hsave, hagain, hsaved,
    hsame⟩

end Configuration

end Entitlement

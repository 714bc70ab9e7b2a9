import Entitlement.Proofs.Json.Value
import Entitlement.Proofs.Store.Files
import Mathlib.Data.List.TakeWhile

/-!
# Configurations that are read back

A configuration that was read has its other members in a shape in which they are written and
read again without a change (`Configuration.Shaped`), except that their numbers need not stay
what they are. So what is written for it, also after keys have been added, is read as a
configuration with the same keys (`Configuration.ofText?_text`), and as the same configuration
if its doubles are read as they are written (`Configuration.ofText?_text_of_rereadsDoubles`).
-/

namespace Entitlement

/-- Something is left of a text that begins with a character that is not blank. -/
theorem Text.trim_ne_empty {s : String} {c : Char} {cs : List Char} (hs : s.toList = c :: cs)
    (hc : isBlank c = false) :
  trim s ≠ ""
  := by
  intro h
  have hnil : trimChars (c :: cs) = [] := by
    rw [← hs]
    have hlist := congrArg String.toList h
    rw [trim, String.toList_ofList] at hlist
    apply hlist
  rw [trimChars, List.dropWhile_cons, hc, if_neg Bool.false_ne_true, trimEnd,
    List.reverse_eq_nil_iff] at hnil
  have hblank := List.dropWhile_eq_nil_iff.1 hnil c
  rw [hc] at hblank
  cases hblank (List.mem_reverse.2 List.mem_cons_self)

namespace Configuration

open Json (Number)

/-- The other members are sorted, have names of their own and are not nested too deep. -/
structure Shaped (c : Configuration) : Prop where
  ascending : Sorted.Ascending c.other
  names : ∀ m ∈ c.other, m.1 ∉ names
  shaped : ∀ m ∈ c.other, m.2.Shaped (Json.maxDepth - 1)

/-- The doubles among the other members are read as they are written. -/
def RereadsDoubles (c : Configuration) : Prop :=
  ∀ m ∈ c.other, ∀ negative x, m.2.Mentions (.double negative x) →
    (Number.double negative x).IsReread

/-- The numbers among the other members are in range. -/
def InRange (c : Configuration) : Prop :=
  ∀ m ∈ c.other, ∀ x, m.2.Mentions x → x.InRange

/-- What the text of the configuration is read as. -/
def reread (c : Configuration) : Configuration :=
  { c with other := c.other.map fun m => (m.1, m.2.reread) }

theorem shaped_empty :
  Shaped {}
  := by
  constructor
  · apply List.Pairwise.nil
  · rintro _ ⟨⟩
  · rintro _ ⟨⟩

/-- The keys have no part in the shape. -/
theorem Shaped.withLicenses {c : Configuration} (h : c.Shaped) (keys : List String) :
  Shaped { c with licenses := keys }
  := ⟨h.ascending, h.names, h.shaped⟩

theorem shaped_of_ofText? {s : String} {c : Configuration} (h : ofText? s = some c) :
  c.Shaped
  := by
  unfold ofText? at h
  split at h
  · cases h
    apply shaped_empty
  · obtain ⟨ms, hms, hc⟩ := Option.bind_eq_some_iff.1 h
    obtain ⟨licenses, -, h₁⟩ := Option.bind_eq_some_iff.1 hc
    obtain ⟨license, -, h₂⟩ := Option.bind_eq_some_iff.1 h₁
    cases h₂
    obtain ⟨hascending, hmem⟩ := Json.ofMembers_cases (ms.filter fun m => !names.contains m.1)
    constructor
    · apply hascending
    · intro m hm hname
      have hfilter := (List.mem_filter.1 (hmem m hm)).2
      rw [List.contains_iff_mem.2 hname] at hfilter
      cases hfilter
    · intro m hm
      apply Json.shaped_of_document? hms m (List.mem_filter.1 (hmem m hm)).1

theorem shaped_of_ofContents? {contents : Option String} {c : Configuration}
    (h : ofContents? contents = some c) :
  c.Shaped
  := by
  cases contents with
  | none =>
    cases h
    apply shaped_empty
  | some text => apply shaped_of_ofText? h

theorem inRange_of_ofText? {s : String} {c : Configuration} (h : ofText? s = some c) :
  c.InRange
  := by
  unfold ofText? at h
  split at h
  · cases h
    rintro _ ⟨⟩
  · obtain ⟨ms, hms, hc⟩ := Option.bind_eq_some_iff.1 h
    obtain ⟨licenses, -, h₁⟩ := Option.bind_eq_some_iff.1 hc
    obtain ⟨license, -, h₂⟩ := Option.bind_eq_some_iff.1 h₁
    cases h₂
    intro m hm
    apply Json.inRange_of_document? hms m
    exact (List.mem_filter.1 ((Json.ofMembers_cases _).2 m hm)).1

theorem inRange_of_ofContents? {contents : Option String} {c : Configuration}
    (h : ofContents? contents = some c) :
  c.InRange
  := by
  cases contents with
  | none =>
    cases h
    rintro _ ⟨⟩
  | some text => apply inRange_of_ofText? h

/-- The members of the object that describes a configuration. -/
def members (c : Configuration) : List (String × Json) :=
  (if c.licenses.isEmpty then [] else [("licenses", .array (c.licenses.map .string))])
    ++ (c.license.map fun key => ("license", .string key)).toList
    ++ c.other

theorem mem_members {c : Configuration} {m : String × Json} (h : m ∈ c.members) :
  m.2 = .array (c.licenses.map .string) ∨ (∃ key, m.2 = .string key) ∨ m ∈ c.other
  := by
  rw [members, List.mem_append, List.mem_append] at h
  rcases h with (hlist | hkey) | hother
  · left
    split at hlist
    · cases hlist
    · rw [List.mem_singleton.1 hlist]
  · right
    left
    cases hlicense : c.license with
    | none =>
      rw [hlicense] at hkey
      cases hkey
    | some key =>
      rw [hlicense] at hkey
      use key
      rw [List.mem_singleton.1 hkey]
  · right
    right
    apply hother

/-- A member that is not one of those with the keys is not found among these. -/
theorem filter_other {c : Configuration} (h : c.Shaped) {name : String} (hname : name ∈ names) :
  c.other.filter (fun m => m.1 = name) = []
  := by
  rw [List.filter_eq_nil_iff]
  intro m hm hmname
  apply h.names m hm
  rw [of_decide_eq_true hmname]
  apply hname

theorem mapM_string? (keys : List String) :
  (keys.map Json.string).mapM Json.string? = some keys
  := by
  induction keys with
  | nil => rfl
  | cons key keys ih =>
    rw [List.map_cons, List.mapM_cons, ih]
    rfl

/-- Of the members with the keys there is one of each name at most, and only if there are
keys. -/
theorem ofMembers?_members {c : Configuration} (h : c.Shaped) :
  ofMembers? c.members = some c
  := by
  have hlicenses : Json.field? c.members "licenses" [] Json.strings? = some c.licenses := by
    rw [Json.field?, members, List.filter_append, filter_other h (by decide), List.append_nil]
    cases c.licenses with
    | nil => cases c.license <;> rfl
    | cons key keys => cases c.license <;> exact mapM_string? (key :: keys)
  have hlicense : Json.field? c.members "license" none Json.stringOrNull? = some c.license := by
    rw [Json.field?, members, List.filter_append, filter_other h (by decide), List.append_nil]
    cases c.licenses <;> cases c.license <;> rfl
  have hother : c.members.filter (fun m => !names.contains m.1) = c.other := by
    have hkept : c.other.filter (fun m => !names.contains m.1) = c.other := by
      rw [List.filter_eq_self]
      intro m hm
      rw [List.contains_eq_mem, decide_eq_false (h.names m hm)]
      rfl
    rw [members, List.filter_append, hkept]
    cases c.licenses <;> cases c.license <;> rfl
  rw [ofMembers?, hlicenses]
  change (Json.field? c.members "license" none Json.stringOrNull? >>= _) = _
  rw [hlicense]
  change some (Configuration.mk _ _ (Json.ofMembers (c.members.filter _))) = _
  rw [hother, Json.ofMembers_of_ascending h.ascending]

theorem Shaped.reread {c : Configuration} (h : c.Shaped) :
  c.reread.Shaped
  := by
  constructor
  · apply Json.ascending_reread h.ascending
  · intro m hm
    obtain ⟨u, hu, rfl⟩ := List.mem_map.1 hm
    apply h.names u hu
  · intro m hm
    obtain ⟨u, hu, rfl⟩ := List.mem_map.1 hm
    apply (h.shaped u hu).reread

/-- Strings are read as they are written, so only the other members are read again. -/
theorem members_reread (c : Configuration) :
  c.members.map (fun m => (m.1, m.2.reread)) = c.reread.members
  := by
  rcases c with ⟨licenses, license, other⟩
  have hkeys : Json.reread (.array (licenses.map .string)) = .array (licenses.map .string) := by
    rw [Json.reread, Json.rereadItems_eq, List.map_map]
    rfl
  have hlist : (if licenses.isEmpty then []
      else [("licenses", Json.array (licenses.map .string))]).map (fun m => (m.1, m.2.reread)) =
      if licenses.isEmpty then [] else [("licenses", Json.array (licenses.map .string))] := by
    split
    · rfl
    · rw [List.map_singleton, hkeys]
  rw [members, List.map_append, List.map_append, hlist]
  cases license <;> rfl

/-- The text of a configuration with numbers in range is read as one with the same keys. -/
theorem ofText?_text {c : Configuration} (h : c.Shaped) (hx : c.InRange) :
  ofText? c.text = some c.reread
  := by
  have hshaped (m : String × Json) (hm : m ∈ c.members) : m.2.Shaped (Json.maxDepth - 1) := by
    rcases mem_members hm with hlist | ⟨key, hkey⟩ | hother
    · rw [hlist]
      intro v hv
      obtain ⟨key, -, rfl⟩ := List.mem_map.1 hv
      trivial
    · rw [hkey]
      trivial
    · apply h.shaped m hother
  have hreadable (m : String × Json) (hm : m ∈ c.members) (x : Number)
      (hmentions : m.2.Mentions x) : x.IsReadable := by
    rcases mem_members hm with hlist | ⟨key, hkey⟩ | hother
    · rw [hlist] at hmentions
      cases hmentions with
      | item hmem hmentions =>
        obtain ⟨key, -, rfl⟩ := List.mem_map.1 hmem
        cases hmentions
    · rw [hkey] at hmentions
      cases hmentions
    · apply (hx m hother x hmentions).isReadable
  have htrim : Text.trim c.text ≠ "" := by
    obtain ⟨cs, hcs⟩ := Json.write_object c.members .indented 0
    have htext : c.text.toList = '\x7b' :: cs := by
      change (String.ofList ((Json.object c.members).write .indented 0)).toList = _
      rw [hcs, String.toList_ofList]
    apply Text.trim_ne_empty htext
    decide
  rw [ofText?, if_neg htrim]
  change (Json.document? Json.members (Json.object c.members).pretty).bind _ = _
  rw [Json.document?_members hshaped hreadable, members_reread]
  apply ofMembers?_members h.reread

theorem reread_of_rereadsDoubles {c : Configuration} (h : c.Shaped) (hx : c.RereadsDoubles) :
  c.reread = c
  := by
  have hother : c.other.map (fun m => (m.1, m.2.reread)) = c.other.map id := by
    apply List.map_congr_left
    intro m hm
    rw [Json.reread_eq (h.shaped m hm)]
    · rfl
    · intro x hmentions
      cases x with
      | integer n le lt => apply Number.isReread_integer
      | double negative x => apply hx m hm negative x hmentions
  rw [reread, hother, List.map_id]

/-- The text of a configuration whose doubles are read as they are written is read as the
configuration. -/
theorem ofText?_text_of_rereadsDoubles {c : Configuration} (h : c.Shaped) (hrange : c.InRange)
    (hx : c.RereadsDoubles) :
  ofText? c.text = some c
  := by
  rw [ofText?_text h hrange, reread_of_rereadsDoubles h hx]

/-! ### Keys that are added -/

/-- A key that is added comes to those that were there. -/
theorem mem_keys_append {c : Configuration} {key other : String} (hkey : Text.trim key = key)
    (hempty : key ≠ "") :
  other ∈ ({ c with licenses := c.licenses ++ [key] } : Configuration).keys ↔
    other = key ∨ other ∈ c.keys
  := by
  simp only [keys, List.mem_eraseDups, List.mem_filter, List.mem_map, List.mem_append,
    List.mem_singleton, decide_eq_true_eq]
  constructor
  · rintro ⟨⟨text, (htext | rfl) | htext, rfl⟩, hother⟩
    · right
      use ⟨text, .inl htext, rfl⟩
    · left
      apply hkey
    · right
      use ⟨text, .inr htext, rfl⟩
  · rintro (rfl | ⟨⟨text, htext | htext, rfl⟩, hother⟩)
    · use ⟨other, .inl (.inr rfl), hkey⟩
    · use ⟨text, .inl (.inl htext), rfl⟩
    · use ⟨text, .inr htext, rfl⟩

/-- What is written to a store that has been read, with a key more, is read again. -/
theorem ofText?_append {contents : Option String} {c : Configuration}
    (hc : ofContents? contents = some c) (key : String) :
  ofText? ({ c with licenses := c.licenses ++ [key] } : Configuration).text =
    some { c.reread with licenses := c.licenses ++ [key] }
  := ofText?_text ((shaped_of_ofContents? hc).withLicenses _) fun m hm =>
    inRange_of_ofContents? hc m hm

theorem ofText?_append_of_rereadsDoubles {contents : Option String} {c : Configuration}
    (hc : ofContents? contents = some c) (hx : c.RereadsDoubles) (key : String) :
  ofText? ({ c with licenses := c.licenses ++ [key] } : Configuration).text =
    some { c with licenses := c.licenses ++ [key] }
  := by
  rw [ofText?_append hc, reread_of_rereadsDoubles (shaped_of_ofContents? hc) hx]

/-- What is written to a store that has been read, when a key is added, is read again, with
the key beside those that were there. -/
theorem exists_ofContents?_add {contents : Option String} {c : Configuration} {key : String}
    (hc : ofContents? contents = some c) (hkey : Text.trim key = key) (hempty : key ≠ "") :
  ∃ c', ofContents? (some ((c.add? key).getD c).text) = some c' ∧
    ∀ other, other ∈ c'.keys ↔ other = key ∨ other ∈ c.keys
  := by
  unfold add?
  dsimp only
  rw [hkey]
  split
  · rename_i hcontains
    use c.reread, ofText?_text (shaped_of_ofContents? hc) (inRange_of_ofContents? hc)
    intro other
    change other ∈ c.keys ↔ _
    constructor
    · apply Or.inr
    · rintro (rfl | hother)
      · apply List.contains_iff_mem.1 hcontains
      · apply hother
  · refine ⟨_, ofText?_append hc key, ?_⟩
    intro other
    apply mem_keys_append hkey hempty

end Configuration

end Entitlement

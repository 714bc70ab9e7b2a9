import Entitlement.Proofs.Key.Spelling
import Entitlement.Proofs.License.Issued

/-!
# Licenses of keys that can be read

A text that is read as a key begins with the digit of its version, once blank characters around
it are off, and no address of a web server begins with a digit. So the text stands for a license
with the fields of the key (`License.ofText_of_decoded`). All spellings of the key stand for
licenses that are the same, and that allow the same or fail in the same way
(`License.ofText_readable`).
-/

namespace Entitlement

variable {t : String} {k : DecodedKey}

/-- The text of a key begins with the digit of the version. -/
theorem DecodedKey.exists_toList_trim (h : DecodedKey.ofText t = .ok k) :
  ∃ c cs, (Text.trim t).toList = c :: cs ∧ c ∈ ['1', '2']
  := by
  obtain ⟨version, body, hsplit, hversion, -⟩ := ofText_eq_ok h
  obtain ⟨c, hc, hdigit⟩ := k.version.exists_digit
  -- There may be blank characters behind the digit, but none are in front of it.
  have hprefix : [c] <+: version := by
    rw [← hc, ← KeyVersion.ofChars_eq_ok_iff.1 hversion, Text.trimChars,
      KeyText.dropWhile_of_split? hsplit]
    apply List.rdropWhile_prefix
  obtain ⟨rest, rfl⟩ := hprefix
  use c, rest ++ '-' :: body
  rw [Text.trim, String.toList_ofList, KeyText.trimChars_of_split? hsplit]
  use rfl, hdigit

namespace License

/-- A text that is read as a key is neither blank nor an address. -/
theorem ofText_of_decoded (h : DecodedKey.ofText t = .ok k) (trust : TrustPolicy) :
  ofText trust t = .ok ⟨Text.trim t, .ok k, trust, .keyText⟩
  := by
  obtain ⟨c, cs, ht, hc⟩ := DecodedKey.exists_toList_trim h
  rw [ofText_of_digit ht hc, DecodedKey.ofText_trim, h]

/-- Licenses with the same origin, of the same key, and under the same policy are the same. -/
theorem same_of_decoded {l m : License} (horigin : l.origin = m.origin)
    (hl : l.decoded = .ok k) (hm : m.decoded = .ok k) :
  l.same m = true
  := by
  rw [same_iff, identity, identity, horigin, hl, hm]

variable [SignatureScheme]

/-- What a license allows, or why it allows nothing, does not depend on the spelling of its
key. -/
theorem grant_of_decoded {l m : License} (horigin : l.origin = m.origin)
    (htrust : l.trust = m.trust) (hdecoded : l.decoded = m.decoded) :
  l.grant = m.grant
  := by
  rw [grant, grant, horigin, htrust, hdecoded]

/-- A text that is read as a key stands for a license that can be read, with the version and the
fields of the key. So does each text that only differs in separators and in the case of
letters; and of all texts that are read as the key, the licenses are the same, and allow the
same or fail in the same way. -/
theorem ofText_readable (h : DecodedKey.ofText t = .ok k) (trust : TrustPolicy) :
  ∃ l, ofText trust t = .ok l ∧ l.isReadable = true ∧ l.version? = some k.version ∧
    l.payload? = some k.payload ∧
    (∀ s, KeyText.Respells t s → DecodedKey.ofText s = .ok k) ∧
    ∀ s, DecodedKey.ofText s = .ok k →
      ∃ m, ofText trust s = .ok m ∧ m.same l = true ∧ m.grant = l.grant
  := by
  use ⟨Text.trim t, .ok k, trust, .keyText⟩, ofText_of_decoded h trust
  refine ⟨rfl, rfl, rfl, ?_, ?_⟩
  · intro s hs
    apply DecodedKey.ofText_of_respells hs h
  · intro s hs
    use ⟨Text.trim s, .ok k, trust, .keyText⟩, ofText_of_decoded hs trust
    use same_of_decoded rfl rfl rfl
    apply grant_of_decoded rfl rfl rfl

end License

/-- A key with a truth value, and the same with blank characters, dashes and small letters. -/
theorem License.ofText_readable_auditable :
  ∃ k l m, DecodedKey.ofText "2-3J2ZY" = .ok k ∧ KeyText.Respells "2-3J2ZY" " 2 -3j-2\tzY\n" ∧
    ofText licensorTrust "2-3J2ZY" = .ok l ∧ l.version? = some .v2 ∧
    ofText licensorTrust " 2 -3j-2\tzY\n" = .ok m ∧ m.same l = true ∧ m.grant = l.grant
  := by
  have hread : (DecodedKey.ofText "2-3J2ZY").toOption.map (·.version) = some .v2 := by
    decide +kernel
  obtain ⟨k, hk, hversion⟩ := Option.map_eq_some_iff.1 hread
  have hk := eq_ok_of_toOption hk
  have hrespells : KeyText.Respells "2-3J2ZY" " 2 -3j-2\tzY\n" := by
    use ['2'], ['2', ' '], ['3', 'J', '2', 'Z', 'Y'], ['3', 'j', '-', '2', '\t', 'z', 'Y']
    decide +kernel
  obtain ⟨l, hl, -, hl', -, hspellings, hsame⟩ := ofText_readable hk licensorTrust
  obtain ⟨m, hm, hml, hgrant⟩ := hsame _ (hspellings _ hrespells)
  rw [hversion] at hl'
  use k, l, m

end Entitlement

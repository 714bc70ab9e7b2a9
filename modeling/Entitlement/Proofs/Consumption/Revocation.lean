import Entitlement.Proofs.Consumption.Completeness

/-!
# Revocation

The policy of a license has no part in what the license is told apart by, so under another
policy the sources yield the same licenses in the same order (`Request.yields_mapTrust`). When
further licenses are revoked, a license grants what it granted before unless it is one of
them (`License.grant_revoke_eq_ok_iff`). So a request that was denied stays denied, whatever
copies there are, and no license that has been revoked grants anything
(`Request.isGranted_of_revoked`).
-/

namespace Entitlement

/-! ### Other policies -/

namespace License

/-- The license under a policy made of its own. -/
def mapTrust (f : TrustPolicy → TrustPolicy) (l : License) : License :=
  { l with trust := f l.trust }

variable (f : TrustPolicy → TrustPolicy)

theorem ofText_mapTrust (trust : TrustPolicy) (text : String) :
  ofText (f trust) text = (ofText trust text).map (mapTrust f)
  := by
  unfold ofText
  dsimp only
  -- Neither the text nor what it is read as is to be evaluated.
  generalize Text.trim text = key
  generalize DecodedKey.ofText key = decoded
  by_cases hempty : key = ""
  · rw [if_pos hempty, if_pos hempty]
    rfl
  · rw [if_neg hempty, if_neg hempty]
    cases Url.isWebAddress key <;> rfl

theorem inProcess_mapTrust (trust : TrustPolicy) (p : Payload) :
  inProcess (f trust) p = (inProcess trust p).map (mapTrust f)
  := by
  unfold inProcess
  cases LicenseError.ofKey (p.keyText .current) with
  | error e => rfl
  | ok key =>
    change (LicenseError.ofKey (DecodedKey.ofText key) >>= _) =
      (LicenseError.ofKey (DecodedKey.ofText key) >>= _).map _
    cases LicenseError.ofKey (DecodedKey.ofText key) <;> rfl

end License

theorem toOption_map {ε α β : Type} (g : α → β) (x : Except ε α) :
  (x.map g).toOption = x.toOption.map g
  := by
  cases x <;> rfl

namespace Supply

/-- The supply with each policy in it changed. -/
def mapTrust (f : TrustPolicy → TrustPolicy) : Supply → Supply
  | keys trust ks => keys (f trust) ks
  | store trust retry files => store (f trust) retry files
  | unattended trust enabled => unattended (f trust) enabled
  | given ls => given (ls.map (License.mapTrust f))

variable (f : TrustPolicy → TrustPolicy)

theorem ofKeys_mapTrust (trust : TrustPolicy) (ks : List String) :
  ofKeys (f trust) ks = (ofKeys trust ks).map (License.mapTrust f)
  := by
  rw [ofKeys, ofKeys, List.map_filterMap]
  simp only [License.ofText_mapTrust, toOption_map]

theorem unattendedLicense_mapTrust (trust : TrustPolicy) :
  unattendedLicense (f trust) = (unattendedLicense trust).map (License.mapTrust f)
  := by
  unfold unattendedLicense
  cases LicenseError.ofKey unattendedSpec.payload with
  | error e => rfl
  | ok p => apply License.inProcess_mapTrust

theorem licenses_mapTrust (s : Supply) :
  (s.mapTrust f).licenses.1 = s.licenses.1.map (License.mapTrust f)
  := by
  cases s with
  | keys trust ks => apply ofKeys_mapTrust
  | store trust retry files => apply ofKeys_mapTrust
  | unattended trust enabled =>
    cases enabled with
    | false => rfl
    | true =>
      change (unattendedLicense (f trust)).toOption.toList =
        (unattendedLicense trust).toOption.toList.map (License.mapTrust f)
      rw [unattendedLicense_mapTrust, toOption_map, Option.toList_map]
  | given ls => rfl

end Supply

/-- The source with each policy in it changed. -/
def Source.mapTrust (f : TrustPolicy → TrustPolicy) (s : Source) : Source :=
  { s with supply := s.supply.mapTrust f }

/-- What is yielded is the same under other policies. -/
theorem Request.yields_mapTrust (f : TrustPolicy → TrustPolicy) (sources : List Source) :
  (yields (sources.map (·.mapTrust f))).flatten =
    (yields sources).flatten.map (License.mapTrust f)
  := by
  rw [yields, yields, List.map_flatten, List.map_map, List.map_map]
  apply congrArg List.flatten
  apply List.map_congr_left
  intro s _
  exact s.supply.licenses_mapTrust f

/-! ### Licenses that have been revoked -/

/-- The source with further licenses revoked under each policy in it. -/
def Source.revoke (s : Source) (ids : List Int32) : Source :=
  s.mapTrust (·.revoke ids)

namespace License

/-- The number of a license whose key can be read, if it has one. -/
def licenseId? (l : License) : Option Int32 := l.payload?.bind (·.int32? .licenseId)

/-- The license with further licenses revoked under its policy. -/
def revoke (l : License) (ids : List Int32) : License := l.mapTrust (·.revoke ids)

end License

theorem TrustPolicy.isRevoked_revoke_eq_false_iff {t : TrustPolicy} {ids : List Int32}
    {id : Int32} :
  (t.revoke ids).isRevoked id = false ↔ t.isRevoked id = false ∧ id ∉ ids
  := by
  rw [isRevoked, isRevoked, revoke, List.contains_eq_mem, List.contains_eq_mem]
  simp

theorem Payload.grant_revoke_eq_ok_iff {p : Payload} {t : TrustPolicy} {ids : List Int32}
    {g : Grant} :
  p.grant (t.revoke ids) = .ok g ↔
    p.grant t = .ok g ∧ ∀ id, p.int32? .licenseId = some id → id ∉ ids
  := by
  rw [grant_eq_ok_iff, grant_eq_ok_iff]
  simp only [TrustPolicy.isRevoked_revoke_eq_false_iff]
  constructor
  · rintro ⟨hrevoked, hkind⟩
    use ⟨fun id hid => (hrevoked id hid).1, hkind⟩
    intro id hid
    apply (hrevoked id hid).2
  · rintro ⟨⟨hrevoked, hkind⟩, hids⟩
    use fun id hid => ⟨hrevoked id hid, hids id hid⟩

section

variable [SignatureScheme]

/-- When further licenses are revoked, a license grants what it granted before, unless it is
one of them. -/
theorem License.grant_revoke_eq_ok_iff {l : License} {ids : List Int32} {g : Grant} :
  (l.revoke ids).grant = .ok g ↔
    l.grant = .ok g ∧ ∀ id, l.licenseId? = some id → id ∉ ids
  := by
  rw [grant_eq_ok_iff, grant_eq_ok_iff, licenseId?, payload?]
  constructor
  · rintro ⟨k, hk, hverified, hgrant⟩
    have hk : l.decoded = .ok k := hk
    obtain ⟨hgrant, hids⟩ := Payload.grant_revoke_eq_ok_iff.1 hgrant
    use ⟨k, hk, hverified, hgrant⟩
    rw [hk]
    apply hids
  · rintro ⟨⟨k, hk, hverified, hgrant⟩, hids⟩
    rw [hk] at hids
    use k, hk, hverified, Payload.grant_revoke_eq_ok_iff.2 ⟨hgrant, hids⟩

namespace Request

variable (r : Request) (today : Date)

theorem isGrantedBy_revoke_iff {l : License} {ids : List Int32} :
  r.isGrantedBy today (l.revoke ids) = true ↔
    r.isGrantedBy today l = true ∧ ∀ id, l.licenseId? = some id → id ∉ ids
  := by
  rw [isGrantedBy_iff, isGrantedBy_iff]
  simp only [License.grant_revoke_eq_ok_iff]
  constructor
  · rintro ⟨g, ⟨hgrant, hids⟩, hallows⟩
    use ⟨g, hgrant, hallows⟩
  · rintro ⟨⟨g, hgrant, hallows⟩, hids⟩
    use g, ⟨hgrant, hids⟩

/-- A license that has the first place among those that are the same, and grants the request
although licenses have been revoked, has that place and grants the request before. -/
theorem HasLeader.of_revoke {ls : List License} {ids : List Int32}
    (h : r.HasLeader today (ls.map (·.revoke ids))) :
  r.HasLeader today ls
  := by
  obtain ⟨before', l', after', hls, hbefore, hgranted⟩ := h
  obtain ⟨before, rest, rfl, rfl, hrest⟩ := List.map_eq_append_iff.1 hls
  obtain ⟨l, after, rfl, rfl, rfl⟩ := List.map_eq_cons_iff.1 hrest
  use before, l, after, rfl
  constructor
  · intro m hm
    apply hbefore (m.revoke ids) (List.mem_map_of_mem hm)
  · apply ((r.isGrantedBy_revoke_iff today).1 hgranted).1

/-- Whatever the sources and their policies are: when further licenses are revoked under all
of them, a request is granted only if it was granted before; the license by which it is
granted is none of those that have been revoked, and nothing yielded that has been revoked
grants it. -/
theorem isGranted_of_revoked (sources : List Source) (ids : List Int32) :
  let revoked := sources.map (·.revoke ids)
  ((r.decide today [] revoked).1.isGranted = true →
    (r.decide today [] sources).1.isGranted = true) ∧
  (∀ key, (r.decide today [] revoked).1.grantedBy = some key →
    ∃ l, (candidates revoked).find? (r.isGrantedBy today) = some l ∧ l.key = key ∧
      ∀ id, l.licenseId? = some id → id ∉ ids) ∧
  ∀ l ∈ (yields revoked).flatten, ∀ id ∈ ids, l.licenseId? = some id →
    r.isGrantedBy today l = false
  := by
  intro revoked
  have hyields : (yields revoked).flatten = (yields sources).flatten.map (·.revoke ids) :=
    yields_mapTrust _ sources
  have hdenied : ∀ l ∈ (yields revoked).flatten, ∀ id ∈ ids, l.licenseId? = some id →
      r.isGrantedBy today l = false := by
    intro l hl id hmem hid
    rw [hyields] at hl
    obtain ⟨l, -, rfl⟩ := List.mem_map.1 hl
    rw [Bool.eq_false_iff]
    intro hgranted
    apply ((r.isGrantedBy_revoke_iff today).1 hgranted).2 id hid hmem
  constructor
  · intro hgranted
    apply (r.isGranted_iff_hasLeader today sources).2
    apply HasLeader.of_revoke
    rw [← hyields]
    apply (r.isGranted_iff_hasLeader today revoked).1 hgranted
  · use fun key hkey => ?_, hdenied
    rw [grantedBy_decide] at hkey
    obtain ⟨l, hfind, hl⟩ := Option.map_eq_some_iff.1 hkey
    use l, hfind, hl
    intro id hid hmem
    obtain ⟨before, after, hls, -⟩ := (mem_candidates revoked).1 (List.mem_of_find?_eq_some hfind)
    have hyielded : l ∈ (yields revoked).flatten := by
      rw [hls]
      apply List.mem_append_right before List.mem_cons_self
    have hgranted : r.isGrantedBy today l = true := List.find?_some hfind
    rw [hdenied l hyielded id hmem hid] at hgranted
    cases hgranted

end Request

end

end Entitlement

import Entitlement.Proofs.Consumption.Completeness
import Entitlement.Proofs.Store.Files

/-!
# Narrower requests

A request is narrower than another one when it asks for no feature more, in the same namespace
or in one nested in it (`Request.Narrows`). What a license allows it allows to narrower
requests too, since a restriction that covers a namespace covers all that is nested in it.

Two requests may be granted by different licenses, after different sources have been asked.
But which license has the first place among those that are the same does not depend on the
request. So a grant is never lost by asking for less, of the same sources, or of what they are
after the first request when they keep what they hold (`Request.isGranted_of_narrows`).
-/

namespace Entitlement

/-! ### Sources that are asked again -/

/-- The keys that the contents of a store list; contents that cannot be read list none. -/
def Configuration.keysOf (contents : Option String) : List String :=
  ((ofContents? contents).map keys).getD []

/-- When nothing fails, the keys that the store lists are read, and only the attempts to read
are counted. -/
theorem Supply.storedKeys_of_calm (retry : RetryPolicy) {files : Files} (h : files.Calm) :
  ∃ n, storedKeys retry files = (Configuration.keysOf files.store, { files with reads := n })
  := by
  unfold storedKeys Configuration.keysOf
  cases hc : Configuration.ofContents? files.store with
  | none =>
    have hload : (retry.run Configuration.load).Ends files (.error .serialization) _ :=
      Configuration.ends_retry_load_of_calm_of_none h hc _
    rw [hload]
    use files.reads + 1
    rfl
  | some c =>
    obtain ⟨n, hends⟩ := Configuration.ends_retry_load_of_calm h hc retry
    have hload : (retry.run Configuration.load).Ends files (.ok c) { files with reads := n } :=
      hends
    rw [hload]
    use n
    rfl

namespace Source

/-- The source yields the same licenses when it is asked once more. -/
def IsFixed (s : Source) : Prop := s.pull.2.pull.1 = s.pull.1

/-- A store in which nothing fails keeps its licenses when it is asked. -/
theorem isFixed_ofStore (trust : TrustPolicy) (retry : RetryPolicy) {files : Files}
    (h : files.Calm) :
  (ofStore trust retry files).IsFixed
  := by
  obtain ⟨n, hn⟩ := Supply.storedKeys_of_calm retry h
  obtain ⟨m, hm⟩ := Supply.storedKeys_of_calm retry (h.reads n)
  change Supply.ofKeys trust (Supply.storedKeys retry (Supply.storedKeys retry files).2).1 =
    Supply.ofKeys trust (Supply.storedKeys retry files).1
  rw [hn, hm]

end Source

namespace Request

/-! ### What narrower requests are allowed -/

/-- The request asks for no more features than the other one, in the same namespace or in one
nested in it. -/
structure Narrows (q r : Request) : Prop where
  features : r.features.contains q.features = true
  consumer : q.consumer = r.consumer ∨ ∃ name, q.consumer = r.consumer ++ "." ++ name

theorem Narrows.allows {q r : Request} (h : q.Narrows r) {g : Grant} {today : Date}
    (hallows : g.allows r.features r.consumer today = true) :
  g.allows q.features q.consumer today = true
  := by
  obtain ⟨hfeatures, hcovered, hvalid⟩ := Grant.allows_iff.1 hallows
  apply Grant.allows_iff.2
  use Features.contains_trans hfeatures h.features
  constructor
  · intro n hn
    apply Namespace.covers_trans (hcovered n hn) (Namespace.covers_iff.2 h.consumer)
  · apply hvalid

section

variable [SignatureScheme] {q r : Request} {today : Date}

theorem Narrows.isGrantedBy (h : q.Narrows r) {l : License}
    (hgranted : r.isGrantedBy today l = true) :
  q.isGrantedBy today l = true
  := by
  obtain ⟨g, hgrant, hallows⟩ := (r.isGrantedBy_iff today).1 hgranted
  apply (q.isGrantedBy_iff today).2
  use g, hgrant, h.allows hallows

/-- The place of a license among those that are the same has nothing to do with the request. -/
theorem Narrows.hasLeader (h : q.Narrows r) {ls : List License}
    (hleader : r.HasLeader today ls) :
  q.HasLeader today ls
  := by
  obtain ⟨before, l, after, hls, hbefore, hgranted⟩ := hleader
  use before, l, after, hls, hbefore, h.isGrantedBy hgranted

/-- Sources that keep what they hold yield the same after a request. -/
theorem yields_decide {sources : List Source} (hfixed : ∀ s ∈ sources, s.IsFixed) :
  yields (r.decide today [] sources).2 = yields sources
  := by
  apply List.ext_getElem?
  intro i
  rw [yields, yields, List.getElem?_map, List.getElem?_map, getElem?_sources_decide,
    Option.map_map]
  cases hs : sources[i]? with
  | none => rfl
  | some s =>
    apply congrArg some
    dsimp only [Function.comp]
    split
    · apply hfixed s (List.mem_of_getElem? hs)
    · rfl

/-- A request that is narrower than one which is granted is granted as well, of the same
sources, and after the first request if the sources keep what they hold. -/
theorem isGranted_of_narrows {sources : List Source} (h : q.Narrows r)
    (hgranted : (r.decide today [] sources).1.isGranted = true) :
  (q.decide today [] sources).1.isGranted = true ∧
    ((∀ s ∈ sources, s.IsFixed) →
      (q.decide today [] (r.decide today [] sources).2).1.isGranted = true)
  := by
  have hleader : q.HasLeader today (yields sources).flatten :=
    h.hasLeader ((r.isGranted_iff_hasLeader today sources).1 hgranted)
  constructor
  · apply (q.isGranted_iff_hasLeader today sources).2 hleader
  · intro hfixed
    apply (q.isGranted_iff_hasLeader today _).2
    rw [yields_decide hfixed]
    apply hleader

end

/-! ### A license for a namespace -/

/-- A key of an issuer for two features in the namespace `Acme`. -/
def acmeKey : String :=
  "2-2A3283S22222E9J2363J22222222222C2K2Q8VD73W2K2J5LQ42UC9JA8KYEE88SZX6WWJY58423MZGUSACFGT8WKB3" ++
    "PUL6SWUCNQSPUD7TDUQREHJHQ754NLPSTSP63YR99VB3BNNC39N7JCMBJXZS"

/-- A store that holds the key. -/
def acmeSources : List Source :=
  [.ofStore issuerTrust {} { store := some ("\x7b\"licenses\":[\"" ++ acmeKey ++ "\"]\x7d") }]

/-- A request for both features in a namespace nested in `Acme`. -/
def billingRequest : Request := ⟨.core ∪ .framework, "Acme.Billing"⟩

/-- A request for one of them in a namespace nested in that one. -/
def billingCoreRequest : Request := ⟨.framework, "Acme.Billing.Core"⟩

/-- The narrower one of two requests is granted with the other one, also after it. -/
theorem isGranted_of_narrows_acme :
  (billingRequest.decide .keyEpoch [] acmeSources).1.grantedBy = some acmeKey ∧
    billingCoreRequest.Narrows billingRequest ∧
    (billingCoreRequest.decide .keyEpoch [] acmeSources).1.isGranted = true ∧
    (billingCoreRequest.decide .keyEpoch []
      (billingRequest.decide .keyEpoch [] acmeSources).2).1.isGranted = true
  := by
  have hgrantedBy : (billingRequest.decide .keyEpoch [] acmeSources).1.grantedBy =
      some acmeKey := by
    decide +kernel
  have hgranted : (billingRequest.decide .keyEpoch [] acmeSources).1.isGranted = true := by
    rw [Decision.isGranted, hgrantedBy, Option.isSome_some]
  have hnarrows : billingCoreRequest.Narrows billingRequest := by
    constructor
    · decide
    · right
      use "Core"
      decide
  have hfixed : ∀ s ∈ acmeSources, s.IsFixed := by
    intro s hs
    rw [List.mem_singleton.1 hs]
    apply Source.isFixed_ofStore issuerTrust {} ⟨rfl, rfl⟩
  obtain ⟨hsame, hafter⟩ := isGranted_of_narrows hnarrows hgranted
  exact ⟨hgrantedBy, hnarrows, hsame, hafter hfixed⟩

end Request

end Entitlement

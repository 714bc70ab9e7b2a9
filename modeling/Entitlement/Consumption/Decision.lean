import Entitlement.Consumption.Source

/-!
# Decisions

A `Request` asks for features in a namespace. The licenses of the sources are tried one
after the other, source by source, until one allows what is asked; sources behind that one
are not asked. A license that is the same as an earlier one is left out, and of the
licenses of one source those without a restriction are tried before the others.

The `Decision` says which license allows the request and which were tried.
-/

namespace Entitlement

/-- What is asked for. -/
structure Request where
  features : Features
  consumer : String

/-- What comes of a request. -/
structure Decision where
  /-- The key of the license that allows the request. -/
  grantedBy : Option String
  /-- The keys of the licenses that were tried, in this order. -/
  evaluated : List String
deriving DecidableEq

namespace Decision

/-- The request is allowed. -/
def isGranted (d : Decision) : Bool := d.grantedBy.isSome

/-- The decision when there are no licenses. -/
def denied : Decision := ⟨none, []⟩

end Decision

namespace Request

/-! ### The order of licenses -/

/-- The licenses that are not the same as one that was seen, or as an earlier one. -/
def fresh (seen : List License) : List License → List License
  | [] => []
  | l :: ls =>
    if seen.any l.same then fresh seen ls
    else l :: fresh (l :: seen) ls

/-- The licenses in the order in which they are tried. -/
def preferred (ls : List License) : List License :=
  ls.filter (fun l => l.namespaceRestriction?.isNone)
    ++ ls.filter (fun l => l.namespaceRestriction?.isSome)

/-! ### Trying licenses -/

variable [SignatureScheme]

/-- The license allows what is asked on the day. -/
def isGrantedBy (r : Request) (today : Date) (l : License) : Bool :=
  match l.grant with
  | .ok g => g.allows r.features r.consumer today
  | .error _ => false

/-- The decision about a request when some licenses have been seen, and the sources after
it. -/
def decide (r : Request) (today : Date) (seen : List License) :
    List Source → Decision × List Source
  | [] => (.denied, [])
  | s :: ss =>
    let (ls, s) := s.pull
    let ls := fresh seen ls
    match (preferred ls).span fun l => !r.isGrantedBy today l with
    | (tried, l :: _) => (⟨some l.key, tried.map (·.key) ++ [l.key]⟩, s :: ss)
    | (tried, []) =>
      let (d, ss) := decide r today (seen ++ ls) ss
      (⟨d.grantedBy, tried.map (·.key) ++ d.evaluated⟩, s :: ss)

end Request

end Entitlement

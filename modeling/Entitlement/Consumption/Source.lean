import Entitlement.License.Basic
import Entitlement.License.Builder
import Entitlement.Store.Configuration
import Entitlement.Store.Retry

/-!
# Sources of licenses

A `Supply` is where licenses come from: a list of keys, the store of registered licenses,
the program itself, which grants everything where it runs unattended, or a list of licenses
that the program has made by means of its own. `Supply.texts` is what the first two hold,
the keys from outside. A `Source` is a supply with a name that counts how often it was asked
and how many licenses it gave. `Source.pull` asks it once.
-/

namespace Entitlement

/-- Where licenses come from. -/
inductive Supply where
  /-- Keys that are given. -/
  | keys (trust : TrustPolicy) (keys : List String)
  /-- The keys in the store. -/
  | store (trust : TrustPolicy) (retry : RetryPolicy) (files : Files)
  /-- The program itself, if it is enabled. -/
  | unattended (trust : TrustPolicy) (enabled : Bool)
  /-- Licenses that are given as such. -/
  | given (licenses : List License)

namespace Supply

/-- The licenses for keys; keys that stand for no license are left out. -/
def ofKeys (trust : TrustPolicy) (keys : List String) : List License :=
  keys.filterMap fun key => (License.ofText trust key).toOption

/-- What an unattended program is allowed: all features everywhere. -/
def unattendedSpec : LicenseSpec where
  kind := .unattended
  features := some .all
  description := some "Unattended build license"

/-- The license of an unattended program. -/
def unattendedLicense (trust : TrustPolicy) : Except LicenseError License := do
  let p ← LicenseError.ofKey unattendedSpec.payload
  License.inProcess trust p

/-- The keys that a store holds, and the files after it was read. A store that cannot be
read holds none. -/
def storedKeys (retry : RetryPolicy) (files : Files) : List String × Files :=
  let (c, files) := (retry.run Configuration.load).run.run files
  match c with
  | .ok c => (c.keys, files)
  | .error _ => ([], files)

/-- The keys from outside that a supply makes its licenses of. -/
def texts : Supply → List String
  | .keys _ ks => ks
  | .store _ retry files => (storedKeys retry files).1
  | .unattended .. | .given _ => []

/-- The licenses of a supply, and the supply after it was asked. -/
def licenses : Supply → List License × Supply
  | .keys trust ks => (ofKeys trust ks, .keys trust ks)
  | .store trust retry files =>
    let (ks, files) := storedKeys retry files
    (ofKeys trust ks, .store trust retry files)
  | .unattended trust enabled =>
    (if enabled then (unattendedLicense trust).toOption.toList else [], .unattended trust enabled)
  | .given ls => (ls, .given ls)

end Supply

/-- A supply that is asked by name. -/
structure Source where
  id : String
  supply : Supply
  /-- How often it was asked. -/
  pulls : Nat := 0
  /-- How many licenses it gave. -/
  yielded : Nat := 0

namespace Source

/-- The source of keys that are given. -/
def ofKeys (trust : TrustPolicy) (keys : List String) (id : String := "explicit") : Source :=
  { id, supply := .keys trust keys }

/-- The source of the registered licenses. -/
def ofStore (trust : TrustPolicy) (retry : RetryPolicy) (files : Files) : Source :=
  { id := "configuration", supply := .store trust retry files }

/-- The source for an unattended program. -/
def unattended (trust : TrustPolicy) (enabled : Bool) : Source :=
  { id := "unattended", supply := .unattended trust enabled }

/-- The licenses of a source, and the source after it was asked. -/
def pull (s : Source) : List License × Source :=
  let (ls, supply) := s.supply.licenses
  (ls, { s with supply, pulls := s.pulls + 1, yielded := s.yielded + ls.length })

end Source

/-! ### Where a program runs -/

/-- The variables one of which is set where a program runs unattended. -/
def unattendedVariables : List String :=
  ["CI", "TF_BUILD", "GITHUB_ACTIONS", "GITLAB_CI", "JENKINS_URL", "TEAMCITY_VERSION",
    "BUILDKITE", "CIRCLECI", "APPVEYOR", "TRAVIS"]

/-- The program runs unattended. -/
def runsUnattended (isSet : String → Bool) : Bool :=
  unattendedVariables.any isSet

/-- The sources of a program: the registered licenses, and the program itself where it
runs unattended. -/
def Source.ofProgram (trust : TrustPolicy) (retry : RetryPolicy) (files : Files)
    (isSet : String → Bool) : List Source :=
  [.ofStore trust retry files, .unattended trust (runsUnattended isSet)]

end Entitlement

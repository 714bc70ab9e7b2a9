import Entitlement.Calendar.Date

/-!
# Instants

An `Instant` is a point of time to the nanosecond, on a day of the calendar. It is given
by the seconds since the start of 1970-01-01, rounded down, and the nanoseconds above
them. `Instant.millis` rounds down to the millisecond, and `Instant.ofMillis?` is defined
exactly on the milliseconds of the calendar.

Every day has 86400 seconds. A calendar with leap seconds gives the nanoseconds of a leap second
as a number from 1000000000 on, above the second before it; an `Instant` does not have these.
No clock shows them that counts the seconds since 1970-01-01, and none can be read from a
license key, which has whole milliseconds since then.
-/

namespace Entitlement

/-- A point of time in the calendar. -/
structure Instant where
  /-- The whole seconds since the start of 1970-01-01. -/
  seconds : Int
  /-- The nanoseconds above the whole seconds, without those of leap seconds. -/
  nanos : Nat
  first_le : -96465292 * 86400 ≤ seconds
  le_last : seconds < 95026237 * 86400
  nanos_lt : nanos < 1000000000
deriving DecidableEq

namespace Instant

@[ext]
theorem ext {a b : Instant} (hs : a.seconds = b.seconds) (hn : a.nanos = b.nanos) :
  a = b
  := by
  cases a
  cases b
  cases hs
  cases hn
  rfl

/-- The instant with the given seconds and nanoseconds, if the calendar has it. -/
def ofSeconds? (seconds : Int) (nanos : Nat) : Option Instant :=
  if h : -96465292 * 86400 ≤ seconds ∧ seconds < 95026237 * 86400 ∧ nanos < 1000000000 then
    some ⟨seconds, nanos, h.1, h.2.1, h.2.2⟩
  else none

/-- The milliseconds since the start of 1970-01-01, rounded down. -/
def millis (t : Instant) : Int :=
  t.seconds * 1000 + (t.nanos / 1000000 : Nat)

/-- The instant that many milliseconds after the start of 1970-01-01. -/
def ofMillis? (n : Int) : Option Instant :=
  ofSeconds? (n / 1000) ((n % 1000).toNat * 1000000)

/-- The day an instant falls on. -/
def day (t : Instant) : Date where
  day := t.seconds / 86400
  first_le := by
    have := t.first_le
    omega
  le_last := by
    have := t.le_last
    omega

/-- The instant a number of seconds later; at either end of the calendar time stops. -/
def advance (t : Instant) (n : Int) : Instant where
  seconds := max (-96465292 * 86400) (min (t.seconds + n) (95026237 * 86400 - 1))
  nanos := t.nanos
  first_le := by omega
  le_last := by omega
  nanos_lt := t.nanos_lt

/-- The instant without what is below its millisecond. -/
def floorMillis (t : Instant) : Instant where
  seconds := t.seconds
  nanos := t.nanos / 1000000 * 1000000
  first_le := t.first_le
  le_last := t.le_last
  nanos_lt := by
    have := t.nanos_lt
    omega

theorem ofMillis?_millis (t : Instant) :
  ofMillis? t.millis = some t.floorMillis
  := by
  have h₁ := t.first_le
  have h₂ := t.le_last
  have h₃ := t.nanos_lt
  have hs : t.millis / 1000 = t.seconds := by
    unfold millis
    omega
  have hn : (t.millis % 1000).toNat = t.nanos / 1000000 := by
    unfold millis
    omega
  rw [ofMillis?, hs, hn, ofSeconds?, dif_pos (by omega)]
  rfl

end Instant

end Entitlement

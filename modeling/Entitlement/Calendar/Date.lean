/-!
# Calendar dates

A `Date` is a day of the proleptic Gregorian calendar, given by its distance in days from
1970-01-01. The calendar is finite: it runs from the first day of the year -262143 to the
last day of the year 262142. `Date.ofCivil?` and `Date.civil` pass between the day number
and year, month and day, `Date.addDays?` moves a date inside the calendar, and
`Date.toText` writes a date with an explicit sign when its year has not four digits.
-/

namespace Entitlement

/-- A day of the calendar, counted from 1970-01-01. -/
structure Date where
  /-- The number of days since 1970-01-01. -/
  day : Int
  first_le : -96465292 ≤ day
  le_last : day ≤ 95026236
deriving DecidableEq

namespace Date

@[ext]
theorem ext {a b : Date} (h : a.day = b.day) :
  a = b
  := by
  cases a
  cases b
  cases h
  rfl

instance : LE Date := ⟨fun a b => a.day ≤ b.day⟩

instance : LT Date := ⟨fun a b => a.day < b.day⟩

instance (a b : Date) : Decidable (a ≤ b) := inferInstanceAs (Decidable (a.day ≤ b.day))

instance (a b : Date) : Decidable (a < b) := inferInstanceAs (Decidable (a.day < b.day))

theorem not_le {a b : Date} :
  ¬ a ≤ b ↔ b < a
  := Int.not_le

/-- The date a number of days after 1970-01-01, if the calendar has it. -/
def ofDay? (n : Int) : Option Date :=
  if h : -96465292 ≤ n ∧ n ≤ 95026236 then some ⟨n, h.1, h.2⟩ else none

/-- The date `n` days later, if the calendar reaches it. -/
def addDays? (d : Date) (n : Nat) : Option Date :=
  ofDay? (d.day + n)

theorem ofDay?_eq_some_iff {n : Int} {d : Date} :
  ofDay? n = some d ↔ d.day = n
  := by
  constructor
  · intro h
    simp only [ofDay?] at h
    split at h
    · cases h
      rfl
    · cases h
  · intro h
    subst h
    simp [ofDay?, d.first_le, d.le_last]

/-! ### Years, months and days -/

/-- The year is a leap year. -/
def isLeap (year : Int) : Bool :=
  year % 4 = 0 && (year % 100 ≠ 0 || year % 400 = 0)

/-- The number of days of a month, none when there is no such month. -/
def monthLength (year : Int) : (month : Nat) → Nat
  | 2 => if isLeap year then 29 else 28
  | 4 | 6 | 9 | 11 => 30
  | 1 | 3 | 5 | 7 | 8 | 10 | 12 => 31
  | _ => 0

/-- The day number of a civil date. Years are counted from March, so that the day that
comes and goes is the last one of the year, and in periods of four centuries. -/
def civilDay (year : Int) (month day : Nat) : Int :=
  let y := if month ≤ 2 then year - 1 else year
  let m := (month + 9) % 12
  let period := y / 400
  let yearOfPeriod := y % 400
  let dayOfYear := (153 * m + 2) / 5 + (day - 1)
  let dayOfPeriod := yearOfPeriod * 365 + yearOfPeriod / 4 - yearOfPeriod / 100 + dayOfYear
  period * 146097 + dayOfPeriod - 719468

/-- The date of a year, month and day, if there is one. -/
def ofCivil? (year : Int) (month day : Nat) : Option Date :=
  if 1 ≤ day ∧ day ≤ monthLength year month then ofDay? (civilDay year month day) else none

/-- The year, month and day of a date. -/
def civil (d : Date) : Int × Nat × Nat :=
  let z := d.day + 719468
  let period := z / 146097
  let dayOfPeriod := z % 146097
  let yearOfPeriod :=
    (dayOfPeriod - dayOfPeriod / 1460 + dayOfPeriod / 36524 - dayOfPeriod / 146096) / 365
  let dayOfYear := dayOfPeriod - (365 * yearOfPeriod + yearOfPeriod / 4 - yearOfPeriod / 100)
  let m := (5 * dayOfYear + 2) / 153
  let day := dayOfYear - (153 * m + 2) / 5 + 1
  let month := if m < 10 then m + 3 else m - 9
  let year := yearOfPeriod + period * 400
  (if month ≤ 2 then year + 1 else year, month.toNat, day.toNat)

/-- The first day that a license key can name, 2000-01-01. -/
def keyEpoch : Date := ⟨10957, by decide, by decide⟩

/-- The last day that a license key can name, 65535 days after the first. -/
def keyLast : Date := ⟨76492, by decide, by decide⟩

example : ofCivil? 2000 1 1 = some keyEpoch := by decide

example : keyEpoch.addDays? 65535 = some keyLast := by decide

example : ofCivil? (-262143) 1 1 = ofDay? (-96465292) := by decide

example : ofCivil? 262142 12 31 = ofDay? 95026236 := by decide

/-! ### Text -/

/-- The decimal digits of a number, with zeros in front up to a width. -/
def padded (width n : Nat) : String :=
  let digits := toString n
  "".pushn '0' (width - digits.length) ++ digits

/-- `YYYY-MM-DD`; a year that is negative or above 9999 has a sign. -/
def toText (d : Date) : String :=
  let (year, month, day) := d.civil
  let yearText :=
    if 0 ≤ year ∧ year ≤ 9999 then padded 4 year.toNat
    else (if year < 0 then "-" else "+") ++ padded 4 year.natAbs
  yearText ++ "-" ++ padded 2 month ++ "-" ++ padded 2 day

instance : ToString Date := ⟨toText⟩

end Date

end Entitlement

/-!
# Instants and durations

Time is counted in nanoseconds: an instant from 1970-01-01T00:00:00 UTC, a duration from nothing,
both as whole numbers without rounding. The calendar has two ends, so adding a duration to an
instant is partial: `Instant.add?` answers `none` for a sum outside of it.

* `Instant.add?_eq_some_iff` -- a sum is answered exactly when the calendar holds it;
* `Instant.seconds_fraction` -- the two written parts of an instant give it back.
-/

namespace TokenRotation

/-- Nanoseconds in a second. -/
abbrev nanosPerSecond : Int := 1000000000

/-! ## 1. Durations -/

/-- A signed length of time. -/
structure Duration where
  nanos : Int
deriving DecidableEq, Repr

namespace Duration

/-- The duration of that many seconds and nanoseconds. -/
def ofParts (seconds nanos : Int) : Duration := ⟨seconds * nanosPerSecond + nanos⟩

/-- The duration of that many whole seconds. -/
def ofSeconds (seconds : Int) : Duration := ofParts seconds 0

/-- The duration of that many days of 86400 seconds. -/
def ofDays (days : Int) : Duration := ofSeconds (days * 86400)

/-- The greatest number of whole seconds a duration may be built from: milliseconds are counted
    in 63 bits. -/
def maxSeconds : Int := 9223372036854775

/-- The greatest number of whole days within `maxSeconds`. -/
def maxDays : Int := 106751991167

/-- The seconds of a duration, rounded down. -/
def seconds (d : Duration) : Int := d.nanos / nanosPerSecond

/-- What a duration adds to its `seconds`, between 0 and 999999999 nanoseconds. -/
def fraction (d : Duration) : Int := d.nanos % nanosPerSecond

/-- The whole seconds of a duration, fractions dropped toward zero. -/
def wholeSeconds (d : Duration) : Int := d.nanos.tdiv nanosPerSecond

theorem seconds_fraction (d : Duration) : ofParts d.seconds d.fraction = d := by
  cases d
  simp only [ofParts, seconds, fraction, nanosPerSecond, mk.injEq]
  omega

end Duration

/-! ## 2. Instants -/

/-- A point in time. -/
structure Instant where
  nanos : Int
deriving DecidableEq, Repr

namespace Instant

instance : LE Instant := ⟨fun a b => a.nanos ≤ b.nanos⟩
instance : LT Instant := ⟨fun a b => a.nanos < b.nanos⟩
instance (a b : Instant) : Decidable (a ≤ b) := inferInstanceAs (Decidable (a.nanos ≤ b.nanos))
instance (a b : Instant) : Decidable (a < b) := inferInstanceAs (Decidable (a.nanos < b.nanos))

theorem le_def {a b : Instant} : a ≤ b ↔ a.nanos ≤ b.nanos := Iff.rfl

theorem lt_def {a b : Instant} : a < b ↔ a.nanos < b.nanos := Iff.rfl

theorem not_lt {a b : Instant} : ¬ a < b ↔ b ≤ a := Int.not_lt

/-- The beginning of the count, 1970-01-01T00:00:00 UTC. -/
def epoch : Instant := ⟨0⟩

/-- The instant that many seconds and nanoseconds after the beginning of the count. -/
def ofParts (seconds nanos : Int) : Instant := ⟨seconds * nanosPerSecond + nanos⟩

/-- The seconds of an instant, rounded down. -/
def seconds (t : Instant) : Int := t.nanos / nanosPerSecond

/-- What an instant adds to its `seconds`, between 0 and 999999999 nanoseconds. -/
def fraction (t : Instant) : Int := t.nanos % nanosPerSecond

theorem seconds_fraction (t : Instant) : ofParts t.seconds t.fraction = t := by
  cases t
  simp only [ofParts, seconds, fraction, nanosPerSecond, mk.injEq]
  omega

/-! ## 3. The calendar and its ends -/

/-- The first instant of the calendar: the beginning of the year -262143. -/
def first : Instant := ofParts (-8334601228800) 0

/-- The last instant of the calendar: the end of the year 262142. -/
def last : Instant := ofParts 8210266876799 999999999

/-- The calendar holds the instant. -/
def InCalendar (t : Instant) : Prop := first ≤ t ∧ t ≤ last

instance (t : Instant) : Decidable t.InCalendar :=
  inferInstanceAs (Decidable (first ≤ t ∧ t ≤ last))

/-- The instant a duration later, if the calendar holds it. -/
def add? (t : Instant) (d : Duration) : Option Instant :=
  if InCalendar ⟨t.nanos + d.nanos⟩ then some ⟨t.nanos + d.nanos⟩ else none

/-- A sum is answered exactly when the calendar holds it. -/
theorem add?_eq_some_iff {t u : Instant} {d : Duration} :
    t.add? d = some u ↔ u = ⟨t.nanos + d.nanos⟩ ∧ u.InCalendar := by
  unfold add?
  split <;> grind

theorem add?_eq_none_iff {t : Instant} {d : Duration} :
    t.add? d = none ↔ ¬ InCalendar ⟨t.nanos + d.nanos⟩ := by
  unfold add?
  split <;> simp_all

end Instant

end TokenRotation

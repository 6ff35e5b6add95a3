import TokenRotation.Failure

/-!
# Clocks

An operation goes by a clock: by an instant that its caller chose, or by the clock of the system,
which counts from 1970-01-01T00:00:00 UTC and cannot be read while it is set to a time before.

* `now_system_eq_ok_iff` -- from the beginning of its count on, the clock of the system shows the
  time it is set to.
-/

namespace TokenRotation

/-- Where an operation takes its instant from. -/
inductive Clock
  /-- The clock shows an instant. -/
  | shows (t : Instant)
  /-- The clock of the system is set to a time before the beginning of its count, by that much. -/
  | behind (lag : Duration)
deriving DecidableEq, Repr

namespace Clock

/-- The clock of the system while it is set to a time. -/
def system (t : Instant) : Clock :=
  if t < Instant.epoch then .behind ⟨-t.nanos⟩ else .shows t

/-- One instant, chosen beforehand. -/
def fixed (t : Instant) : Clock := .shows t

/-- The instant that the clock shows; to read one that lies behind breaks the work off. -/
def now : Clock → Except Abort Instant
  | .shows t => .ok t
  | .behind lag => .error (.clockBehind lag)

@[simp] theorem now_fixed (t : Instant) : (fixed t).now = .ok t := rfl

/-- From the beginning of its count on, the clock of the system shows the time it is set to. -/
theorem now_system_eq_ok_iff {t u : Instant} :
    (system t).now = .ok u ↔ Instant.epoch ≤ t ∧ u = t := by
  unfold system
  split
  · next before =>
    have early : ¬ Instant.epoch ≤ t := fun h => Instant.not_lt.2 h before
    simp [now, early]
  · next from_epoch => simp [now, Instant.not_lt.1 from_epoch, eq_comm]

end Clock

end TokenRotation

import TokenRotation.Token.Row

/-!
# The precision of a database

A database keeps instants in whole microseconds, counted from the beginning of the year 2000; what
is finer is cut off toward that beginning. So an instant after it is kept a little early, and one
before it a little late.

* `stored_stored` -- what is kept already stays as it is;
* `stored_le` -- from 2000 on, nothing is kept late;
* `stored_eq_self_iff` -- what is kept as it is;
* `le_stored_iff` -- what is not kept early;
* `stored_mono` -- the order is kept;
* `stored_add` -- so are distances of whole microseconds, from 2000 on.
-/

namespace TokenRotation

/-- Nanoseconds in a microsecond. -/
abbrev nanosPerMicrosecond : Int := 1000

namespace Instant

/-- The beginning of the year 2000. -/
def databaseEpoch : Instant := ofParts 946684800 0

/-- The instant as a database keeps it. -/
def stored (t : Instant) : Instant :=
  ⟨databaseEpoch.nanos
    + (t.nanos - databaseEpoch.nanos).tdiv nanosPerMicrosecond * nanosPerMicrosecond⟩

theorem stored_stored (t : Instant) : t.stored.stored = t.stored := by
  simp only [stored, nanosPerMicrosecond, mk.injEq]
  rw [show databaseEpoch.nanos + (t.nanos - databaseEpoch.nanos).tdiv 1000 * 1000
      - databaseEpoch.nanos = (t.nanos - databaseEpoch.nanos).tdiv 1000 * 1000 from by omega,
    Int.mul_tdiv_cancel _ (by decide)]

/-- From 2000 on, nothing is kept late, and nothing a microsecond early. -/
theorem stored_le {t : Instant} (h : databaseEpoch ≤ t) :
    t.stored ≤ t ∧ t.nanos < t.stored.nanos + nanosPerMicrosecond := by
  have nonneg : 0 ≤ t.nanos - databaseEpoch.nanos := by
    have := le_def.1 h
    omega
  simp only [le_def, stored, nanosPerMicrosecond, Int.tdiv_eq_ediv_of_nonneg nonneg]
  omega

theorem nanos_stored_of_le {t : Instant} (h : databaseEpoch ≤ t) :
    t.stored.nanos = t.nanos - t.nanos % nanosPerMicrosecond := by
  have nonneg : 0 ≤ t.nanos - databaseEpoch.nanos := Int.sub_nonneg_of_le h
  simp only [stored, Int.tdiv_eq_ediv_of_nonneg nonneg]
  simp only [databaseEpoch, ofParts, nanosPerSecond, nanosPerMicrosecond]
  omega

theorem nanos_stored_of_lt {t : Instant} (h : t < databaseEpoch) :
    t.stored.nanos = t.nanos + -t.nanos % nanosPerMicrosecond := by
  have nonneg : 0 ≤ databaseEpoch.nanos - t.nanos := Int.sub_nonneg_of_le (Int.le_of_lt h)
  have mirrored : (t.nanos - databaseEpoch.nanos).tdiv nanosPerMicrosecond =
      -((databaseEpoch.nanos - t.nanos) / nanosPerMicrosecond) := by
    rw [← Int.neg_sub, Int.neg_tdiv, Int.tdiv_eq_ediv_of_nonneg nonneg]
  simp only [stored, mirrored]
  simp only [databaseEpoch, ofParts, nanosPerSecond, nanosPerMicrosecond]
  omega

/-- The instants of whole microseconds, and no others, are kept as they are. -/
theorem stored_eq_self_iff {t : Instant} : t.stored = t ↔ nanosPerMicrosecond ∣ t.nanos := by
  have same : t.stored = t ↔ t.stored.nanos = t.nanos :=
    ⟨congrArg nanos, fun h => by cases t; exact congrArg mk h⟩
  rw [same]
  by_cases h : databaseEpoch ≤ t
  · simp only [nanos_stored_of_le h, nanosPerMicrosecond]
    omega
  · simp only [nanos_stored_of_lt (Int.not_le.1 h), nanosPerMicrosecond]
    omega

/-- Nothing is kept early but what is finer than a microsecond and from 2000 on. -/
theorem le_stored_iff {t : Instant} : t ≤ t.stored ↔ t.stored = t ∨ t < databaseEpoch := by
  rw [stored_eq_self_iff, le_def]
  by_cases h : databaseEpoch ≤ t
  · have late : ¬ t < databaseEpoch := Int.not_lt.2 h
    simp only [nanos_stored_of_le h, late, or_false, nanosPerMicrosecond]
    omega
  · have early : t < databaseEpoch := Int.not_le.1 h
    simp only [nanos_stored_of_lt early, early, or_true, iff_true, nanosPerMicrosecond]
    omega

/-- What is later is not kept earlier. -/
theorem stored_mono {t u : Instant} (h : t ≤ u) : t.stored ≤ u.stored := by
  rw [le_def] at h ⊢
  have between : databaseEpoch.nanos = 946684800000000000 := rfl
  by_cases ht : databaseEpoch ≤ t <;> by_cases hu : databaseEpoch ≤ u
  · simp only [nanos_stored_of_le ht, nanos_stored_of_le hu, nanosPerMicrosecond]
    omega
  · exact absurd (Int.le_trans ht h) hu
  · simp only [nanos_stored_of_lt (Int.not_le.1 ht), nanos_stored_of_le hu, nanosPerMicrosecond]
    rw [le_def] at ht hu
    omega
  · simp only [nanos_stored_of_lt (Int.not_le.1 ht), nanos_stored_of_lt (Int.not_le.1 hu),
      nanosPerMicrosecond]
    omega

/-- Whole seconds change nothing about what of an instant is kept. -/
theorem stored_add_seconds_iff {t : Instant} {n : Int} :
    (⟨t.nanos + (Duration.ofSeconds n).nanos⟩ : Instant).stored =
      ⟨t.nanos + (Duration.ofSeconds n).nanos⟩ ↔ t.stored = t := by
  rw [stored_eq_self_iff, stored_eq_self_iff]
  simp only [Duration.ofSeconds, Duration.ofParts, nanosPerSecond, nanosPerMicrosecond]
  omega

/-- From 2000 on, to cut off and to add whole microseconds can be done in either order. -/
theorem stored_add {t : Instant} {d : Duration} (late : databaseEpoch ≤ t)
    (forward : 0 ≤ d.nanos) (whole : nanosPerMicrosecond ∣ d.nanos) :
    (⟨t.nanos + d.nanos⟩ : Instant).stored = ⟨t.stored.nanos + d.nanos⟩ := by
  have later : databaseEpoch ≤ ⟨t.nanos + d.nanos⟩ := by
    rw [le_def] at late ⊢
    exact Int.le_trans late (Int.le_add_of_nonneg_right forward)
  have same : (⟨t.nanos + d.nanos⟩ : Instant).stored.nanos = t.stored.nanos + d.nanos := by
    rw [nanos_stored_of_le later, nanos_stored_of_le late]
    simp only [nanosPerMicrosecond] at whole ⊢
    omega
  exact congrArg mk same

end Instant

/-- The row as a database keeps it. -/
def Row.stored (r : Row) : Row :=
  { r with
    createdAt := r.createdAt.stored
    expiresAt := r.expiresAt.stored
    consumedAt := r.consumedAt.map Instant.stored
    graceExpiresAt := r.graceExpiresAt.map Instant.stored
    revokedAt := r.revokedAt.map Instant.stored }

theorem Row.stored_stored (r : Row) : r.stored.stored = r.stored := by
  have twice : Instant.stored ∘ Instant.stored = Instant.stored := funext Instant.stored_stored
  simp [Row.stored, Instant.stored_stored, twice]

end TokenRotation

import TokenRotation.Failure
import TokenRotation.Policy
import TokenRotation.Token.Row

/-!
# What becomes of a presented row

A row that is presented at an instant is refused, consumed for the first time, answered once more
inside its grace window, or taken for stolen. Revocation is looked at first, then expiry; both
limits, of the lifetime and of the grace window, belong to the time they end.

* `judge_eq_refuse_iff` -- exactly the revoked and the expired rows are refused;
* `judge_eq_firstUse_iff`, `judge_eq_withinGrace_iff`, `judge_eq_reuse_iff` -- when a live row is
  consumed, answered once more, or taken for stolen;
* `judge_eq_overflow_iff` -- only a first use can leave the calendar.
-/

namespace TokenRotation

/-- What a store has to do with a presented row. -/
inductive Verdict
  /-- Nothing: the token is refused. -/
  | refuse (reason : Refusal)
  /-- Stamp the row with these two instants. -/
  | firstUse (consumedAt graceExpiresAt : Instant)
  /-- Nothing: the row is answered as it is. -/
  | withinGrace
  /-- Revoke the family of the row. -/
  | reuse
  /-- The grace window would close after the end of the calendar. -/
  | overflow
deriving DecidableEq, Repr

namespace Row

/-- The verdict on the row when it is presented at `now` under a policy. -/
def judge (r : Row) (now : Instant) (policy : Policy) : Verdict :=
  if r.revokedAt.isSome then .refuse .revoked
  else if r.expiresAt < now then .refuse .expired
  else
    match r.consumedAt, r.graceExpiresAt with
    | none, _ =>
      match policy.graceExpiresAt? now with
      | some deadline => .firstUse now deadline
      | none => .overflow
    | some _, some deadline => if now ≤ deadline then .withinGrace else .reuse
    | some _, none => .reuse

/-- Exactly the revoked and the expired rows are refused, and revocation comes first. -/
theorem judge_eq_refuse_iff {r : Row} {now : Instant} {policy : Policy} {reason : Refusal} :
    r.judge now policy = .refuse reason ↔
      (r.revokedAt.isSome ∧ reason = .revoked) ∨
        (r.revokedAt = none ∧ r.expiresAt < now ∧ reason = .expired) := by
  unfold judge
  cases hr : r.revokedAt with
  | some t => simp [eq_comm]
  | none =>
    by_cases he : r.expiresAt < now
    · simp [he, eq_comm]
    · simp only [he]
      cases r.consumedAt <;> cases r.graceExpiresAt <;> simp <;> split <;> simp

/-- A row that is neither revoked nor expired is judged by its two stamps. -/
theorem judge_of_live {r : Row} {now : Instant} {policy : Policy} (hr : r.revokedAt = none)
    (he : now ≤ r.expiresAt) :
    r.judge now policy =
      match r.consumedAt, r.graceExpiresAt with
      | none, _ =>
        match policy.graceExpiresAt? now with
        | some deadline => .firstUse now deadline
        | none => .overflow
      | some _, some deadline => if now ≤ deadline then .withinGrace else .reuse
      | some _, none => .reuse := by
  have hlate : ¬ r.expiresAt < now := Instant.not_lt.2 he
  simp [judge, hr, hlate]

/-- A row that is not refused is neither revoked nor expired. -/
theorem live_of_judge {r : Row} {now : Instant} {policy : Policy}
    (h : ∀ reason, r.judge now policy ≠ .refuse reason) :
    r.revokedAt = none ∧ now ≤ r.expiresAt := by
  have hrevoked := mt judge_eq_refuse_iff.mpr (h .revoked)
  have hexpired := mt judge_eq_refuse_iff.mpr (h .expired)
  cases hr : r.revokedAt with
  | some t => simp [hr] at hrevoked
  | none =>
    refine ⟨rfl, Instant.not_lt.1 fun he => ?_⟩
    simp [hr, he] at hexpired

/-- Exactly the live rows without a stamp are consumed, if the calendar holds the deadline. -/
theorem judge_eq_firstUse_iff {r : Row} {now c g : Instant} {policy : Policy} :
    r.judge now policy = .firstUse c g ↔
      r.revokedAt = none ∧ now ≤ r.expiresAt ∧ r.consumedAt = none ∧ c = now ∧
        policy.graceExpiresAt? now = some g := by
  constructor
  · intro h
    obtain ⟨hr, he⟩ := live_of_judge (fun reason => by rw [h]; simp : ∀ reason, _ ≠ _)
    rw [judge_of_live hr he] at h
    split at h
    · next hc =>
      split at h
      · next deadline hg =>
        cases h
        exact ⟨hr, he, hc, rfl, hg⟩
      · cases h
    · split at h <;> cases h
    · cases h
  · rintro ⟨hr, he, hc, rfl, hg⟩
    rw [judge_of_live hr he, hc]
    simp [hg]

/-- Exactly the live rows that are consumed and whose deadline has not passed are answered again. -/
theorem judge_eq_withinGrace_iff {r : Row} {now : Instant} {policy : Policy} :
    r.judge now policy = .withinGrace ↔
      r.revokedAt = none ∧ now ≤ r.expiresAt ∧ r.consumedAt.isSome ∧
        ∃ g, r.graceExpiresAt = some g ∧ now ≤ g := by
  constructor
  · intro h
    obtain ⟨hr, he⟩ := live_of_judge (fun reason => by rw [h]; simp : ∀ reason, _ ≠ _)
    rw [judge_of_live hr he] at h
    split at h
    · split at h <;> cases h
    · next c deadline hc hg =>
      split at h
      · next hin => exact ⟨hr, he, by simp [hc], deadline, hg, hin⟩
      · cases h
    · cases h
  · rintro ⟨hr, he, hc, g, hg, hin⟩
    obtain ⟨c, hc⟩ := Option.isSome_iff_exists.1 hc
    rw [judge_of_live hr he, hc, hg]
    simp [hin]

/-- Exactly the live rows that are consumed and have no deadline ahead are taken for stolen. -/
theorem judge_eq_reuse_iff {r : Row} {now : Instant} {policy : Policy} :
    r.judge now policy = .reuse ↔
      r.revokedAt = none ∧ now ≤ r.expiresAt ∧ r.consumedAt.isSome ∧
        ∀ g, r.graceExpiresAt = some g → g < now := by
  constructor
  · intro h
    obtain ⟨hr, he⟩ := live_of_judge (fun reason => by rw [h]; simp : ∀ reason, _ ≠ _)
    rw [judge_of_live hr he] at h
    split at h
    · split at h <;> cases h
    · next c deadline hc hg =>
      split at h
      · cases h
      · next hout =>
        refine ⟨hr, he, by simp [hc], fun g hg' => ?_⟩
        rw [hg] at hg'
        cases hg'
        exact Int.not_le.1 hout
    · next c hc hg => exact ⟨hr, he, by simp [hc], by simp [hg]⟩
  · rintro ⟨hr, he, hc, hall⟩
    obtain ⟨c, hc⟩ := Option.isSome_iff_exists.1 hc
    rw [judge_of_live hr he, hc]
    cases hg : r.graceExpiresAt with
    | none => rfl
    | some deadline =>
      have hout : ¬ now ≤ deadline := fun hin => Instant.not_lt.2 hin (hall deadline hg)
      simp [hout]

/-- Only the first use of a live row can leave the calendar. -/
theorem judge_eq_overflow_iff {r : Row} {now : Instant} {policy : Policy} :
    r.judge now policy = .overflow ↔
      r.revokedAt = none ∧ now ≤ r.expiresAt ∧ r.consumedAt = none ∧
        policy.graceExpiresAt? now = none := by
  unfold judge
  cases hr : r.revokedAt with
  | some t => simp
  | none =>
    by_cases he : r.expiresAt < now
    · have late : ¬ now ≤ r.expiresAt := fun h => Instant.not_lt.2 h he
      simp [he, late]
    · have intime : now ≤ r.expiresAt := Instant.not_lt.1 he
      simp only [he, intime]
      cases hc : r.consumedAt with
      | none => cases policy.graceExpiresAt? now <;> simp
      | some c =>
        cases r.graceExpiresAt with
        | none => simp
        | some deadline => by_cases inside : now ≤ deadline <;> simp [inside]

end Row

end TokenRotation

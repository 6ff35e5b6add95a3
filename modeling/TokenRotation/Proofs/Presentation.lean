import TokenRotation.Proofs.Faultless

/-!
# Presentations

What a presentation comes to is decided by the row that is found and the instant it is judged at.
This file says it as a function of the verdict, for both kinds of store, and carries it up to a step
of a session that consumes a token.

* `StoreKind.obey` -- what a store does about a verdict: its answer and the table it leaves;
* `Carried.obeys` -- a presentation that is carried out does just that;
* `ConsumeOutcome.told` -- what the caller is told of the answer;
* `Session.consumption_eq` -- what a step comes to that consumes a token, where no fault waits.
-/

namespace TokenRotation

/-! ## 1. Verdicts -/

/-- What a store of the kind does about a verdict on a row: its answer, and the table after it. No
    store survives a deadline that the calendar does not hold. -/
def StoreKind.obey (k : StoreKind) (rows : Table) (row : Row) (now : Instant) :
    Verdict → Option (ConsumeOutcome × Table)
  | .refuse reason => some (.rejected reason, rows)
  | .firstUse c g =>
    some (.accepted (row.stamp c g) .first,
      k.change (k.presented row) (fun r => r.stamp (k.keep c) (k.keep g)) rows)
  | .withinGrace => some (.accepted row .grace, rows)
  | .reuse =>
    some (.reused row (rows.sweepCount fun r => r.family = row.family),
      rows.sweep (fun r => r.family = row.family) (k.keep now))
  | .overflow => none

/-- **A presentation that is carried out** does what the verdict on the row asks for. -/
theorem Carried.obeys {k : StoreKind} {rows after : Table} {hash : String} {clock : Clock}
    {policy : Policy} {outcome : ConsumeOutcome} {row : Row} {now : Instant}
    (h : Carried k rows (.consume hash clock policy) outcome after)
    (found : rows.byHash? hash = some row) (shown : clock.now = .ok now) :
    k.obey rows row now (row.judge now policy) = some (outcome, after) := by
  have same {row' : Row} {now' : Instant} (found' : rows.byHash? hash = some row')
      (shown' : clock.now = .ok now') : row' = row ∧ now' = now := by
    rw [found] at found'
    rw [shown] at shown'
    cases found'
    cases shown'
    exact ⟨rfl, rfl⟩
  cases h with
  | unknown absent =>
    rw [found] at absent
    cases absent
  | refused found' shown' verdict | first found' shown' verdict | grace found' shown' verdict
  | reuse found' shown' verdict =>
    obtain ⟨rfl, rfl⟩ := same found' shown'
    rw [verdict]
    rfl

/-! ## 2. What the caller is told -/

/-- What the caller is told of the answer of a store. -/
def ConsumeOutcome.told : ConsumeOutcome → Outcome Service.ConsumedToken
  | .unknown => .failed (.refused .unknown)
  | .rejected reason => .failed (.refused reason)
  | .accepted row kind => .done { id := row.id, subject := row.subject, family := row.family, kind }
  | .reused .. => .failed (.refused .reused)

theorem Program.run_map {α β σ : Type} [TokenStore σ] (p : Program α) (f : α → β) (w : World σ) :
    (p >>= fun a => pure (f a)).run w = ((p.run w).1.map f, (p.run w).2) := by
  rw [run_bind]
  rcases p.run w with ⟨outcome, w'⟩
  cases outcome <;> rfl

/-- Whoever consumes a token is told what the store answered. -/
theorem Service.run_consume {policy : Policy} {token : String} {clock : Clock}
    {w : Program.World AnyStore} {outcome : ConsumeOutcome}
    (answered : (w.store.perform (.consume (hashOf token) clock policy)).outcome = .done outcome) :
    ((consume policy token clock).run w).1 = outcome.told ∧
      ((consume policy token clock).run w).2.store =
        (w.store.perform (.consume (hashOf token) clock policy)).store := by
  have hperform : TokenStore.perform w.store (.consume (hashOf token) clock policy) =
    w.store.perform (.consume (hashOf token) clock policy) := rfl
  rw [consume, Program.run_log_bind, Program.run_bind, Program.store, Program.run]
  simp only [Program.answer, hperform, answered]
  cases outcome <;> exact ⟨rfl, rfl⟩

/-! ## 3. Steps -/

namespace Session

/-- The step that consumes a token at an instant, with no fault waiting. -/
def Step.consuming (token : String) (now : Instant) : Step where
  command := .work (.consume token)
  clock := .fixed now

/-- What consuming a token at an instant comes to: the outcome of the step, and the table after
    it. -/
def consumption (s : Session) (token : String) (now : Instant) : Outcome Value × Table :=
  ((s.take (.consuming token now)).1.outcome, (s.take (.consuming token now)).2.store.rows)

/-- **Consuming a token** that is found comes to what the store does about the verdict, as the
    caller is told of it. -/
theorem consumption_eq {s : Session} {token : String} {now : Instant} {row : Row}
    {outcome : ConsumeOutcome} {after : Table} (reachable : s.store.isReachable)
    (found : s.store.rows.byHash? (hashOf token) = some row)
    (obeyed : s.store.kind.obey s.store.rows row now (row.judge now s.settings.policy) =
      some (outcome, after)) :
    s.consumption token now = (outcome.told.map .consumed, after) := by
  have hanswered : ∃ answer, ((s.store.withFaults []).perform
      (.consume (hashOf token) (.fixed now) s.settings.policy)).outcome = .done answer := by
    refine AnyStore.perform_consume_done reachable (Clock.now_fixed now) fun r hr hverdict => ?_
    rw [found] at hr
    cases hr
    rw [hverdict] at obeyed
    cases obeyed
  obtain ⟨answer, hdone⟩ := hanswered
  have hsettled := (s.store.withFaults []).perform_settled
    (.consume (hashOf token) (.fixed now) s.settings.policy)
  rw [AnyStore.kind_withFaults, AnyStore.rows_withFaults, hdone] at hsettled
  have hobeys := hsettled.carried_of_done.obeys found (Clock.now_fixed now)
  rw [obeyed] at hobeys
  cases hobeys
  obtain ⟨hrun, hstore⟩ := Service.run_consume (w := s.world (.consuming token now)) hdone
  simp only [consumption, take, carryOut, Step.consuming, Work.program, Program.run_map]
  exact congrArg₂ (fun (told : Outcome Service.ConsumedToken) store =>
    (told.map Value.consumed, AnyStore.rows store)) hrun hstore

/-- The same after some steps, which change neither the kind of the store nor the settings. -/
theorem consumption_after {s : Session} (steps : List Step) {token : String} {now : Instant}
    {row : Row} {outcome : ConsumeOutcome} {after : Table}
    (reachable : (s.after steps).store.isReachable)
    (found : (s.after steps).store.rows.byHash? (hashOf token) = some row)
    (obeyed : s.store.kind.obey (s.after steps).store.rows row now
      (row.judge now s.settings.policy) = some (outcome, after)) :
    (s.after steps).consumption token now = (outcome.told.map .consumed, after) := by
  refine consumption_eq reachable found ?_
  rwa [kind_after, settings_after]

/-- A row that is neither revoked nor consumed is accepted for the first time, at any instant of its
    lifetime. -/
theorem consumption_of_unused {s : Session} {token : String} {row : Row} {now deadline : Instant}
    (reachable : s.store.isReachable) (found : s.store.rows.byHash? (hashOf token) = some row)
    (live : row.revokedAt = none) (unused : row.consumedAt = none) (intime : now ≤ row.expiresAt)
    (closes : s.settings.policy.graceExpiresAt? now = some deadline) :
    (s.consumption token now).1 = .done (.consumed
      { id := row.id, subject := row.subject, family := row.family, kind := .first }) := by
  have verdict : row.judge now s.settings.policy = .firstUse now deadline :=
    Row.judge_eq_firstUse_iff.mpr ⟨live, intime, unused, rfl, closes⟩
  have hend := consumption_eq reachable found
    (show s.store.kind.obey _ row now _ = some (_, _) by rw [verdict]; rfl)
  have hstamp := row.evolves_stamp now deadline
  rw [hend, ← hstamp.id, ← hstamp.subject, ← hstamp.family]
  rfl

/-- A row that is not revoked is refused as expired after its lifetime. -/
theorem consumption_of_expired {s : Session} {token : String} {row : Row} {now : Instant}
    (reachable : s.store.isReachable) (found : s.store.rows.byHash? (hashOf token) = some row)
    (live : row.revokedAt = none) (late : row.expiresAt < now) :
    s.consumption token now = (.failed (.refused .expired), s.store.rows) := by
  have verdict : row.judge now s.settings.policy = .refuse .expired :=
    Row.judge_eq_refuse_iff.mpr (.inr ⟨live, late, rfl⟩)
  exact consumption_eq reachable found (by rw [verdict]; rfl)

end Session

end TokenRotation

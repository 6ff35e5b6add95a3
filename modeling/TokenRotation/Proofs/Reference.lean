import TokenRotation.Proofs.Undisturbed

/-!
# The reference for consuming a token

What consuming a token is meant to do, written out as one chain of questions about the row of the
token: is there one, is it revoked, is it expired, was it consumed before, does the grace window
hold. It is plain about the table: which row is stamped, which rows are revoked, and with what. The
two kinds of store come to it in different ways, by a verdict and a guarded statement in one
transaction or by changing the table where it stands, and both come to it exactly.

* `Session.reference` -- the reference, as a function of the table;
* `Session.consumption_eq_present` -- consuming a token comes to what its presentation comes to;
* `Session.follows_reference` -- **consuming a token follows the reference** on every table of
  distinct identifiers and hashes, and ends work only on a first use.
-/

namespace TokenRotation

open Store

/-! ## 1. The reference -/

namespace Session

/-- **What consuming a token is meant to come to**, for the caller and in the table. The instants
    that are written are kept as the kind of store keeps them. -/
def reference (k : StoreKind) (policy : Policy) (rows : Table) (token : String) (now : Instant) :
    Outcome Value × Table :=
  match rows.find? fun r => r.hash = hashOf token with
  | none => (.failed (.refused .unknown), rows)
  | some row =>
    let accepted (kind : ConsumeKind) : Outcome Value :=
      .done (.consumed { id := row.id, subject := row.subject, family := row.family, kind })
    if row.revokedAt.isSome then (.failed (.refused .revoked), rows)
    else if row.expiresAt < now then (.failed (.refused .expired), rows)
    else if row.consumedAt.isNone then
      let deadline : Instant := ⟨now.nanos + policy.grace.nanos⟩
      if deadline.InCalendar then
        (accepted .first, rows.map fun r =>
          if r.id = row.id then
            { r with consumedAt := some (k.keep now), graceExpiresAt := some (k.keep deadline) }
          else r)
      else (.aborted .overflow, rows)
    else if row.graceExpiresAt.any fun g => now ≤ g then (accepted .grace, rows)
    else
      (.failed (.refused .reused), rows.map fun r =>
        if r.family = row.family ∧ r.revokedAt = none then { r with revokedAt := some (k.keep now) }
        else r)

end Session

/-! ## 2. What is written to the table -/

namespace Table

variable {rows : Table}

/-- A sweep revokes the chosen rows that are not revoked yet, and no others. -/
theorem sweep_eq_map (chosen : Row → Prop) [DecidablePred chosen] (now : Instant) (rows : Table) :
    rows.sweep (fun r => chosen r) now =
      rows.map fun r =>
        if chosen r ∧ r.revokedAt = none then { r with revokedAt := some now } else r := by
  refine List.map_congr_left fun r _ => ?_
  by_cases hchosen : chosen r <;> cases live : r.revokedAt <;> simp [hchosen, live, Row.revoke]

end Table

/-- The stamps are written to the presented row, and to no other. -/
theorem StoreKind.change_presented_eq_map {k : StoreKind} {rows : Table} (ids : rows.IdsDistinct)
    (hashes : rows.HashesDistinct) {row : Row} (found : row ∈ rows) (unused : row.consumedAt = none)
    (c g : Instant) :
    k.change (k.presented row) (fun r => r.stamp c g) rows =
      rows.map fun r =>
        if r.id = row.id then { r with consumedAt := some c, graceExpiresAt := some g } else r := by
  have hall : k.change (k.presented row) (fun r => r.stamp c g) rows =
      rows.changeAll (fun r => r.id = row.id) fun r => r.stamp c g := by
    cases k with
    | memory => exact Table.change_presented ids hashes found
    | durable => rfl
  rw [hall]
  refine List.map_congr_left fun r hr => ?_
  by_cases same : r.id = row.id
  · obtain rfl := ids.eq_of_id hr found same
    simp [Row.stamp, unused]
  · simp [same]

/-- The row that is kept of one that was accepted: a first use has its two stamps in the precision
    of the kind. -/
def StoreKind.keepStamps (k : StoreKind) : ConsumeKind → Row → Row
  | .first, seen =>
    { seen with
      consumedAt := seen.consumedAt.map k.keep
      graceExpiresAt := seen.graceExpiresAt.map k.keep }
  | .grace, seen => seen

/-! ## 3. Steps -/

/-- What the caller is told of how a presentation ended. -/
def Outcome.told : Outcome ConsumeOutcome → Outcome Service.ConsumedToken
  | .done answer => answer.told
  | .failed e => .failed e
  | .aborted cause => .aborted cause

/-- Whoever consumes a token is told how its presentation ended. -/
theorem Service.run_consume_eq (policy : Policy) (token : String) (clock : Clock)
    (w : Program.World AnyStore) :
    ((consume policy token clock).run w).1 =
        (w.store.perform (.consume (hashOf token) clock policy)).outcome.told ∧
      ((consume policy token clock).run w).2.store =
        (w.store.perform (.consume (hashOf token) clock policy)).store := by
  cases ended : (w.store.perform (.consume (hashOf token) clock policy)).outcome with
  | done answer => exact run_consume ended
  | failed | aborted =>
    have hperform : TokenStore.perform w.store (.consume (hashOf token) clock policy) =
      w.store.perform (.consume (hashOf token) clock policy) := rfl
    rw [consume, Program.run_log_bind, Program.run_bind, Program.store, Program.run]
    constructor <;> simp only [Program.answer, hperform, ended] <;> rfl

namespace Session

/-- A presentation without faults is undisturbed, whatever collisions are due. -/
theorem responds_consuming {s : Session} (reachable : s.store.isReachable) (token : String)
    (now : Instant) :
    let call := StoreCall.consume (hashOf token) (.fixed now) s.settings.policy
    let presented := s.store.kind.present s.store.rows (hashOf token) now s.settings.policy
    ((s.store.withFaults []).perform call).outcome = presented.1 ∧
      ((s.store.withFaults []).perform call).store.rows = presented.2 := by
  intro call presented
  have undisturbed : (s.store.withFaults []).Undisturbed call := by
    cases hs : s.store with
    | memory m =>
      rw [hs] at reachable
      exact ⟨rfl, AnyStore.isReachable_memory.mp reachable⟩
    | durable d =>
      rw [hs] at reachable
      exact ⟨reachable, rfl⟩
  have hrespond : s.store.kind.respond s.store.server s.store.rows call = _ :=
    StoreKind.respond_of_keepable fun _ text htext => by
      rw [List.mem_singleton.mp htext]
      exact nul_not_mem_hashOf token
  obtain ⟨houtcome, -, hrows, -⟩ := undisturbed.responds
  rw [AnyStore.kind_withFaults, AnyStore.rows_withFaults, AnyStore.server_withFaults, hrespond]
    at houtcome hrows
  exact ⟨houtcome, hrows⟩

/-- **Consuming a token** comes to what its presentation comes to, as the caller is told of it. -/
theorem consumption_eq_present {s : Session} (reachable : s.store.isReachable) (token : String)
    (now : Instant) :
    let presented := s.store.kind.present s.store.rows (hashOf token) now s.settings.policy
    s.consumption token now = (presented.1.told.map .consumed, presented.2) := by
  intro presented
  obtain ⟨houtcome, hrows⟩ := responds_consuming reachable token now
  obtain ⟨hrun, hstore⟩ := Service.run_consume_eq s.settings.policy token (.fixed now)
    (s.world (.consuming token now))
  simp only [consumption, take, carryOut, Step.consuming, Work.program, Program.run_map]
  refine congrArg₂ (fun (told : Outcome Service.ConsumedToken) rows =>
    (told.map Value.consumed, rows)) (hrun.trans ?_) ((congrArg AnyStore.rows hstore).trans hrows)
  exact congrArg Outcome.told houtcome

/-- **The presentation does what the reference says.** -/
theorem reference_eq_present {k : StoreKind} {rows : Table} (ids : rows.IdsDistinct)
    (hashes : rows.HashesDistinct) (policy : Policy) (token : String) (now : Instant) :
    let presented := k.present rows (hashOf token) now policy
    reference k policy rows token now = (presented.1.told.map .consumed, presented.2) := by
  intro presented
  cases found : rows.find? (fun r => r.hash = hashOf token) with
  | none =>
    have absent : rows.byHash? (hashOf token) = none := found
    simp only [presented, reference, StoreKind.present, found, absent]
    rfl
  | some row =>
    have found' : rows.byHash? (hashOf token) = some row := found
    have hrow := Table.mem_of_byHash? found'
    simp only [presented, reference, StoreKind.present, found, found']
    cases verdict : row.judge now policy with
    | refuse reason =>
      rcases Row.judge_eq_refuse_iff.mp verdict with ⟨revoked, rfl⟩ | ⟨live, late, rfl⟩
      · rw [if_pos revoked]
        rfl
      · simp only [live, late, Option.isSome_none, Bool.false_eq_true, if_false, if_true]
        rfl
    | firstUse c g =>
      obtain ⟨live, intime, unused, rfl, closes⟩ := Row.judge_eq_firstUse_iff.mp verdict
      obtain ⟨rfl, held⟩ := Instant.add?_eq_some_iff.mp closes
      have hstamp := row.evolves_stamp c ⟨c.nanos + policy.grace.nanos⟩
      simp only [live, Instant.not_lt.mpr intime, unused, held, Option.isSome_none,
        Bool.false_eq_true, if_false, Option.isNone_none, if_true, StoreKind.obey,
        StoreKind.change_presented_eq_map ids hashes hrow unused, Outcome.told,
        ConsumeOutcome.told, Outcome.map, hstamp.id, hstamp.subject, hstamp.family]
    | withinGrace =>
      obtain ⟨live, intime, used, g, hgrace, inside⟩ := Row.judge_eq_withinGrace_iff.mp verdict
      have unstamped : row.consumedAt.isNone = false := by simpa using used
      simp [live, Instant.not_lt.mpr intime, unstamped, hgrace, inside, StoreKind.obey,
        Outcome.told, ConsumeOutcome.told, Outcome.map]
    | reuse =>
      obtain ⟨live, intime, used, outside⟩ := Row.judge_eq_reuse_iff.mp verdict
      have unstamped : row.consumedAt.isNone = false := by simpa using used
      have unanswered : (row.graceExpiresAt.any fun g => now ≤ g) = false := by
        cases hgrace : row.graceExpiresAt with
        | none => rfl
        | some g =>
          have passed : ¬ now ≤ g := Int.not_le.mpr (outside g hgrace)
          simpa using passed
      simp only [live, Instant.not_lt.mpr intime, unstamped, unanswered, Option.isSome_none,
        Bool.false_eq_true, if_false, StoreKind.obey, Table.sweep_eq_map]
      rfl
    | overflow =>
      obtain ⟨live, intime, unused, opens⟩ := Row.judge_eq_overflow_iff.mp verdict
      have unheld := Instant.add?_eq_none_iff.mp opens
      simp only [live, Instant.not_lt.mpr intime, unused, unheld, Option.isSome_none,
        Bool.false_eq_true, if_false, Option.isNone_none, if_true]
      rfl

/-- **Consuming a token at an instant follows the reference.** -/
structure FollowsReference (s : Session) (token : String) (now : Instant) : Prop where
  /-- The outcome and the table are those of the reference. -/
  reference : s.consumption token now =
    reference s.store.kind s.settings.policy s.store.rows token now
  /-- Work is broken off only where a first use would be answered until after the end of the
      calendar. -/
  overflow : ∀ cause, (s.consumption token now).1 = .aborted cause →
    cause = .overflow ∧ ∃ row, s.store.rows.byHash? (hashOf token) = some row ∧
      row.revokedAt = none ∧ now ≤ row.expiresAt ∧ row.consumedAt = none ∧
        ¬ Instant.InCalendar ⟨now.nanos + s.settings.policy.grace.nanos⟩
  /-- The row that the store answers is the row that is found afterwards, but for the precision of
      the two stamps of a first use. -/
  answered : ∀ seen kind,
    ((s.store.withFaults []).perform
      (.consume (hashOf token) (.fixed now) s.settings.policy)).outcome =
        .done (.accepted seen kind) →
      (s.consumption token now).2.byHash? (hashOf token) = some (s.store.kind.keepStamps kind seen)

/-- What is accepted in a presentation is found again by its hash. -/
theorem byHash?_of_accepted {k : StoreKind} {rows : Table} {hash : String} {now : Instant}
    {policy : Policy} {seen : Row} {kind : ConsumeKind}
    (accepted : (k.present rows hash now policy).1 = .done (.accepted seen kind)) :
    (k.present rows hash now policy).2.byHash? hash = some (k.keepStamps kind seen) := by
  cases found : rows.byHash? hash with
  | none =>
    simp only [StoreKind.present, found] at accepted
    cases accepted
  | some row =>
    simp only [StoreKind.present, found] at accepted ⊢
    cases verdict : row.judge now policy with
    | refuse | reuse | overflow =>
      rw [verdict] at accepted
      cases accepted
    | firstUse c g =>
      rw [verdict] at accepted
      cases accepted
      obtain ⟨-, -, unused, -⟩ := Row.judge_eq_firstUse_iff.mp verdict
      have again := k.byHash?_change_presented
        (fun r => (r.evolves_stamp (k.keep c) (k.keep g)).hash) found
      refine again.trans (congrArg some ?_)
      simp only [StoreKind.keepStamps, Row.stamp, unused, Option.isNone_none, if_true,
        Option.map_some]
    | withinGrace =>
      rw [verdict] at accepted
      cases accepted
      exact found

/-- **Consuming a token follows the reference**: on a store of either kind that can be reached,
    for every table of distinct identifiers and hashes, every text, instant and policy. -/
theorem follows_reference (s : Session) (reachable : s.store.isReachable)
    (ids : s.store.rows.IdsDistinct) (hashes : s.store.rows.HashesDistinct) (token : String)
    (now : Instant) : s.FollowsReference token now := by
  have hconsumption := consumption_eq_present reachable token now
  obtain ⟨houtcome, -⟩ := responds_consuming reachable token now
  refine ⟨?_, fun cause aborted => ?_, fun seen kind accepted => ?_⟩
  · rw [hconsumption, reference_eq_present ids hashes]
  · rw [hconsumption] at aborted
    cases found : s.store.rows.byHash? (hashOf token) with
    | none =>
      simp only [StoreKind.present, found] at aborted
      cases aborted
    | some row =>
      simp only [StoreKind.present, found] at aborted
      cases verdict : row.judge now s.settings.policy with
      | refuse | firstUse | withinGrace | reuse =>
        rw [verdict] at aborted
        cases aborted
      | overflow =>
        rw [verdict] at aborted
        cases aborted
        obtain ⟨live, intime, unused, opens⟩ := Row.judge_eq_overflow_iff.mp verdict
        exact ⟨rfl, row, rfl, live, intime, unused, Instant.add?_eq_none_iff.mp opens⟩
  · rw [hconsumption]
    exact byHash?_of_accepted (houtcome.symm.trans accepted)

/-- A first use on a database, a nanosecond after the samples: the row is answered with the stamp of
    that nanosecond, and kept without it. -/
theorem follows_reference_of_nanosecond :
    let token := (Secret.ofNat 100).token
    let sample := sampleRow token "alice" (.ofLists [] [])
    let s : Session := { store := .durableOf [sample.1] { reachable := true }, draws := sample.2
                         settings := .trial .default }
    let now : Instant := ⟨sampleInstant.nanos + 1⟩
    let deadline : Instant := ⟨now.nanos + Policy.default.grace.nanos⟩
    let call := StoreCall.consume (hashOf token) (.fixed now) s.settings.policy
    s.FollowsReference token now ∧
      ((s.store.withFaults []).perform call).outcome =
        .done (.accepted (sample.1.stamp now deadline) .first) ∧
          (s.consumption token now).2.map Row.consumedAt = [some sampleInstant] := by
  intro token sample s now deadline call
  have facts : (s.store.isReachable ∧ s.store.rows.IdsDistinct ∧ s.store.rows.HashesDistinct) ∧
      ((s.store.withFaults []).perform call).outcome =
        .done (.accepted (sample.1.stamp now deadline) .first) ∧
          (s.consumption token now).2.map Row.consumedAt = [some sampleInstant] := by
    decide +kernel
  obtain ⟨⟨reachable, ids, hashes⟩, ends⟩ := facts
  exact ⟨follows_reference s reachable ids hashes token now, ends⟩

end Session

end TokenRotation

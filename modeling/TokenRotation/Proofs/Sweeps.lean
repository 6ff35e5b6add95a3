import TokenRotation.Proofs.Calm
import TokenRotation.Proofs.Reference

/-!
# Sweeps

A sweep revokes a family or everything of a subject, because it was asked for or because a token of
the family was taken for stolen. All three do the same thing to the rows that they choose: a row
that is not revoked is revoked at the instant of the sweep, every other cell of the table stays as
it was, and the count that is answered is the number of rows that changed. So a sweep has nothing
left to do when it comes again, and of two sweeps at one instant it does not matter which comes
first.

* `Table.countChanged` -- at how many places of a table a cell is another one later;
* `Table.SweptExactly` -- all that a sweep does, with the count that it answers;
* `Table.sweep_sweep`, `Table.sweep_comm`, `Table.sweepCount_add` -- how sweeps go together;
* `Session.sweepsExactly` -- **sweeps are exact, idempotent and commute**, on a store of either kind
  without faults.
-/

namespace TokenRotation

open Store

/-! ## 1. What a sweep changes -/

namespace Table

/-- At how many places a cell is another one later. No row leaves its place. -/
def countChanged {β : Type} [DecidableEq β] (cell : Row → β) (rows later : Table) : Nat :=
  (rows.zip later).countP fun p => cell p.1 ≠ cell p.2

/-- **A sweep of the chosen rows, to the cell**: it revokes those that are not revoked, changes
    nothing else, and counts the rows that it changes. -/
structure SweptExactly (rows : Table) (chosen : Row → Bool) (t : Instant) (count : Nat)
    (after : Table) : Prop where
  after_eq : after = rows.map fun r =>
    if chosen r ∧ r.revokedAt = none then { r with revokedAt := some t } else r
  count_eq : count = rows.countP fun r => chosen r && r.revokedAt.isNone
  changed : count = rows.countChanged id after

variable {chosen other : Row → Bool} {rows : Table} {t u : Instant}

/-- In a cell that shows whether a row is revoked, a sweep changes as many rows as it counts. -/
theorem countChanged_sweep {β : Type} [DecidableEq β] (cell : Row → β)
    (shows : ∀ r : Row, r.revokedAt = none → cell (r.revoke t) ≠ cell r) (rows : Table) :
    rows.countChanged cell (rows.sweep chosen t) = rows.sweepCount chosen := by
  induction rows with
  | nil => rfl
  | cons r rest ih =>
    have hrest : (rest.zip (Table.sweep chosen t rest)).countP (fun p => cell p.1 ≠ cell p.2) =
      rest.countP fun r => chosen r && r.revokedAt.isNone := ih
    have hsweep : Table.sweep chosen t (r :: rest) =
      (if chosen r then r.revoke t else r) :: Table.sweep chosen t rest := rfl
    rw [countChanged, hsweep, List.zip_cons_cons, List.countP_cons, hrest, sweepCount,
      List.countP_cons]
    by_cases hchosen : chosen r
    · cases live : r.revokedAt with
      | none => simp [hchosen, (shows r live).symm]
      | some v => simp [hchosen, Row.revoke, live]
    · simp [hchosen]

theorem countChanged_revokedAt_sweep (rows : Table) :
    rows.countChanged Row.revokedAt (rows.sweep chosen t) = rows.sweepCount chosen :=
  countChanged_sweep Row.revokedAt (fun r live => by simp [Row.revoke, live]) rows

/-- **Every sweep is exact.** -/
theorem sweptExactly (chosen : Row → Bool) (t : Instant) (rows : Table) :
    rows.SweptExactly chosen t (rows.sweepCount chosen) (rows.sweep chosen t) where
  after_eq := by simpa using sweep_eq_map (fun r => chosen r = true) t rows
  count_eq := rfl
  changed := by
    refine (countChanged_sweep id (fun r live same => ?_) rows).symm
    have hrevoked : (r.revoke t).revokedAt = some t := by simp [Row.revoke, live]
    rw [show r.revoke t = r from same, live] at hrevoked
    cases hrevoked

/-- What a sweep chooses is revoked after it. -/
theorem isSome_revokedAt_of_sweep {r : Row} (hr : r ∈ rows.sweep chosen t) (hchosen : chosen r) :
    r.revokedAt.isSome := by
  obtain ⟨before, -, rfl⟩ := mem_sweep.mp hr
  by_cases h : chosen before
  · rw [if_pos h]
    simpa [Option.isSome_iff_ne_none] using before.isNone_revokedAt_revoke t
  · rw [if_neg h] at hchosen
    exact absurd hchosen h

/-! ## 2. Sweeps after each other -/

/-- Rows are chosen whether or not they are revoked. -/
def Blind (chosen : Row → Bool) : Prop := ∀ (r : Row) (t : Instant), chosen (r.revoke t) = chosen r

theorem blind_family (family : Uuid) : Blind fun r => r.family = family := fun r t => by
  simp only [(r.evolves_revoke t).family]

theorem blind_subject (subject : String) : Blind fun r => r.subject = subject := fun r t => by
  simp only [(r.evolves_revoke t).subject]

/-- A sweep that comes again finds every row that it chooses revoked. -/
theorem sweep_sweep (blind : Blind chosen) (t u : Instant) (rows : Table) :
    (rows.sweep chosen t).sweep chosen u = rows.sweep chosen t := by
  simp only [sweep, changeAll, List.map_map]
  refine List.map_congr_left fun r _ => ?_
  by_cases hchosen : chosen r
  · simp [hchosen, blind r t, Row.revoke_revoke]
  · simp [hchosen]

/-- Of two sweeps at one instant it does not matter which comes first. -/
theorem sweep_comm (blind : Blind chosen) (blind' : Blind other) (t : Instant) (rows : Table) :
    (rows.sweep chosen t).sweep other t = (rows.sweep other t).sweep chosen t := by
  simp only [sweep, changeAll, List.map_map]
  refine List.map_congr_left fun r _ => ?_
  by_cases hchosen : chosen r <;> by_cases hother : other r <;>
    simp [hchosen, hother, blind r t, blind' r t]

/-- Two sweeps together change the rows that either of them chooses. A row that both choose is
    changed by the first and no longer by the second. -/
theorem sweepCount_add (chosen other : Row → Bool) (t : Instant) (rows : Table) :
    rows.sweepCount chosen + (rows.sweep chosen t).sweepCount other =
      rows.sweepCount fun r => chosen r || other r := by
  have hsecond : (rows.sweep chosen t).sweepCount other =
      rows.countP fun r => (other r && r.revokedAt.isNone) && !chosen r := by
    rw [sweepCount, sweep, changeAll, List.countP_map]
    refine congrArg (List.countP · rows) (funext fun r => ?_)
    by_cases hchosen : chosen r
    · simp [hchosen, Row.isNone_revokedAt_revoke]
    · simp [hchosen]
  rw [hsecond]
  clear hsecond
  simp only [sweepCount]
  induction rows with
  | nil => rfl
  | cons r rest ih =>
    simp only [List.countP_cons] at ih ⊢
    cases chosen r <;> cases other r <;> cases r.revokedAt <;> simp <;> omega

end Table

/-! ## 3. Sweeps that are asked for -/

/-- The sweeps that can be asked for. -/
inductive Sweep
  | family (f : Uuid)
  | subject (name : String)
deriving DecidableEq, Repr

namespace Sweep

/-- The rows that the sweep chooses. -/
def covers : Sweep → Row → Bool
  | .family f => fun r => r.family = f
  | .subject name => fun r => r.subject = name

/-- The ways to ask for the sweep at an instant: of the service, or of the store past it. -/
def works (now : Instant) : Sweep → List Session.Work
  | .family f => [.revokeFamily f, .call (.revokeFamily f now)]
  | .subject name => [.revokeSubject name, .call (.revokeSubject name now)]

/-- A store of the kind can be sent the sweep. -/
def Sendable (k : StoreKind) : Sweep → Prop
  | .family _ => True
  | .subject name => k = .durable → Keepable name

theorem blind (sweep : Sweep) : Table.Blind sweep.covers := by
  cases sweep with
  | family f => exact Table.blind_family f
  | subject name => exact Table.blind_subject name

end Sweep

namespace Session

open Program

/-- However a sweep is asked for, it comes to its count and its table. -/
theorem run_sweep {sweep : Sweep} {now : Instant} {work : Work} {w : World CalmStore}
    (settings : Settings) (asks : work ∈ sweep.works now) (sendable : sweep.Sendable w.store.kind) :
    ∃ log, (work.program settings (.fixed now)).run w =
      (.done (.count (w.store.rows.sweepCount sweep.covers)),
        { w with
          store := { w.store with
            rows := w.store.rows.sweep sweep.covers (w.store.kind.keep now) }
          log }) := by
  cases sweep with
  | family f =>
    have reads (new : NewToken) : StoreCall.revokeFamily f now ≠ .insert new := by rintro ⟨⟩
    have swept {β : Type} (g : Nat → Program β) (log : List Event) :=
      run_store_bind_calm (w := { w with log }) (f := g) (.revokeFamily f now) reads
        (fun _ text htext => absurd htext List.not_mem_nil) rfl
    rcases List.mem_pair.mp asks with rfl | rfl
    · refine ⟨w.log ++ [.entered (.revokeFamily f now)] ++
        [.familyRevoked f (w.store.rows.sweepCount fun r => r.family = f)], ?_⟩
      simp only [Work.program, now_bind (Clock.now_fixed now), Service.revokeFamily]
      rw [run_map, run_log_bind, swept]
      rfl
    · refine ⟨w.log, ?_⟩
      simp only [Work.program]
      rw [swept]
      rfl
  | subject name =>
    have reads (new : NewToken) : StoreCall.revokeSubject name now ≠ .insert new := by rintro ⟨⟩
    have swept {β : Type} (g : Nat → Program β) (log : List Event) :=
      run_store_bind_calm (w := { w with log }) (f := g) (.revokeSubject name now) reads
        (by simpa [StoreCall.texts, Sweep.Sendable] using sendable) rfl
    rcases List.mem_pair.mp asks with rfl | rfl
    · refine ⟨w.log ++ [.entered .revokeSubject] ++
        [.subjectRevoked (w.store.rows.sweepCount fun r => r.subject = name)], ?_⟩
      simp only [Work.program, now_bind (Clock.now_fixed now), Service.revokeSubject]
      rw [run_map, run_log_bind, swept]
      rfl
    · refine ⟨w.log, ?_⟩
      simp only [Work.program]
      rw [swept]
      rfl

variable {s : Session} {sweep other : Sweep} {now later : Instant} {work more : Work}

/-- **A step that sweeps**: its count, its table, and a store without faults as before. -/
theorem take_sweep (reachable : s.store.isReachable) (asks : work ∈ sweep.works now)
    (sendable : sweep.Sendable s.store.kind) :
    let swept := s.take (.doing work now)
    swept.1.outcome = .done (.count (s.store.rows.sweepCount sweep.covers)) ∧
      swept.2.store.rows = s.store.rows.sweep sweep.covers (s.store.kind.keep now) ∧
        swept.2.store.isReachable ∧ swept.2.store.kind = s.store.kind := by
  intro swept
  have hcalm := take_calm reachable work (.fixed now)
  obtain ⟨log, hrun⟩ := run_sweep s.settings asks (s.kind_calm.symm ▸ sendable)
  rw [hrun, s.rows_calm, s.kind_calm] at hcalm
  exact ⟨hcalm.outcome, hcalm.rows, hcalm.reachable (.inr rfl), hcalm.kind.trans s.kind_calm⟩

/-- A sweep of rows that were just swept. -/
theorem take_sweep_again {rows : Table} {t : Instant} (reachable : s.store.isReachable)
    (hrows : s.store.rows = rows.sweep sweep.covers t) (asks : work ∈ sweep.works now)
    (sendable : sweep.Sendable s.store.kind) :
    (s.take (.doing work now)).1.outcome = .done (.count 0) ∧
      (s.take (.doing work now)).2.store.rows = s.store.rows := by
  obtain ⟨houtcome, hafter, -⟩ := take_sweep reachable asks sendable
  rw [hrows, Table.sweepCount_sweep _ _ _ fun r => sweep.blind r t] at houtcome
  rw [hrows, Table.sweep_sweep sweep.blind] at hafter
  exact ⟨houtcome, hafter.trans hrows.symm⟩

/-- **What the sweeps of a session do.** -/
structure SweepsExactly (s : Session) : Prop where
  /-- A sweep that is asked for revokes exactly the rows of its family or subject that are not
      revoked, and answers how many rows it changed. -/
  asked : ∀ {sweep : Sweep} {now : Instant} {work : Work}, work ∈ sweep.works now →
    sweep.Sendable s.store.kind →
      ∃ count, (s.take (.doing work now)).1.outcome = .done (.count count) ∧
        s.store.rows.SweptExactly sweep.covers (s.store.kind.keep now) count
          (s.take (.doing work now)).2.store.rows
  /-- The sweep of a token that is taken for stolen does the same to the family of its row, and
      tells a count that is at least 1; a sweep of the family after it has nothing left to do. -/
  reuse : ∀ {hash : String} {row : Row} {now : Instant} {policy : Policy},
    s.store.rows.byHash? hash = some row → row.judge now policy = .reuse →
    (s.store.kind = .durable → Keepable hash) →
      let presented := s.take (.doing (.call (.consume hash (.fixed now) policy)) now)
      ∃ count, presented.1.outcome = .done (.outcome (.reused row count)) ∧ 1 ≤ count ∧
        s.store.rows.SweptExactly (fun r => r.family = row.family) (s.store.kind.keep now) count
          presented.2.store.rows ∧
        ∀ {later : Instant} {work : Work}, work ∈ (Sweep.family row.family).works later →
          (presented.2.take (.doing work later)).1.outcome = .done (.count 0) ∧
            (presented.2.take (.doing work later)).2.store.rows = presented.2.store.rows
  /-- A sweep that comes again, at any instant, answers 0 and changes nothing. -/
  again : ∀ {sweep : Sweep} {now later : Instant} {work more : Work}, work ∈ sweep.works now →
    more ∈ sweep.works later → sweep.Sendable s.store.kind →
      let once := (s.take (.doing work now)).2
      (once.take (.doing more later)).1.outcome = .done (.count 0) ∧
        (once.take (.doing more later)).2.store.rows = once.store.rows
  /-- Two sweeps at one instant, in either order, lead to one table and to one sum of counts. -/
  commute : ∀ {sweep other : Sweep} {now : Instant} {work more : Work}, work ∈ sweep.works now →
    more ∈ other.works now → sweep.Sendable s.store.kind → other.Sendable s.store.kind →
      let first := s.take (.doing work now)
      let second := first.2.take (.doing more now)
      let first' := s.take (.doing more now)
      let second' := first'.2.take (.doing work now)
      second.2.store.rows = second'.2.store.rows ∧
        ∃ a b a' b', first.1.outcome = .done (.count a) ∧ second.1.outcome = .done (.count b) ∧
          first'.1.outcome = .done (.count a') ∧ second'.1.outcome = .done (.count b') ∧
            a + b = a' + b'

/-- A presentation that is taken for a theft, past the services. -/
theorem take_reuse {hash : String} {row : Row} {policy : Policy} (reachable : s.store.isReachable)
    (found : s.store.rows.byHash? hash = some row) (verdict : row.judge now policy = .reuse)
    (kept : s.store.kind = .durable → Keepable hash) :
    let presented := s.take (.doing (.call (.consume hash (.fixed now) policy)) now)
    presented.1.outcome = .done (.outcome
        (.reused row (s.store.rows.sweepCount fun r => r.family = row.family))) ∧
      presented.2.store.rows =
        s.store.rows.sweep (fun r => r.family = row.family) (s.store.kind.keep now) ∧
      presented.2.store.isReachable := by
  intro presented
  have hcalm := take_calm reachable (.call (.consume hash (.fixed now) policy)) (.fixed now)
  have undertaken : s.calm.store.kind.undertake s.calm.store.rows
      (.consume hash (.fixed now) policy) =
      (.done (.reused row (s.store.rows.sweepCount fun r => r.family = row.family)),
        s.store.rows.sweep (fun r => r.family = row.family) (s.store.kind.keep now)) := by
    simp only [StoreKind.undertake, Clock.now_fixed, StoreKind.present, s.kind_calm, s.rows_calm,
      found, verdict, StoreKind.obey]
  have texts : s.calm.store.kind = .durable →
      ∀ text ∈ (StoreCall.consume hash (.fixed now) policy).texts, Keepable text := by
    simpa [StoreCall.texts] using kept
  have reads (new : NewToken) : StoreCall.consume hash (.fixed now) policy ≠ .insert new := by
    rintro ⟨⟩
  simp only [Work.program] at hcalm
  rw [run_store_bind_calm (.consume hash (.fixed now) policy) reads texts undertaken] at hcalm
  exact ⟨hcalm.outcome, hcalm.rows, hcalm.reachable (.inr rfl)⟩

/-- **Sweeps are exact, idempotent and commute**, on a store of either kind that can be reached and
    for every table. -/
theorem sweepsExactly (s : Session) (reachable : s.store.isReachable) : s.SweepsExactly where
  asked asks sendable := by
    obtain ⟨houtcome, hafter, -⟩ := take_sweep reachable asks sendable
    exact ⟨_, houtcome, hafter ▸ Table.sweptExactly _ _ _⟩
  reuse {hash row now _} found verdict kept := by
    intro presented
    obtain ⟨houtcome, hafter, hreach⟩ := take_reuse reachable found verdict kept
    have hswept : presented.2.store.rows =
      s.store.rows.sweep (Sweep.family row.family).covers (s.store.kind.keep now) := hafter
    refine ⟨_, houtcome, ?_, hafter ▸ Table.sweptExactly _ _ _, fun asks => ?_⟩
    · -- the presented row itself is one of the rows that are revoked
      obtain ⟨live, -⟩ := Row.judge_eq_reuse_iff.mp verdict
      exact List.countP_pos_iff.mpr ⟨row, Table.mem_of_byHash? found, by simp [live]⟩
    · exact take_sweep_again hreach hswept asks trivial
  again asks asks' sendable := by
    intro once
    obtain ⟨-, hafter, hreach, hkind⟩ := take_sweep reachable asks sendable
    exact take_sweep_again hreach hafter asks' (hkind ▸ sendable)
  commute {sweep other now _ _} asks asks' sendable sendable' := by
    intro first second first' second'
    obtain ⟨hfirst, hrows, hreach, hkind⟩ := take_sweep reachable asks sendable
    obtain ⟨hfirst', hrows', hreach', hkind'⟩ := take_sweep reachable asks' sendable'
    obtain ⟨hsecond, hend, -⟩ := take_sweep hreach asks' (hkind ▸ sendable')
    obtain ⟨hsecond', hend', -⟩ := take_sweep hreach' asks (hkind' ▸ sendable)
    rw [hrows, hkind] at hend
    rw [hrows', hkind'] at hend'
    refine ⟨?_, _, _, _, _, hfirst, hsecond, hfirst', hsecond', ?_⟩
    · exact hend.trans ((Table.sweep_comm sweep.blind other.blind _ _).trans hend'.symm)
    · rw [hrows, hrows', Table.sweepCount_add, Table.sweepCount_add]
      simp only [Bool.or_comm]

/-- Two tokens of one subject on a database, the first of them consumed, and beside it a row of its
    family that was revoked before. A minute later the family and the subject are swept in either
    order; in their place the first token is presented again, which revokes its own row and no
    other. -/
theorem sweepsExactly_of_overlap :
    let first := sampleRow "first" "alice" (.ofLists [] [])
    let second := sampleRow "second" "alice" first.2
    let deadline : Instant := ⟨sampleInstant.nanos + Policy.default.grace.nanos⟩
    let replayed := first.1.stamp sampleInstant deadline
    let revoked : Row := { first.1 with
      id := .ofNat 7, hash := hashOf "third", revokedAt := some sampleInstant }
    let s : Session := { store := .durableOf [replayed, second.1, revoked] { reachable := true }
                         draws := second.2, settings := .trial .default }
    let now : Instant := ⟨sampleInstant.nanos + (Duration.ofSeconds 60).nanos⟩
    let family := s.take (.doing (.revokeFamily first.1.family) now)
    let subject := s.take (.doing (.revokeSubject "alice") now)
    let call := StoreCall.consume (hashOf "first") (.fixed now) .default
    s.SweepsExactly ∧
      (family.1.outcome = .done (.count 1) ∧
        (family.2.take (.doing (.revokeSubject "alice") now)).1.outcome = .done (.count 1)) ∧
      (subject.1.outcome = .done (.count 2) ∧
        (subject.2.take (.doing (.revokeFamily first.1.family) now)).1.outcome =
          .done (.count 0)) ∧
      (s.take (.doing (.call call) now)).1.outcome = .done (.outcome (.reused replayed 1)) := by
  intro first second deadline replayed revoked s now family subject call
  exact ⟨sweepsExactly s rfl, by decide +kernel, by decide +kernel, by decide +kernel⟩

end Session

end TokenRotation

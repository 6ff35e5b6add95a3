import TokenRotation.Proofs.Conduct
import TokenRotation.Proofs.Genealogy
import TokenRotation.Proofs.Revocation

/-!
# Families are revoked as a whole

Where operations run one at a time, a family has all its rows revoked or none, after every step and
whatever failed in it, and a family that is revoked gets no more rows. Three kinds of sweep have to
see to that. The sweep of a subject takes whole families with it because a family has one subject.
And a row is added to the family of a row that was accepted a moment before, when no row of the
family was revoked; nothing sweeps in between.

* `Table.Uniform` -- all rows of a family are revoked, or none;
* `Deed.AddsAlive` -- what a deed adds, it adds to a family without revoked rows;
* `Held.deed` -- along the stages of one operation both are kept;
* `Session.wholeFamilies` -- both in every session that begins with an empty table.
-/

namespace TokenRotation

/-! ## 1. Tables -/

namespace Table

/-- **Every family has all its rows revoked, or none.** -/
def Uniform (rows : Table) : Prop :=
  ∀ r ∈ rows, ∀ s ∈ rows, r.family = s.family → r.revokedAt.isSome = s.revokedAt.isSome

/-- No row of the family is revoked. -/
def Alive (rows : Table) (family : Uuid) : Prop :=
  ∀ r ∈ rows, r.family = family → r.revokedAt = none

namespace Uniform

variable {rows later : Table}

/-- A sweep keeps families whole that takes the rows of a family together. -/
theorem sweep {chosen : Row → Bool} (h : rows.Uniform)
    (whole : ∀ r ∈ rows, ∀ s ∈ rows, r.family = s.family → chosen r = chosen s) (now : Instant) :
    (rows.sweep chosen now).Uniform := by
  intro r' hr' s' hs' heq
  obtain ⟨r, hr, rfl⟩ := mem_sweep.mp hr'
  obtain ⟨s, hs, rfl⟩ := mem_sweep.mp hs'
  have hfamily : r.family = s.family := by
    have kept (x : Row) : (if chosen x then x.revoke now else x).family = x.family := by
      split
      · exact (x.evolves_revoke now).family
      · rfl
    rwa [kept, kept] at heq
  rw [whole r hr s hs hfamily]
  split
  · rw [← Option.not_isNone, ← Option.not_isNone, Row.isNone_revokedAt_revoke,
      Row.isNone_revokedAt_revoke]
  · exact h r hr s hs hfamily

/-- What revokes nothing changes nothing about it. -/
theorem forall₂ (h : rows.Uniform)
    (hrows : List.Forall₂ (fun r s : Row => r.Evolves s ∧ s.revokedAt = r.revokedAt) rows later) :
    later.Uniform := by
  intro r' hr' s' hs' heq
  obtain ⟨r, hr, hrr, hrevoked⟩ := exists_mem_of_forall₂ hrows hr'
  obtain ⟨s, hs, hss, hsrevoked⟩ := exists_mem_of_forall₂ hrows hs'
  rw [hrr.family, hss.family] at heq
  rw [hrevoked, hsrevoked]
  exact h r hr s hs heq

/-- A row that nobody revoked can be added to a family that is alive. -/
theorem append_new {new : Row} (h : rows.Uniform) (live : new.revokedAt = none)
    (alive : rows.Alive new.family) : Uniform (rows ++ [new]) := by
  have same (r : Row) (hr : r ∈ rows) (heq : r.family = new.family) :
      r.revokedAt.isSome = new.revokedAt.isSome := by rw [alive r hr heq, live]
  intro r hr s hs heq
  rcases List.mem_append.mp hr with hr | hr <;> rcases List.mem_append.mp hs with hs | hs
  · exact h r hr s hs heq
  · rw [List.mem_singleton.mp hs] at heq ⊢
    exact same r hr heq
  · rw [List.mem_singleton.mp hr] at heq ⊢
    exact (same s hs heq.symm).symm
  · rw [List.mem_singleton.mp hr, List.mem_singleton.mp hs]

/-- The family of a row that is not revoked is alive. -/
theorem alive (h : rows.Uniform) {r : Row} (hr : r ∈ rows) (live : r.revokedAt = none) :
    rows.Alive r.family := by
  intro s hs heq
  have hsame := h s hs r hr heq
  rwa [live, Option.isSome_none, Option.isSome_eq_false_iff, Option.isNone_iff_eq_none] at hsame

end Uniform

end Table

/-! ## 2. Deeds -/

/-- **What the deed adds, it adds to a family without revoked rows.** -/
def Deed.AddsAlive (d : Deed) : Prop := ∀ new, d.inserted? = some new → d.before.Alive new.family

theorem Table.map_id_familyRows {rows later : Table} (h : List.Forall₂ Row.Evolves rows later)
    (family : Uuid) :
    (later.familyRows family).map Row.id = (rows.familyRows family).map Row.id := by
  unfold familyRows
  induction h with
  | nil => rfl
  | @cons r s _ _ hrs _ ih =>
    simp only [List.filter_cons, hrs.family]
    split
    · simp only [List.map_cons, hrs.id, ih]
    · exact ih

/-- **A family with a revoked row gets no more rows.** -/
theorem History.closed {k : StoreKind} {rows after : Table} {deeds : List Deed} {family : Uuid}
    (h : History k rows deeds after) (adds : ∀ d ∈ deeds, d.AddsAlive)
    (dead : ∃ r ∈ rows, r.family = family ∧ r.revokedAt.isSome) :
    (after.familyRows family).map Row.id = (rows.familyRows family).map Row.id := by
  induction h with
  | nil => rfl
  | @cons d rest after lawful _ ih =>
    obtain ⟨r, hr, hrf, hrevoked⟩ := dead
    obtain ⟨s, hs, hrs⟩ := lawful.evolves.exists_mem hr
    rw [ih (fun e he => adds e (List.mem_cons_of_mem d he))
      ⟨s, hs, hrs.family.trans hrf, hrs.isSome_revokedAt hrevoked⟩]
    rcases lawful.adds_or_evolves with ⟨token, -, hadded, -, hafter⟩ | ⟨-, hrows⟩
    · have other : (k.keepRow token.row).family ≠ family := by
        intro heq
        rw [adds d List.mem_cons_self _ hadded r hr (hrf.trans heq.symm)] at hrevoked
        cases hrevoked
      have hnone : List.filter (fun r : Row => r.family = family) [k.keepRow token.row] = [] :=
        List.filter_cons_of_neg (by simpa using other)
      rw [hafter, Table.familyRows, List.filter_append, hnone, List.append_nil]
      rfl
    · exact Table.map_id_familyRows hrows family

/-! ## 3. Stages and the table -/

/-- The call may revoke rows. -/
def StoreCall.maySweep : StoreCall → Bool
  | .consume .. | .revokeFamily .. | .revokeSubject .. => true
  | _ => false

/-- Only who has accepted nothing and adds nothing may sweep. -/
theorem Stage.eq_idle_of_allows {st : Stage} {call : StoreCall} (h : st.Allows call)
    (sweeps : call.maySweep = true) : st = .idle := by
  cases call with
  | insert | link | getByHash | listFamily => cases sweeps
  | consume | revokeFamily | revokeSubject =>
    cases st with
    | idle => rfl
    | founding | holding | pending | settled => exact h.elim

/-- **What has to be true of the table while an operation is at a stage**: the family of the row
    that it holds is alive, and has the subject of that row. -/
structure Held (st : Stage) (rows : Table) : Prop where
  uniform : rows.Uniform
  one : rows.OneSubject
  held : ∀ row, st = .holding row → rows.Alive row.family ∧
    ∃ x ∈ rows, x.family = row.family ∧ x.subject = row.subject

namespace Held

variable {k : StoreKind} {st : Stage} {d : Deed}

/-- Who may add a row adds it to a family that is alive and of its subject. -/
theorem family_of_insert {rows : Table} {token : NewToken} (h : Held st rows)
    (allowed : st.Allows (.insert token))
    (fresh : st = .founding → ∀ r ∈ rows, r.family ≠ token.family) :
    rows.Alive token.family ∧ ∀ r ∈ rows, r.family = token.family → r.subject = token.subject := by
  cases hstage : st with
  | idle | pending | settled =>
    rw [hstage] at allowed
    exact allowed.elim
  | founding =>
    have absent := fresh hstage
    exact ⟨fun r hr heq => absurd heq (absent r hr), fun r hr heq => absurd heq (absent r hr)⟩
  | holding row =>
    rw [hstage] at allowed
    obtain ⟨hsubject, hfamily⟩ := allowed
    obtain ⟨alive, x, hx, hxf, hxs⟩ := h.held row hstage
    rw [hfamily, hsubject, ← hxs]
    exact ⟨alive, fun r hr heq => h.one r hr x hx (heq.trans hxf.symm)⟩

/-- A row that is not revoked can be held. -/
theorem hold {rows : Table} {row x : Row} (uniform : rows.Uniform) (one : rows.OneSubject)
    (hx : x ∈ rows) (live : x.revokedAt = none) (family : x.family = row.family)
    (subject : x.subject = row.subject) : Held (.holding row) rows := by
  refine ⟨uniform, one, fun row' heq => ?_⟩
  cases heq
  exact ⟨family ▸ uniform.alive hx live, x, hx, family, subject⟩

theorem of_settled {rows : Table} (uniform : rows.Uniform) (one : rows.OneSubject) :
    Held .settled rows :=
  ⟨uniform, one, fun _ heq => by cases heq⟩

/-- Who holds nothing may sweep, if families are swept as a whole. -/
theorem sweep {rows : Table} {chosen : Row → Bool} (h : Held st rows) (idle : st = .idle)
    (whole : ∀ r ∈ rows, ∀ s ∈ rows, r.family = s.family → chosen r = chosen s) (now : Instant) :
    Held st (rows.sweep chosen now) := by
  refine ⟨h.uniform.sweep whole now, h.one.forall₂ (Table.forall₂_sweep chosen now rows),
    fun row heq => ?_⟩
  rw [idle] at heq
  cases heq

/-- **Every deed that is allowed** keeps families whole. -/
theorem deed (h : Held st d.before) (lawful : d.Lawful k) (allowed : st.Allows d.call)
    (fresh : st = .founding → ∀ token, d.call = .insert token →
      ∀ r ∈ d.before, r.family ≠ token.family) :
    Held (st.told d) d.after ∧ d.AddsAlive := by
  constructor
  · obtain ⟨actor, before, call, outcome, after⟩ := d
    change Settled k before call outcome after at lawful
    cases lawful with
    | kept hnot =>
      rw [Stage.told_of_not_done hnot]
      exact h
    | @carried answer _ hc =>
      change Held (st.hear call answer) after
      cases hc with
      | unknown | refused => exact h
      | getByHash | listFamily => exact h
      | @grace hash clock policy row now found shown verdict =>
        obtain ⟨live, -⟩ := Row.judge_eq_withinGrace_iff.mp verdict
        have hrow := Table.mem_of_byHash? found
        exact .hold h.uniform h.one hrow live rfl rfl
      | @first hash clock policy row now c g found shown verdict =>
        obtain ⟨live, -⟩ := Row.judge_eq_firstUse_iff.mp verdict
        have hrows : List.Forall₂ (fun r s : Row => r.Evolves s ∧ s.revokedAt = r.revokedAt) before
            (k.change (k.presented row) (fun r => r.stamp (k.keep c) (k.keep g)) before) :=
          k.forall₂_change (fun r => ⟨Row.Evolves.refl r, rfl⟩)
            (fun r _ => ⟨r.evolves_stamp _ _, r.revokedAt_stamp _ _⟩) before
        have hrow := Table.mem_of_byHash? (k.byHash?_change_presented
          (fun r => (r.evolves_stamp (k.keep c) (k.keep g)).hash) found)
        have hkept := row.evolves_stamp (k.keep c) (k.keep g)
        have hanswer := row.evolves_stamp c g
        exact .hold (h.uniform.forall₂ hrows) (h.one.forall₂ (hrows.imp fun _ _ h => h.1)) hrow
          ((row.revokedAt_stamp _ _).trans live) (hkept.family.trans hanswer.family.symm)
          (hkept.subject.trans hanswer.subject.symm)
      | reuse =>
        exact h.sweep (Stage.eq_idle_of_allows allowed rfl) (fun r _ s _ heq => by rw [heq]) _
      | revokeFamily =>
        exact h.sweep (Stage.eq_idle_of_allows allowed rfl) (fun r _ s _ heq => by rw [heq]) _
      | revokeSubject =>
        exact h.sweep (Stage.eq_idle_of_allows allowed rfl)
          (fun r hr s hs heq => by rw [h.one r hr s hs heq]) _
      | @link id successor _ =>
        have hrows : List.Forall₂ (fun r s : Row => r.Evolves s ∧ s.revokedAt = r.revokedAt) before
            (k.change (Row.unlinked id) (fun r => { r with replacedBy := some successor })
              before) := by
          refine k.forall₂_change (fun r => ⟨Row.Evolves.refl r, rfl⟩) (fun r hr => ?_) before
          simp only [Row.unlinked, Bool.and_eq_true, Option.isNone_iff_eq_none] at hr
          exact ⟨Row.evolves_link hr.2 _, rfl⟩
        exact .of_settled (h.uniform.forall₂ hrows) (h.one.forall₂ (hrows.imp fun _ _ h => h.1))
      | @insert token _ =>
        obtain ⟨alive, same⟩ := h.family_of_insert allowed fun hst => fresh hst token rfl
        refine ⟨h.uniform.append_new (k.keepRow_revokedAt token) ?_, h.one.append_new ?_, ?_⟩
        · rwa [k.keepRow_family]
        · rw [k.keepRow_family, k.keepRow_subject]
          exact same
        · exact fun row heq => absurd heq (Stage.added_ne_holding st _ row)
  · intro new hnew
    rcases lawful.adds_or_evolves with ⟨token, hcall, hadded, -, -⟩ | ⟨hnone, -⟩
    · rw [hadded] at hnew
      cases hnew
      rw [hcall] at allowed
      rw [k.keepRow_family]
      exact (h.family_of_insert allowed fun hst => fresh hst token hcall).1
    · rw [hnone] at hnew
      cases hnew

/-- **All the deeds of an operation** keep families whole. -/
theorem deeds {rows after : Table} {deeds : List Deed} (h : Held st rows)
    (history : History k rows deeds after) (follows : st.Follows deeds)
    (fresh : st = .founding → ∀ d ∈ deeds, ∀ token, d.call = .insert token →
      ∀ r ∈ d.before, r.family ≠ token.family) :
    (after.Uniform ∧ after.OneSubject) ∧ ∀ d ∈ deeds, d.AddsAlive := by
  induction history generalizing st with
  | nil => exact ⟨⟨h.uniform, h.one⟩, fun d hd => absurd hd List.not_mem_nil⟩
  | @cons d rest after lawful _ ih =>
    obtain ⟨hafter, adds⟩ := h.deed lawful follows.1 fun hst => fresh hst d List.mem_cons_self
    obtain ⟨hend, hrest⟩ := ih hafter follows.2 fun htold e he =>
      fresh (Stage.founding_of_told htold) e (List.mem_cons_of_mem d he)
    refine ⟨hend, fun e he => ?_⟩
    rcases List.mem_cons.mp he with rfl | he
    · exact adds
    · exact hrest e he

end Held

/-! ## 4. Sessions -/

namespace Session

open Program

/-- The step starts families only by a login, lets them grow only by a rotation, and links only what
    it rotated. -/
def Step.isOrderly (step : Step) : Bool :=
  match step.command with
  | .work work => work.isOrderly
  | .isEmpty | .failInserts _ => true

/-- The deeds of an orderly step follow the stages of a login or of another operation. -/
theorem follows_stepDeeds (s : Session) (actor : Nat) {step : Step} (orderly : step.isOrderly) :
    ∃ st : Stage, (∀ row, st ≠ .holding row) ∧ st.Follows (s.stepDeeds actor step) ∧
      (st = .founding → ∃ subject, step.command = .work (.issue subject none)) := by
  unfold Step.isOrderly at orderly
  unfold stepDeeds
  cases hcommand : step.command with
  | isEmpty | failInserts => exact ⟨.idle, nofun, trivial, nofun⟩
  | work work =>
    rw [hcommand] at orderly
    refine ⟨work.stage, fun row heq => ?_, Program.follows (Work.abides orderly _ _) _ _,
      fun hst => ?_⟩
    · rcases work.stage_cases with ⟨hst, -⟩ | ⟨hst, -⟩
      · rw [hst] at heq
        cases heq
      · rw [hst] at heq
        cases heq
    · rcases work.stage_cases with ⟨-, hlogin⟩ | ⟨hidle, -⟩
      · obtain ⟨subject, rfl⟩ := Work.exists_of_isLogin hlogin
        exact ⟨subject, rfl⟩
      · rw [hidle] at hst
        cases hst

/-- One step keeps families whole. -/
theorem whole_take {s : Session} {step : Step} (actor : Nat) (orderly : step.isOrderly)
    (fresh : ∀ subject, step.command = .work (.issue subject none) →
      ∀ r ∈ s.store.rows, r.family ≠ s.draws.uuid.1)
    (uniform : s.store.rows.Uniform) (one : s.store.rows.OneSubject) :
    ((s.take step).2.store.rows.Uniform ∧ (s.take step).2.store.rows.OneSubject) ∧
      ∀ d ∈ s.stepDeeds actor step, d.AddsAlive := by
  obtain ⟨st, hst, follows, login⟩ := s.follows_stepDeeds actor orderly
  have start : Held st s.store.rows := ⟨uniform, one, fun row heq => absurd heq (hst row)⟩
  refine start.deeds (s.history_take actor step).1 follows fun hfounding d hd token hcall r hr => ?_
  obtain ⟨subject, asked⟩ := login hfounding
  obtain ⟨hbefore, token', hcall', hfamily⟩ := s.inserts_of_login actor step asked d hd
  rw [hcall] at hcall'
  cases hcall'
  rw [hfamily]
  exact fresh subject asked r (hbefore ▸ hr)

theorem whole_after {s : Session} {steps : List Step} (number : Nat)
    (orderly : ∀ step ∈ steps, step.isOrderly) (fresh : s.FreshLogins steps)
    (uniform : s.store.rows.Uniform) (one : s.store.rows.OneSubject) :
    ((s.after steps).store.rows.Uniform ∧ (s.after steps).store.rows.OneSubject) ∧
      ∀ d ∈ s.deeds number steps, d.AddsAlive := by
  induction steps generalizing s number with
  | nil => exact ⟨⟨uniform, one⟩, fun d hd => absurd hd List.not_mem_nil⟩
  | cons step rest ih =>
    obtain ⟨⟨huniform, hone⟩, hstep⟩ :=
      whole_take number (orderly step List.mem_cons_self) fresh.1 uniform one
    obtain ⟨hend, hrest⟩ := ih (number + 1)
      (fun e he => orderly e (List.mem_cons_of_mem step he)) fresh.2 huniform hone
    refine ⟨hend, fun d hd => ?_⟩
    rcases List.mem_append.mp hd with hd | hd
    · exact hstep d hd
    · exact hrest d hd

theorem FreshLogins.split {s : Session} {steps more : List Step}
    (h : s.FreshLogins (steps ++ more)) :
    s.FreshLogins steps ∧ (s.after steps).FreshLogins more := by
  induction steps generalizing s with
  | nil => exact ⟨trivial, h⟩
  | cons step rest ih => exact ⟨⟨h.1, (ih h.2).1⟩, (ih h.2).2⟩

/-- **Families are revoked as a whole**, however far the steps have come. -/
structure WholeFamilies (s : Session) (steps : List Step) : Prop where
  /-- All rows of a family are revoked, or none. -/
  uniform : ∀ front back, steps = front ++ back → (s.after front).store.rows.Uniform
  /-- The family of a revoked row gets no more rows. -/
  closed : ∀ front back, steps = front ++ back → ∀ r ∈ (s.after front).store.rows,
    r.revokedAt.isSome → ((s.after steps).store.rows.familyRows r.family).map Row.id =
      ((s.after front).store.rows.familyRows r.family).map Row.id

/-- **Families are revoked as a whole** in every session that begins with an empty table: on a store
    of either kind, under any faults and clocks and with any collisions that were asked for, where
    every login draws a fresh family. -/
theorem wholeFamilies (s : Session) (empty : s.store.rows = []) {steps : List Step}
    (orderly : ∀ step ∈ steps, step.isOrderly) (fresh : s.FreshLogins steps) :
    s.WholeFamilies steps := by
  have uniform : s.store.rows.Uniform := by
    rw [empty]
    exact fun r hr => absurd hr List.not_mem_nil
  have one : s.store.rows.OneSubject := by
    rw [empty]
    exact fun r hr => absurd hr List.not_mem_nil
  have whole_front (front back : List Step) (heq : steps = front ++ back) :
      (s.after front).store.rows.Uniform ∧ (s.after front).store.rows.OneSubject := by
    subst heq
    exact (whole_after 0 (fun e he => orderly e (List.mem_append_left back he)) fresh.split.1
      uniform one).1
  refine ⟨fun front back heq => (whole_front front back heq).1,
    fun front back heq r hr hrevoked => ?_⟩
  obtain ⟨huniform, hone⟩ := whole_front front back heq
  subst heq
  rw [after_append]
  refine ((s.after front).history 0 back).closed ?_ ⟨r, hr, rfl, hrevoked⟩
  exact (whole_after 0 (fun e he => orderly e (List.mem_append_right front he)) fresh.split.2
    huniform hone).2

/-- A subject logs in twice, on a database that loses a statement: the first sweep of the subject
    fails and revokes nothing, and the second takes both families with it. -/
theorem wholeFamilies_of_lost_sweep :
    let s : Session := { store := .durableOf [] { reachable := true }, draws := .ofLists [] []
                         settings := .trial .default }
    let steps := [Step.at 0 (.issue "alice" none), Step.at 10 (.issue "alice" none),
      { Step.at 20 (.revokeSubject "alice") with
        faults := [{ target := .statement .update, state := "57014" }] },
      Step.at 21 (.revokeSubject "alice")]
    s.WholeFamilies steps ∧
      (s.after (steps.take 3)).store.rows.map (fun r => r.revokedAt.isSome) = [false, false] ∧
        (s.after steps).store.rows.map (fun r => r.revokedAt.isSome) = [true, true] :=
  ⟨wholeFamilies _ rfl (by decide)
      ⟨fun _ _ r hr => absurd hr List.not_mem_nil, fun _ _ => by decide +kernel, nofun, nofun,
        trivial⟩,
    by decide +kernel, by decide +kernel⟩

end Session

end TokenRotation

import TokenRotation.Proofs.Lifecycle
import TokenRotation.Proofs.Readiness

/-!
# Rotations that fail midway

A rotation consumes its token before there is a successor. When it fails after that, whoever holds
the token has nothing else, and presents it again inside the grace window. However often that fails
in turn, and whatever successors it leaves behind that nobody was told of, the next rotation that
meets no fault goes through: its successor can be used at once, and the stamps of the first attempt
stay.

* `Session.CanRetry` -- what is asked of the instant and of the store;
* `Session.Retried` -- what a rotation inside the grace window comes to;
* `Session.recoverable` -- **a rotation that fails midway can be made up for**.
-/

namespace TokenRotation

open Store

/-- A row that rows stand before stays behind what becomes of them. -/
theorem Table.Evolves.append_cons {front back later : Table} {row : Row}
    (h : Table.Evolves (front ++ row :: back) later) :
    ∃ front' row' back', later = front' ++ row' :: back' ∧
      List.Forall₂ Row.Evolves front front' ∧ row.Evolves row' := by
  obtain ⟨kept, added, rfl, hkept⟩ := h
  have hfront := List.forall₂_take front.length hkept
  have hback := List.forall₂_drop front.length hkept
  rw [List.take_left] at hfront
  rw [List.drop_left] at hback
  cases hdrop : kept.drop front.length with
  | nil =>
    rw [hdrop] at hback
    cases hback
  | cons row' back' =>
    rw [hdrop] at hback
    obtain ⟨hrow, -⟩ := List.forall₂_cons.mp hback
    refine ⟨kept.take front.length, row', back' ++ added, ?_, hfront, hrow⟩
    rw [← List.cons_append, ← hdrop, ← List.append_assoc, List.take_append_drop]

/-- A row that has a successor, or another identifier, stays so. -/
theorem Row.Evolves.unlinked_eq_false {r s : Row} {id : Uuid} (h : r.Evolves s)
    (hr : r.unlinked id = false) : s.unlinked id = false := by
  simp only [unlinked, h.id, Bool.and_eq_false_iff] at hr ⊢
  refine hr.imp_right fun hnone => ?_
  rw [Option.isNone_eq_false_iff] at hnone ⊢
  exact h.isSome_replacedBy hnone

namespace Session

open Program Service

/-! ## 1. Inside the grace window -/

/-- The token of a row can be rotated once more at an instant: inside the grace window and the
    lifetime of the row, on a store that no fault waits for, with fresh draws and dates that the
    calendar holds. -/
structure CanRetry (s : Session) (row : Row) (now : Instant) : Prop where
  live : row.revokedAt = none
  unexpired : now ≤ row.expiresAt
  intime : ∃ g, row.graceExpiresAt = some g ∧ now ≤ g
  ready : (s.store.withFaults []).IsReady
  fresh : s.draws.IsFresh s.store.rows
  expires : (s.settings.policy.expiresAt? now).isSome
  closes : (s.settings.policy.graceExpiresAt? now).isSome

/-- **A rotation of a consumed row goes through**: its stamps stay, its successor is set if it has
    none, and the new token is accepted by a consume at the same instant, unless it is expired from
    the beginning. -/
def Retried (s : Session) (row : Row) (token : String) (now : Instant) : Prop :=
  let next := s.take (.rotating token now)
  ∃ rotated new, next.1.outcome = .done (.rotated rotated) ∧ rotated.previousId = row.id ∧
    rotated.subject = row.subject ∧ rotated.issued.family = row.family ∧
      next.2.store.rows.byHash? (hashOf token) = some (row.succeededBy rotated.issued.id) ∧
        next.2.store.rows.byHash? (hashOf rotated.issued.token) = some new ∧
          new.id = rotated.issued.id ∧ new.expiresAt = rotated.issued.expiresAt ∧
            (now ≤ new.expiresAt → (next.2.consumption rotated.issued.token now).1 =
              .done (.consumed { id := new.id, subject := row.subject, family := row.family
                                 kind := .first }))

/-- What a rotation leaves of a row that no unlinked row of its identifier stands before: the row
    with its successor at its place, the others as they evolve, and the new row at the end. -/
theorem exists_rotated (k : StoreKind) {front back : Table} {row new : Row}
    (ahead : ∀ r ∈ front, r.unlinked row.id = false) (apart : new.id ≠ row.id) :
    ∃ back', rotated k row.id new (front ++ row :: back) =
      (front ++ row.succeededBy new.id :: back') ++ [new] ∧
        List.Forall₂ Row.Evolves (front ++ row :: back)
          (front ++ row.succeededBy new.id :: back') := by
  have hnew : new.unlinked row.id = false := by simp [Row.unlinked, apart]
  have hevolves := k.evolves_linked row.id new.id (front ++ row :: back)
  obtain ⟨back', hlinked⟩ : ∃ back', k.change (Row.unlinked row.id)
      (fun r => { r with replacedBy := some new.id }) (front ++ row :: back) =
        front ++ row.succeededBy new.id :: back' := by
    rw [Row.succeededBy_eq]
    exact k.exists_change_append_cons ahead
  rw [hlinked] at hevolves
  exact ⟨back', by rw [rotated, k.change_concat hnew, hlinked], hevolves⟩

theorem retried_of_consumed {s : Session} {front back : Table} {row : Row} {token : String}
    {now : Instant} (rows : s.store.rows = front ++ row :: back) (hash : row.hash = hashOf token)
    (ahead : ∀ r ∈ front, r.hash ≠ row.hash ∧ r.unlinked row.id = false)
    (named : Text.isBlank row.subject = false)
    (kept : s.store.kind = .durable → Keepable row.subject) (consumed : row.consumedAt.isSome)
    (can : s.CanRetry row now) : s.Retried row token now := by
  obtain ⟨expiry, expires⟩ := Option.isSome_iff_exists.mp can.expires
  obtain ⟨deadline, closes⟩ := Option.isSome_iff_exists.mp can.closes
  have absent : ∀ r ∈ front, r.hash ≠ hashOf token := fun r hr => hash ▸ (ahead r hr).1
  have found : s.store.rows.byHash? (hashOf token) = some row := by
    rw [rows]
    exact Table.byHash?_append_cons absent hash
  have verdict : row.judge now s.settings.policy = .withinGrace :=
    Row.judge_eq_withinGrace_iff.mpr ⟨can.live, can.unexpired, consumed, can.intime⟩
  have obeyed : s.store.kind.obey s.store.rows row now (row.judge now s.settings.policy) =
      some (.accepted row .grace, s.store.rows) := by rw [verdict]; rfl
  let new := s.store.kind.keepRow (drawnToken s.draws row.subject row.family now expiry).row
  obtain ⟨houtcome, ready, -, hafter, hsettings⟩ :=
    take_rotating can.ready found obeyed named kept expires can.fresh
  -- the successor stands at the end, and the link passes it by
  have hid : new.id = s.draws.uuid.1 := s.store.kind.keepRow_id _
  have hhash : new.hash = hashOf s.draws.secret.1.token := s.store.kind.keepRow_hash _
  have hfamily : new.family = row.family := s.store.kind.keepRow_family _
  have hsubject : new.subject = row.subject := s.store.kind.keepRow_subject _
  have apart : new.id ≠ row.id := fun heq =>
    Table.hasId_eq_false_iff.mp can.fresh.2 row (Table.mem_of_byHash? found) (heq.symm.trans hid)
  obtain ⟨back', hrotated, hevolves⟩ := exists_rotated s.store.kind (fun r hr => (ahead r hr).2)
    apart
  rw [rows, hrotated] at hafter
  have fresh := can.fresh
  rw [rows] at fresh
  have hnew : (s.take (.rotating token now)).2.store.rows.byHash?
      (hashOf s.draws.secret.1.token) = some new := by
    rw [hafter]
    exact Table.byHash?_append_new (fresh.evolves hevolves).1 hhash
  refine ⟨_, new, houtcome, rfl, rfl, hfamily, ?_, hnew, rfl, rfl, fun intime => ?_⟩
  · rw [hafter, List.append_assoc]
    exact Table.byHash?_append_cons absent hash
  · rw [← hsubject, ← hfamily]
    exact consumption_of_unused ready.withFaults_nil.isReachable hnew
      (s.store.kind.keepRow_revokedAt _) (s.store.kind.keepRow_consumedAt _) intime
      (hsettings ▸ closes)

/-! ## 2. After a first attempt -/

/-- A rotation of the token was its first presentation, and failed. -/
structure FailsFirst (s : Session) (token : String) (attempt : Step) : Prop where
  asked : attempt.command = .work (.rotate token)
  first : (s.stepDeeds 0 attempt).any (Deed.isFirstUseOf (hashOf token))
  failed : ∀ v, (s.take attempt).1.outcome ≠ .done v

/-- **A rotation that fails midway can be made up for**, on a store of either kind: after it, and
    after whatever else was done and failed or not, a rotation of the same token inside its grace
    window goes through, if the row is not revoked by then. The row has to be the first of its hash,
    and no row before it may have its identifier and no successor. -/
theorem recoverable (s : Session) {front back : Table} {row : Row} {token : String}
    (rows : s.store.rows = front ++ row :: back) (hash : row.hash = hashOf token)
    (ahead : ∀ r ∈ front, r.hash ≠ row.hash ∧ r.unlinked row.id = false)
    (named : Text.isBlank row.subject = false)
    (kept : s.store.kind = .durable → Keepable row.subject) {attempt : Step}
    (fails : s.FailsFirst token attempt) (between : List Step) :
    let later := s.after (attempt :: between)
    ∃ stamped row', (s.take attempt).2.store.rows.byHash? (hashOf token) = some stamped ∧
      row.Evolves stamped ∧ stamped.consumedAt.isSome ∧
        later.store.rows.byHash? (hashOf token) = some row' ∧ row.Evolves row' ∧
          row'.consumedAt = stamped.consumedAt ∧ row'.graceExpiresAt = stamped.graceExpiresAt ∧
            ∀ now, later.CanRetry row' now → later.Retried row' token now := by
  intro later
  have absent : ∀ r ∈ front, r.hash ≠ hashOf token := fun r hr => hash ▸ (ahead r hr).1
  have found : s.store.rows.byHash? (hashOf token) = some row := by
    rw [rows]
    exact Table.byHash?_append_cons absent hash
  have hattempt := (s.history_take 0 attempt).1
  obtain ⟨stamped, hstamped, hrow⟩ := hattempt.evolves.byHash? found
  have consumed : stamped.consumedAt.isSome := by
    obtain ⟨d, hd, hfirst⟩ := List.any_eq_true.mp fails.first
    obtain ⟨seen, haccepted, hseen⟩ := Deed.exists_of_isFirstUseOf hfirst
    obtain ⟨deeds, more, hdeeds⟩ := List.append_of_mem hd
    rw [hdeeds] at hattempt
    obtain ⟨-, lawful, hmore⟩ := hattempt.split_cons
    obtain ⟨-, -, kept, -, -, -, -, hkept, hconsumed⟩ := lawful.of_first haccepted
    rw [hseen] at hkept
    obtain ⟨found', hfound', hevolves⟩ := hmore.evolves.byHash? hkept
    rw [hstamped] at hfound'
    cases hfound'
    exact hevolves.isSome_consumedAt hconsumed
  -- whatever is done in between, the row stays where it is and keeps its stamps
  have hbetween := (s.take attempt).2.history 0 between
  have hlater : Table.Evolves (front ++ row :: back) later.store.rows :=
    rows ▸ hattempt.evolves.trans hbetween.evolves
  obtain ⟨front', row', back', hrows, hfront, hevolves⟩ := hlater.append_cons
  have ahead' : ∀ r ∈ front', r.hash ≠ row'.hash ∧ r.unlinked row'.id = false := by
    intro r' hr'
    obtain ⟨r, hr, hrr⟩ := Table.exists_mem_of_forall₂ hfront hr'
    rw [hrr.hash, hevolves.hash, hevolves.id]
    exact ⟨(ahead r hr).1, hrr.unlinked_eq_false (ahead r hr).2⟩
  have hash' : row'.hash = hashOf token := hevolves.hash.trans hash
  have found' : later.store.rows.byHash? (hashOf token) = some row' := by
    rw [hrows]
    exact Table.byHash?_append_cons (fun r hr => hash' ▸ (ahead' r hr).1) hash'
  obtain ⟨_, hsame, hrow'⟩ := hbetween.evolves.byHash? hstamped
  rw [show (s.take attempt).2.after between = later from rfl, found'] at hsame
  cases hsame
  have hstamps := hrow'.consumed consumed
  have hkind : later.store.kind = s.store.kind := s.kind_after (attempt :: between)
  refine ⟨stamped, row', hstamped, hrow, consumed, found', hevolves, hstamps.1, hstamps.2,
    fun now can => ?_⟩
  refine retried_of_consumed hrows hash' ahead' ?_ ?_ (hrow'.isSome_consumedAt consumed) can
  · rw [hevolves.subject]
    exact named
  · rw [hevolves.subject, hkind]
    exact kept

/-- The token is rotated on a database that loses the insertion, then on one that loses the link,
    and a third time without faults: the first two rotations fail, the second leaves a successor
    behind, and the third goes through with the stamps of the first. -/
theorem recoverable_of_two_failures :
    let token := (Secret.ofNat 100).token
    let sample := sampleRow token "alice" (.ofLists [] [])
    let s : Session := { store := .durableOf [sample.1] { reachable := true }, draws := sample.2
                         settings := .trial .default }
    let attempt := { Step.at 5 (.rotate token) with
      faults := [{ target := .statement .insert, state := "57014" }] }
    let second := { Step.at 7 (.rotate token) with
      faults := [{ target := .statement .update, state := "57014" }] }
    let later := s.after [attempt, second]
    let now : Instant := ⟨sampleInstant.nanos + (Duration.ofSeconds 9).nanos⟩
    s.FailsFirst token attempt ∧ later.store.rows.length = 2 ∧
      ∃ row, later.store.rows.byHash? (hashOf token) = some row ∧ row.replacedBy = none ∧
        later.CanRetry row now ∧ later.Retried row token now := by
  intro token sample s attempt second later now
  have facts : (s.stepDeeds 0 attempt).any (Deed.isFirstUseOf (hashOf token)) ∧
      (s.take attempt).1.outcome = .failed (.database "Database operation failed") ∧
        later.store.rows.length = 2 ∧
          (∀ r ∈ later.store.rows.byHash? (hashOf token), r.replacedBy = none ∧
            r.revokedAt = none ∧ now ≤ r.expiresAt ∧ ∃ g ∈ r.graceExpiresAt, now ≤ g) ∧
            (later.store.withFaults []).IsReady ∧ later.draws.IsFresh later.store.rows ∧
              (later.settings.policy.expiresAt? now).isSome ∧
                (later.settings.policy.graceExpiresAt? now).isSome := by
    decide +kernel
  have named : Text.isBlank sample.1.stored.subject = false := by decide +kernel
  have kept : Keepable sample.1.stored.subject := by decide +kernel
  have rows : s.store.rows = [] ++ sample.1.stored :: [] := rfl
  have hash : sample.1.stored.hash = hashOf token := rfl
  have asked : attempt.command = .work (.rotate token) := rfl
  have hlater : s.after [attempt, second] = later := rfl
  -- from here on, what the steps come to is a matter of the facts
  clear_value later s attempt second sample
  obtain ⟨hfirst, hfailed, hlength, hrow, ready, fresh, expires, closes⟩ := facts
  have failed : ∀ v, (s.take attempt).1.outcome ≠ .done v := by
    intro v
    rw [hfailed]
    exact nofun
  have fails : s.FailsFirst token attempt := ⟨asked, hfirst, failed⟩
  obtain ⟨stamped, row, -, -, -, found, -, -, -, retry⟩ := recoverable s rows hash
    (fun r hr => absurd hr List.not_mem_nil) named (fun _ => kept) fails [second]
  rw [hlater] at found retry
  obtain ⟨unlinked, live, unexpired, g, hg, intime⟩ := hrow row found
  have can : later.CanRetry row now :=
    ⟨live, unexpired, ⟨g, hg, intime⟩, ready, fresh, expires, closes⟩
  exact ⟨fails, hlength, row, found, unlinked, can, retry now can⟩

/-- **A row of the same identifier before it can take the link**: a store in memory holds two rows
    of one identifier, and the token of the second is rotated. The first attempt meets three
    collisions and fails, the second goes through inside the grace window; but the row has no
    successor afterwards, and the first row has it. -/
theorem recoverable_limits :
    let token := (Secret.ofNat 100).token
    let sample := sampleRow token "alice" (.ofLists [] [])
    let other := { sample.1 with hash := hashOf (Secret.ofNat 99).token }
    let s : Session :=
      { store := .memory { rows := [other, sample.1], forcedCollisions := 3 }, draws := sample.2
        settings := .trial .default }
    let attempt := Step.at 5 (.rotate token)
    let later := s.after [attempt]
    let now : Instant := ⟨sampleInstant.nanos + (Duration.ofSeconds 7).nanos⟩
    let next := later.take (.rotating token now)
    s.FailsFirst token attempt ∧ (s.take attempt).1.outcome = .failed .hashCollision ∧
      ∃ row, later.store.rows.byHash? (hashOf token) = some row ∧ row.replacedBy = none ∧
        later.CanRetry row now ∧ returned? next.1.outcome = some (Secret.ofNat 4).token ∧
          next.2.store.rows.byHash? (hashOf token) = some row ∧
            next.2.store.rows.map (fun r => r.replacedBy.isSome) = [true, false, false] := by
  intro token sample other s attempt later now next
  have facts : (s.stepDeeds 0 attempt).any (Deed.isFirstUseOf (hashOf token)) ∧
      (s.take attempt).1.outcome = .failed .hashCollision ∧
        (∃ row ∈ later.store.rows.byHash? (hashOf token), (row.replacedBy = none ∧
          row.revokedAt = none ∧ now ≤ row.expiresAt ∧ ∃ g ∈ row.graceExpiresAt, now ≤ g) ∧
            next.2.store.rows.byHash? (hashOf token) = some row) ∧
          (later.store.withFaults []).IsReady ∧ later.draws.IsFresh later.store.rows ∧
            returned? next.1.outcome = some (Secret.ofNat 4).token ∧
              next.2.store.rows.map (fun r => r.replacedBy.isSome) = [true, false, false] := by
    decide +kernel
  obtain ⟨hfirst, hfailed, ⟨row, found, ⟨unlinked, live, unexpired, g, hg, intime⟩, kept⟩, ready,
    fresh, returned, links⟩ := facts
  refine ⟨⟨rfl, hfirst, fun v hv => ?_⟩, hfailed, row, found, unlinked,
    ⟨live, unexpired, ⟨g, hg, intime⟩, ready, fresh, by decide, by decide⟩, returned, kept, links⟩
  rw [hfailed] at hv
  cases hv

end Session

end TokenRotation

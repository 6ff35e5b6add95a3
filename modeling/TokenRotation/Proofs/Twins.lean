import TokenRotation.Proofs.Presentation
import TokenRotation.Proofs.Rounding

/-!
# Twin stores

A store in memory and a durable one that keep the same rows, the durable one rounded, answer every
call alike and stay twins: over a clear wire, for texts that a database can keep, and for a call
that the constraints of a database allow. This is the square of the refinement between the two kinds
of store, one call at a time.

* `StoreCall.Fits`, `StoreCall.IsNew` -- what is asked of a call;
* `Store.Attempt.Yields` -- what an attempt comes to on every clear wire;
* `StoreCall.Agrees` -- two answers that are the same as far as a database can tell;
* `AnyStore.Twins.perform` -- **twins answer a call alike**, and stay twins, as long as the lock of
  the store in memory is not poisoned.
-/

namespace TokenRotation

/-! ## 1. What is asked of a table and of a call -/

/-- A text that a database can keep. -/
def Store.Keepable (text : String) : Prop := '\x00' ∉ text.toList

instance (text : String) : Decidable (Store.Keepable text) := inferInstanceAs (Decidable (¬ _))

open Store

/-- **A table that a database could hold**: no two rows have one identifier or one hash, and every
    subject can be kept. -/
structure Table.Sound (rows : Table) : Prop where
  ids : rows.IdsDistinct
  hashes : rows.HashesDistinct
  subjects : ∀ r ∈ rows, Keepable r.subject

instance (rows : Table) : Decidable rows.Sound :=
  decidable_of_iff (rows.IdsDistinct ∧ rows.HashesDistinct ∧ ∀ r ∈ rows, Keepable r.subject)
    ⟨fun h => ⟨h.1, h.2.1, h.2.2⟩, fun h => ⟨h.ids, h.hashes, h.subjects⟩⟩

/-- The row of a hash, if there is one, may be judged by the clock. -/
def Table.Timely (rows : Table) (hash : String) (clock : Clock) : Prop :=
  ∀ row ∈ rows.byHash? hash, ∀ now ∈ clock.now.toOption, row.Timely now

instance (rows : Table) (hash : String) (clock : Clock) : Decidable (rows.Timely hash clock) :=
  inferInstanceAs
    (Decidable (∀ row ∈ rows.byHash? hash, ∀ now ∈ clock.now.toOption, row.Timely now))

/-- **The call is one that a database has no objection to**, but for the identifier of a new row. -/
def StoreCall.Fits (rows : Table) : StoreCall → Prop
  | .insert token => Keepable token.subject ∧ Keepable token.hash ∧ token.hash.length = 64
  | .consume hash clock _ => Keepable hash ∧ clock.now.isOk ∧ rows.Timely hash clock
  | .revokeSubject subject _ => Keepable subject
  | .link _ successor => rows.hasId successor
  | .getByHash hash => Keepable hash
  | .revokeFamily .. | .listFamily _ => True

instance (rows : Table) (call : StoreCall) : Decidable (call.Fits rows) := by
  cases call <;> unfold StoreCall.Fits <;> infer_instance

/-- A row that the call would add has an identifier that no row has. -/
def StoreCall.IsNew (rows : Table) : StoreCall → Prop
  | .insert token => rows.hasId token.id = false
  | _ => True

instance (rows : Table) (call : StoreCall) : Decidable (call.IsNew rows) := by
  cases call <;> unfold StoreCall.IsNew <;> infer_instance

theorem Clock.exists_now {clock : Clock} (h : clock.now.isOk) : ∃ now, clock.now = .ok now := by
  cases shown : clock.now with
  | ok now => exact ⟨now, rfl⟩
  | error cause =>
    rw [shown] at h
    cases h

/-! ## 2. Answers -/

/-- The answer as a database keeps what is in it. -/
def ConsumeOutcome.stored : ConsumeOutcome → ConsumeOutcome
  | .accepted row kind => .accepted row.stored kind
  | .reused row revokedRows => .reused row.stored revokedRows
  | outcome => outcome

/-- Two outcomes that are related if they are values, and otherwise the same. -/
inductive Outcome.Agrees {α β : Type} (R : α → β → Prop) : Outcome α → Outcome β → Prop
  | done {a : α} {b : β} (h : R a b) : Agrees R (.done a) (.done b)
  | failed (e : Failure) : Agrees R (.failed e) (.failed e)
  | aborted (cause : Abort) : Agrees R (.aborted cause) (.aborted cause)

theorem Outcome.Agrees.refl {α : Type} {R : α → α → Prop} (h : ∀ a, R a a) (o : Outcome α) :
    o.Agrees R o := by
  cases o with
  | done a => exact .done (h a)
  | failed e => exact .failed e
  | aborted cause => exact .aborted cause

theorem Outcome.Agrees.imp {α β : Type} {R R' : α → β → Prop} {o : Outcome α} {o' : Outcome β}
    (h : o.Agrees R o') (himp : ∀ a b, R a b → R' a b) : o.Agrees R' o' := by
  cases h with
  | done h => exact .done (himp _ _ h)
  | failed e => exact .failed e
  | aborted cause => exact .aborted cause

theorem Outcome.Agrees.isAborted_eq {α β : Type} {R : α → β → Prop} {o : Outcome α} {o' : Outcome β}
    (h : o.Agrees R o') : o'.isAborted = o.isAborted := by
  cases h <;> rfl

/-- **The second answer is the first, rounded**; `rows` is the table that was called. What is
    accepted is answered as it was computed, so there both are rounded first. The members of a
    family may come in another order where two of them were created at one instant. -/
def StoreCall.Agrees (rows : Table) : (call : StoreCall) → call.Answer → call.Answer → Prop
  | .insert _, a, b => b = a.stored
  | .consume .., a, b => b.stored = a.stored
  | .revokeFamily .., a, b => b = a
  | .revokeSubject .., a, b => b = a
  | .link .., a, b => b = a
  | .getByHash _, a, b => b = a.map Row.stored
  | .listFamily family, a, b => b.Perm (a.map Row.stored) ∧
      (rows.CreatedApart family → b = a.map Row.stored)

/-! ## 3. Clear wires -/

namespace Store.Attempt

variable {α β : Type} {server : Server} {x : Attempt α} {f : α → Attempt β}

/-- **The attempt comes to the result on every clear wire** to the server, and leaves it a clear
    wire to it. -/
def Yields (server : Server) (x : Attempt α) (result : Except Trouble α) : Prop :=
  ∀ wire : Wire, wire.IsClear → wire.server = server →
    ∃ wire', x wire = (result, wire') ∧ wire'.IsClear ∧ wire'.server = server

theorem yields_pure (a : α) : Yields server (pure a : Attempt α) (.ok a) :=
  fun wire h hserver => ⟨wire, rfl, h, hserver⟩

theorem yields_giveUp (t : Trouble) : Yields server (giveUp t : Attempt α) (.error t) :=
  fun wire h hserver => ⟨wire, rfl, h, hserver⟩

/-- What the server refuses is refused with what it says. -/
theorem yields_refuse (state : String) (constraint : Option String) (s : Statement)
    (texts : List String) :
    Yields server (refuse state constraint s texts : Attempt α)
      (.error (.database (.rejected state constraint
        (server.refusal state constraint s texts)))) := by
  rintro wire h rfl
  exact ⟨wire, rfl, h, rfl⟩

theorem yields_bind {a : α} {result : Except Trouble β} (hx : Yields server x (.ok a))
    (hf : Yields server (f a) result) : Yields server (x >>= f) result := by
  intro wire h hserver
  obtain ⟨wire₁, hfirst, h₁, hserver₁⟩ := hx wire h hserver
  obtain ⟨wire₂, hsecond, h₂⟩ := hf wire₁ h₁ hserver₁
  exact ⟨wire₂, (bind_of_ok hfirst).trans hsecond, h₂⟩

theorem yields_send (s : Statement) {texts : List String} (kept : ∀ text ∈ texts, Keepable text) :
    Yields server (send s texts) (.ok ()) := by
  intro wire h hserver
  obtain ⟨_, wire', hsend, h'⟩ := goes_send s kept wire h
  have hsteady := (steady_send s texts wire).2
  rw [hsend] at hsteady
  exact ⟨wire', hsend, h', hsteady.trans hserver⟩

theorem yields_now_bind {clock : Clock} {now : Instant} {f : Instant → Attempt β}
    {result : Except Trouble β} (shown : clock.now = .ok now) (hf : Yields server (f now) result) :
    Yields server (Attempt.now clock >>= f) result := by
  have heq : Attempt.now clock = pure now := by simp only [Attempt.now, shown]
  rw [heq]
  exact hf

end Store.Attempt

namespace DurableStore

open Store.Attempt

variable {rows : Table} {server : Server}

/-- The error of an insertion that breaks a constraint. -/
def insertError (server : Server) (token : NewToken) (violation : Violation) (constraint : String) :
    DatabaseError :=
  .rejected violation.state (some constraint)
    (server.refusal violation.state (some constraint) .insert [token.subject, token.hash])

/-- The constraints are looked at one after the other. -/
theorem insertAttempt_yields {token : NewToken}
    (kept : ∀ text ∈ [token.subject, token.hash], Keepable text) :
    Yields server (insertAttempt rows token)
      (if token.hash.length ≠ 64 then
        .error (.database (insertError server token .check hashLengthConstraint))
      else if rows.hasId token.id then
        .error (.database (insertError server token .unique idConstraint))
      else if rows.hasHash token.hash then
        .error (.database (insertError server token .unique hashConstraint))
      else .ok (token.row.stored, rows ++ [token.row.stored])) := by
  refine yields_bind (yields_send _ kept) ?_
  split
  · exact yields_refuse _ _ _ _
  · split
    · exact yields_refuse _ _ _ _
    · split
      · exact yields_refuse _ _ _ _
      · exact yields_pure _

theorem insertAttempt_yields_stored {token : NewToken} (fits : (StoreCall.insert token).Fits rows)
    (new : (StoreCall.insert token).IsNew rows) :
    Yields server (insertAttempt (rows.map Row.stored) token)
      (if rows.hasHash token.hash then
        .error (.database (insertError server token .unique hashConstraint))
      else .ok (token.row.stored, (rows ++ [token.row]).map Row.stored)) := by
  obtain ⟨hsubject, hhash, hlength⟩ := fits
  have yields :=
    @insertAttempt_yields (rows.map Row.stored) server token (by simp [hsubject, hhash])
  rw [Table.hasId_map_stored, Table.hasHash_map_stored, if_neg (not_not_intro hlength),
    if_neg (Bool.eq_false_iff.mp new)] at yields
  rw [List.map_append]
  exact yields

/-- A presentation does what the verdict asks for. -/
theorem consumeAttempt_yields (server : Server) {hash : String} {clock : Clock} (policy : Policy)
    {row : Row} {now : Instant} (kept : Keepable hash) (shown : clock.now = .ok now)
    (found : rows.byHash? hash = some row) :
    Yields server (consumeAttempt rows hash clock policy)
      (match StoreKind.durable.obey rows row now (row.judge now policy) with
      | some answered => .ok answered
      | none => .error (.aborted .overflow)) := by
  have one (s : Statement) : Yields server (send s []) (.ok ()) := yields_send s (by simp)
  refine yields_bind (one _) (yields_bind (yields_send _ (by simpa using kept)) ?_)
  rw [found]
  refine yields_now_bind shown ?_
  cases row.judge now policy with
  | refuse | withinGrace => exact yields_bind (one _) (yields_pure _)
  | firstUse | reuse => exact yields_bind (one _) (yields_bind (one _) (yields_pure _))
  | overflow => exact yields_giveUp _

theorem consumeAttempt_yields_unknown {hash : String} (clock : Clock) (policy : Policy)
    (kept : Keepable hash) (absent : rows.byHash? hash = none) :
    Yields server (consumeAttempt rows hash clock policy) (.ok (.unknown, rows)) := by
  have one (s : Statement) : Yields server (send s []) (.ok ()) := yields_send s (by simp)
  refine yields_bind (one _) (yields_bind (yields_send _ (by simpa using kept)) ?_)
  rw [absent]
  exact yields_bind (one _) (yields_pure _)

theorem revokeAttempt_yields {texts : List String} (chosen : Row → Bool) (now : Instant)
    (kept : ∀ text ∈ texts, Keepable text) :
    Yields server (revokeAttempt rows texts chosen now)
      (.ok (rows.sweepCount chosen, rows.sweep chosen now.stored)) :=
  yields_bind (yields_send _ kept) (yields_pure _)

theorem revokeAttempt_yields_stored (rows : Table) (texts : List String) (chosen : Row → Bool)
    (now : Instant) (blind : ∀ r, chosen (Row.stored r) = chosen r)
    (kept : ∀ text ∈ texts, Keepable text) :
    Yields server (revokeAttempt (rows.map Row.stored) texts chosen now)
      (.ok (rows.sweepCount chosen, (rows.sweep chosen now).map Row.stored)) := by
  rw [← Table.sweepCount_map_stored blind, ← Table.sweep_map_stored blind]
  exact revokeAttempt_yields chosen now kept

/-- The error of a link to no row. -/
def linkError (server : Server) : DatabaseError :=
  .rejected Violation.foreignKey.state (some successorConstraint)
    (server.refusal Violation.foreignKey.state (some successorConstraint) .update [])

/-- A successor is asked for only where the link would be made. -/
theorem linkAttempt_yields (server : Server) (rows : Table) (id successor : Uuid) :
    Yields server (linkAttempt rows id successor)
      (if rows.any (Row.unlinked id) ∧ rows.hasId successor = false then
        .error (.database (linkError server))
      else .ok (rows.any (Row.unlinked id),
        rows.changeAll (Row.unlinked id) fun r => { r with replacedBy := some successor })) := by
  refine yields_bind (yields_send _ (by simp)) ?_
  change Yields server (if rows.any (Row.unlinked id) then _ else _ : Attempt (Bool × Table)) _
  cases unlinked : rows.any (Row.unlinked id) with
  | true =>
    cases rows.hasId successor with
    | true => exact yields_pure _
    | false => exact yields_refuse _ _ _ _
  | false =>
    have unchosen : ∀ r ∈ rows, Row.unlinked id r = false := by simpa using unlinked
    have same : rows.changeAll (Row.unlinked id)
        (fun r => { r with replacedBy := some successor }) = rows :=
      StoreKind.durable.change_of_none unchosen
    rw [if_neg Bool.false_ne_true, if_neg (by simp), same]
    exact yields_pure _

theorem linkAttempt_yields_known {id successor : Uuid} (known : rows.hasId successor) :
    Yields server (linkAttempt rows id successor) (.ok (rows.any (Row.unlinked id),
      rows.changeAll (Row.unlinked id) fun r => { r with replacedBy := some successor })) := by
  have yields := linkAttempt_yields server rows id successor
  rw [if_neg (by simp [known])] at yields
  exact yields

theorem linkAttempt_yields_stored (id : Uuid) {successor : Uuid} (ids : rows.IdsDistinct)
    (known : rows.hasId successor) :
    Yields server (linkAttempt (rows.map Row.stored) id successor)
      (.ok (rows.any (Row.unlinked id),
        (rows.changeFirst (Row.unlinked id) fun r => { r with replacedBy := some successor }).map
          Row.stored)) := by
  have single : ∀ r ∈ rows, ∀ s ∈ rows, Row.unlinked id r → Row.unlinked id s → r.id = s.id := by
    intro r _ s _ hr hs
    simp only [Row.unlinked, Bool.and_eq_true, decide_eq_true_eq] at hr hs
    exact hr.1.trans hs.1.symm
  have hany : (rows.map Row.stored).any (Row.unlinked id) = rows.any (Row.unlinked id) :=
    Table.any_map_stored (fun _ => rfl) rows
  have hchange : Table.changeAll (Row.unlinked id)
      (fun r => { r with replacedBy := some successor }) (rows.map Row.stored) =
        (rows.changeAll (Row.unlinked id) fun r => { r with replacedBy := some successor }).map
          Row.stored := by
    refine Table.changeAll_map_stored (fun r => ?_) (fun r => ?_) rows <;> rfl
  rw [Table.changeFirst_eq_changeAll ids single, ← hchange, ← hany]
  exact linkAttempt_yields_known (by rw [Table.hasId_map_stored, known])

theorem once_of_yields {α : Type} {attempt : Attempt α} {result : Except Trouble α} {wire : Wire}
    (h : Yields wire.server attempt result) (clear : wire.IsClear) :
    ∃ wire', wire'.IsClear ∧ wire'.server = wire.server ∧
      once attempt wire = { result, events := [], wire := wire' } := by
  obtain ⟨wire', hwire, h', hserver⟩ := h wire clear rfl
  refine ⟨wire', h', hserver, ?_⟩
  simp only [once, hwire]

/-- What does not come to a lock conflict is not tried again. -/
theorem retried_of_yields {α : Type} (work : LockedWork) {attempt : Attempt α}
    {result : Except Trouble α} {wire : Wire} (h : Yields wire.server attempt result)
    (clear : wire.IsClear)
    (unlost : ∀ e, result = .error (.database e) → e.isLockConflict = false) :
    ∃ wire', wire'.IsClear ∧ wire'.server = wire.server ∧
      retried work attempt wire = { result, events := [], wire := wire' } := by
  obtain ⟨wire', hwire, h', hserver⟩ := h wire clear rfl
  refine ⟨wire', h', hserver, ?_⟩
  rcases result with (e | cause) | value
  · have hno := unlost e rfl
    simp only [retried, maxAttempts, Nat.reduceSub, repeating, hwire, hno, Bool.false_eq_true,
      if_false]
  · simp only [retried, maxAttempts, Nat.reduceSub, repeating, hwire]
  · simp only [retried, maxAttempts, Nat.reduceSub, repeating, hwire]

end DurableStore

/-! ## 4. Twins -/

/-- **A call leaves a table that a database could hold.** -/
theorem Table.Sound.settled {k : StoreKind} {rows after : Table} {call : StoreCall}
    {outcome : Outcome call.Answer} (h : Settled k rows call outcome after) (sound : rows.Sound)
    (fits : call.Fits rows) (new : call.IsNew rows) : after.Sound := by
  have hashes := h.hashesDistinct sound.hashes
  cases h with
  | kept => exact sound
  | carried h =>
    rcases h.adds_or_evolves with ⟨token, rfl, -, rfl⟩ | hrows
    · refine ⟨sound.ids.append_new ?_, hashes, fun r hr => ?_⟩
      · cases k <;> exact new
      · rcases List.mem_append.mp hr with hr | hr
        · exact sound.subjects r hr
        · rw [List.mem_singleton.mp hr, StoreKind.keepRow_subject]
          exact fits.1
    · refine ⟨sound.ids.forall₂ hrows, hashes, fun s hs => ?_⟩
      obtain ⟨r, hr, hrs⟩ := exists_mem_of_forall₂ hrows hs
      rw [hrs.subject]
      exact sound.subjects r hr

/-- **Twin stores**: the one in memory, with no collision due and its lock poisoned or not, and the
    durable one, behind a clear wire, with the same rows as a database keeps them. -/
inductive AnyStore.Twins : AnyStore → AnyStore → Prop
  | intro (rows : Table) (poisoned : Bool) {wire : Wire} (clear : wire.IsClear) :
    Twins (.memory { rows, poisoned }) (.durable { rows := rows.map Row.stored, wire })

namespace AnyStore.Twins

variable {s t : AnyStore}

theorem kind (h : s.Twins t) : s.kind = .memory := by
  cases h
  rfl

theorem kind_right (h : s.Twins t) : t.kind = .durable := by
  cases h
  rfl

theorem rows (h : s.Twins t) : t.rows = s.rows.map Row.stored := by
  cases h
  rfl

/-- A store in memory has no wire for a fault to wait on. -/
theorem withFaults_left (h : s.Twins t) (faults : List Fault) : s.withFaults faults = s := by
  cases h
  rfl

theorem withFaults_right (h : s.Twins t) : s.Twins (t.withFaults []) := by
  obtain ⟨rows, poisoned, clear⟩ := h
  exact .intro rows poisoned ⟨clear.1, rfl⟩

theorem failInserts (h : s.Twins t) : (s.failInserts 0).Twins (t.failInserts 0) := by
  obtain ⟨rows, poisoned, clear⟩ := h
  exact .intro rows poisoned clear

theorem isEmpty (h : s.Twins t) (reachable : s.isReachable) : t.isEmpty = s.isEmpty := by
  obtain ⟨rows, poisoned, clear⟩ := h
  obtain rfl : poisoned = false := isReachable_memory.mp reachable
  change Outcome.done (rows.map Row.stored).isEmpty = .done rows.isEmpty
  rw [List.isEmpty_map]

end AnyStore.Twins

/-- A call that two stores answered alike, and that left twins. -/
structure Performed.Twins {α : Type} (R : α → α → Prop) (p q : Performed AnyStore α) : Prop where
  outcome : p.outcome.Agrees R q.outcome
  events : p.events = q.events
  stores : AnyStore.Twins p.store q.store

/-- A store in memory does what the verdict asks for. -/
theorem MemoryStore.consumeAt_eq {rows : Table} {hash : String} {row : Row}
    (found : rows.byHash? hash = some row) (now : Instant) (policy : Policy) :
    consumeAt { rows } hash now policy =
      match StoreKind.memory.obey rows row now (row.judge now policy) with
      | some (outcome, after) => { outcome := .done outcome, store := { rows := after } }
      | none => { outcome := .aborted .overflow, store := { rows } } := by
  obtain rfl := Table.hash_of_byHash? found
  simp only [consumeAt, found]
  cases row.judge now policy <;> rfl

/-- Twins do the same about a verdict. -/
theorem StoreKind.obey_stored {rows : Table} (sound : rows.Sound) {row : Row} (found : row ∈ rows)
    (now : Instant) (verdict : Verdict) :
    (∃ a b after, memory.obey rows row now verdict = some (a, after) ∧
      durable.obey (rows.map Row.stored) row.stored now verdict = some (b, after.map Row.stored) ∧
        b.stored = a.stored) ∨
      (memory.obey rows row now verdict = none ∧
        durable.obey (rows.map Row.stored) row.stored now verdict = none) := by
  cases verdict with
  | refuse reason => exact .inl ⟨_, _, rows, rfl, rfl, rfl⟩
  | withinGrace =>
    exact .inl ⟨_, _, rows, rfl, rfl, congrArg (ConsumeOutcome.accepted · _) row.stored_stored⟩
  | overflow => exact .inr ⟨rfl, rfl⟩
  | firstUse c g =>
    refine .inl ⟨_, .accepted (row.stored.stamp c g) .first, _, rfl, ?_,
      congrArg (ConsumeOutcome.accepted · _) (row.stored_stamp_stored c g)⟩
    have hchange : memory.change (memory.presented row) (fun r => r.stamp c g) rows =
        rows.changeAll (fun r => r.id = row.id) fun r => r.stamp c g :=
      Table.change_presented sound.ids sound.hashes found
    have hstored : Table.changeAll (fun r => r.id = row.id)
        (fun r => r.stamp c.stored g.stored) (rows.map Row.stored) =
          (rows.changeAll (fun r => r.id = row.id) fun r => r.stamp c g).map Row.stored :=
      Table.changeAll_map_stored (fun _ => rfl) (fun r => (r.stored_stamp c g).symm) rows
    simp only [obey, keep]
    rw [hchange]
    exact congrArg (fun after => some (_, after)) hstored
  | reuse =>
    refine .inl ⟨_, .reused row.stored (rows.sweepCount fun r => r.family = row.family), _, rfl, ?_,
      congrArg (ConsumeOutcome.reused · _) row.stored_stored⟩
    have hcount : Table.sweepCount (fun r => r.family = row.family) (rows.map Row.stored) =
        rows.sweepCount fun r => r.family = row.family :=
      Table.sweepCount_map_stored (fun _ => rfl) rows
    have hsweep : Table.sweep (fun r => r.family = row.family) now.stored (rows.map Row.stored) =
        (rows.sweep (fun r => r.family = row.family) now).map Row.stored :=
      Table.sweep_map_stored (fun _ => rfl) now rows
    exact congrArg₂ (fun n after => some (ConsumeOutcome.reused row.stored n, after)) hcount hsweep

/-! ## 5. The square -/

namespace AnyStore

variable {rows : Table} {wire : Wire}

/-- The two answers to a call of a store in memory, its lock not poisoned, and of its durable
    twin. -/
def Square (rows : Table) (wire : Wire) (call : StoreCall) : Prop :=
  Performed.Twins (call.Agrees rows) ((AnyStore.memory { rows }).perform call)
    ((AnyStore.durable { rows := rows.map Row.stored, wire }).perform call)

/-- A call that both carry out. -/
theorem square_of_done {call : StoreCall} {a b : call.Answer} (after : Table) {wire' : Wire}
    (clear : wire'.IsClear) (agrees : call.Agrees rows a b)
    (memory : MemoryStore.perform { rows } call =
      { outcome := .done a, store := { rows := after } })
    (durable : DurableStore.perform { rows := rows.map Row.stored, wire } call =
      { outcome := .done b, store := { rows := after.map Row.stored, wire := wire' } }) :
    Square rows wire call := by
  simp only [Square, perform, memory, durable]
  exact ⟨.done agrees, rfl, .intro after false clear⟩

theorem square_insert {token : NewToken} (clear : wire.IsClear)
    (fits : (StoreCall.insert token).Fits rows) (new : (StoreCall.insert token).IsNew rows) :
    Square rows wire (.insert token) := by
  obtain ⟨wire', clear', -, honce⟩ :=
    DurableStore.once_of_yields (DurableStore.insertAttempt_yields_stored fits new) clear
  have hmemory : MemoryStore.perform { rows } (.insert token) = _ :=
    MemoryStore.perform_of_sound rfl rfl
  cases taken : rows.hasHash token.hash with
  | true =>
    rw [taken] at honce
    simp only [Square, perform, hmemory, MemoryStore.work, MemoryStore.add, taken,
      DurableStore.perform, honce, DurableStore.settle]
    exact ⟨.failed .hashCollision, rfl, .intro rows false clear'⟩
  | false =>
    rw [taken] at honce
    have agrees : (StoreCall.insert token).Agrees rows token.row token.row.stored := rfl
    refine square_of_done (rows ++ [token.row]) clear' agrees ?_ ?_
    · simp [hmemory, MemoryStore.work, MemoryStore.add, taken, Outcome.isAborted]
    · simp [DurableStore.perform, honce, DurableStore.settle]

theorem square_consume {hash : String} {clock : Clock} {policy : Policy} (sound : rows.Sound)
    (clear : wire.IsClear) (fits : (StoreCall.consume hash clock policy).Fits rows) :
    Square rows wire (.consume hash clock policy) := by
  obtain ⟨kept, hshown, timely⟩ := fits
  obtain ⟨now, shown⟩ := Clock.exists_now hshown
  have hwork : MemoryStore.work { rows } (.consume hash clock policy) =
      MemoryStore.consumeAt { rows } hash now policy := by
    simp only [MemoryStore.work, MemoryStore.consume, shown]
  have hmemory : MemoryStore.perform { rows } (.consume hash clock policy) = _ :=
    MemoryStore.perform_of_sound rfl rfl
  rw [hwork] at hmemory
  cases found : rows.byHash? hash with
  | none =>
    have absent : Table.byHash? (rows.map Row.stored) hash = none := by
      rw [Table.byHash?_map_stored, found]
      rfl
    obtain ⟨wire', clear', -, hretried⟩ := DurableStore.retried_of_yields .consume
      (DurableStore.consumeAttempt_yields_unknown clock policy kept absent) clear fun _ => by simp
    have agrees : (StoreCall.consume hash clock policy).Agrees rows .unknown .unknown := rfl
    refine square_of_done rows clear' agrees ?_ ?_
    · simp only [hmemory, MemoryStore.consumeAt, found, Outcome.isAborted]
    · simp only [DurableStore.perform, hretried, DurableStore.settle]
  | some row =>
    have found' : Table.byHash? (rows.map Row.stored) hash = some row.stored := by
      rw [Table.byHash?_map_stored, found]
      rfl
    have alike : row.Alike now := (timely row found now (by rw [shown]; rfl)).alike
    have yields :=
      DurableStore.consumeAttempt_yields wire.server policy kept shown found'
    rw [Row.judge_stored alike] at yields
    rcases StoreKind.obey_stored sound (Table.mem_of_byHash? found) now (row.judge now policy) with
      ⟨a, b, after, ha, hb, hab⟩ | ⟨ha, hb⟩
    · rw [hb] at yields
      obtain ⟨wire', clear', -, hretried⟩ :=
        DurableStore.retried_of_yields .consume yields clear fun _ => by simp
      have agrees : (StoreCall.consume hash clock policy).Agrees rows a b := hab
      refine square_of_done after clear' agrees ?_ ?_
      · simp only [hmemory, MemoryStore.consumeAt_eq found, ha, Outcome.isAborted]
      · simp only [DurableStore.perform, hretried, DurableStore.settle]
    · rw [hb] at yields
      obtain ⟨wire', clear', -, hretried⟩ :=
        DurableStore.retried_of_yields .consume yields clear fun _ => by simp
      simp only [Square, perform, hmemory, MemoryStore.consumeAt_eq found, ha, DurableStore.perform,
        hretried, DurableStore.settle]
      exact ⟨.aborted .overflow, rfl, .intro rows true clear'⟩

theorem square_revokeFamily (family : Uuid) (now : Instant) (clear : wire.IsClear) :
    Square rows wire (.revokeFamily family now) := by
  obtain ⟨wire', clear', -, hretried⟩ := DurableStore.retried_of_yields .revokeFamily
    (DurableStore.revokeAttempt_yields_stored rows [] (fun r => r.family = family) now
      (fun _ => rfl) (fun _ h => absurd h List.not_mem_nil)) clear fun _ => by simp
  have agrees (n : Nat) : (StoreCall.revokeFamily family now).Agrees rows n n := rfl
  refine square_of_done (rows.sweep (fun r => r.family = family) now) clear' (agrees _) rfl ?_
  simp only [DurableStore.perform, hretried, DurableStore.settle]

theorem square_revokeSubject {subject : String} (now : Instant) (clear : wire.IsClear)
    (kept : Keepable subject) : Square rows wire (.revokeSubject subject now) := by
  obtain ⟨wire', clear', -, hretried⟩ := DurableStore.retried_of_yields .revokeSubject
    (DurableStore.revokeAttempt_yields_stored rows [subject] (fun r => r.subject = subject) now
      (fun _ => rfl) (by simpa using kept)) clear fun _ => by simp
  have agrees (n : Nat) : (StoreCall.revokeSubject subject now).Agrees rows n n := rfl
  refine square_of_done (rows.sweep (fun r => r.subject = subject) now) clear' (agrees _) rfl ?_
  simp only [DurableStore.perform, hretried, DurableStore.settle]

theorem square_link (id : Uuid) {successor : Uuid} (sound : rows.Sound) (clear : wire.IsClear)
    (known : rows.hasId successor) : Square rows wire (.link id successor) := by
  obtain ⟨wire', clear', -, honce⟩ :=
    DurableStore.once_of_yields (DurableStore.linkAttempt_yields_stored id sound.ids known) clear
  have agrees (linked : Bool) : (StoreCall.link id successor).Agrees rows linked linked := rfl
  refine square_of_done _ clear' (agrees _) rfl ?_
  simp only [DurableStore.perform, honce, DurableStore.settle]
  rfl

/-- A call that only reads. -/
theorem square_read {call : StoreCall} (texts : List String) {a b : call.Answer}
    (clear : wire.IsClear) (kept : ∀ text ∈ texts, Keepable text) (agrees : call.Agrees rows a b)
    (memory : MemoryStore.perform { rows } call = { outcome := .done a, store := { rows } })
    (durable : ∀ d : DurableStore, d.rows = rows.map Row.stored →
      d.perform call = d.read texts b) : Square rows wire call := by
  have yields : Attempt.Yields wire.server
      (do Attempt.send .select texts; pure (b, rows.map Row.stored))
      (.ok (b, rows.map Row.stored)) :=
    Attempt.yields_bind (Attempt.yields_send _ kept) (Attempt.yields_pure _)
  obtain ⟨wire', clear', -, honce⟩ := DurableStore.once_of_yields yields clear
  refine square_of_done rows clear' agrees memory ?_
  rw [durable _ rfl, DurableStore.read, honce]
  rfl

theorem square_getByHash {hash : String} (clear : wire.IsClear) (kept : Keepable hash) :
    Square rows wire (.getByHash hash) := by
  have agrees : (StoreCall.getByHash hash).Agrees rows (rows.byHash? hash)
      ((rows.byHash? hash).map Row.stored) := rfl
  refine square_read [hash] clear (by simpa using kept) agrees rfl fun d hd => ?_
  rw [← Table.byHash?_map_stored, ← hd]
  rfl

theorem square_listFamily (family : Uuid) (clear : wire.IsClear) :
    Square rows wire (.listFamily family) := by
  have agrees : (StoreCall.listFamily family).Agrees rows (MemoryStore.lineage { rows } family)
      (DurableStore.lineage (rows.map Row.stored) family) :=
    ⟨Table.lineage_map_stored_perm rows family, Table.lineage_map_stored⟩
  refine square_read [] clear (fun _ h => absurd h List.not_mem_nil) agrees rfl fun d hd => ?_
  rw [← hd]
  rfl

/-- **Twins answer a call alike**, and stay twins, as long as the lock of the one is not
    poisoned. -/
theorem Twins.perform {s t : AnyStore} (h : s.Twins t) {call : StoreCall} (sound : s.rows.Sound)
    (reachable : s.isReachable) (fits : call.Fits s.rows) (new : call.IsNew s.rows) :
    Performed.Twins (call.Agrees s.rows) (s.perform call) (t.perform call) := by
  obtain ⟨rows, poisoned, clear⟩ := h
  obtain rfl : poisoned = false := isReachable_memory.mp reachable
  cases call with
  | insert token => exact square_insert clear fits new
  | consume hash clock policy => exact square_consume sound clear fits
  | revokeFamily family now => exact square_revokeFamily family now clear
  | revokeSubject subject now => exact square_revokeSubject now clear fits
  | link id successor => exact square_link id sound clear fits
  | getByHash hash => exact square_getByHash clear fits
  | listFamily family => exact square_listFamily family clear

end AnyStore

end TokenRotation

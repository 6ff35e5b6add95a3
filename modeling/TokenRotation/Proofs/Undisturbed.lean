import TokenRotation.Proofs.Readiness

/-!
# Undisturbed calls

A call that nothing stands in the way of comes to what the table and the call decide between them:
the answer, the failure or the end of the work, what is logged, and the table afterwards. This file
writes it down for all seven calls and both kinds of store. What goes wrong on such a store is wrong
with the call: a text that a database cannot keep, a row or a link that it does not take in, a taken
hash, a clock that cannot be read, a deadline after the end of the calendar.

* `StoreKind.respond` -- what a call comes to, as a function of the table and the call;
* `AnyStore.Undisturbed` -- nothing stands in the way of a call;
* `AnyStore.Undisturbed.responds` -- **an undisturbed store responds** as that function says.
-/

namespace TokenRotation

open Store

/-! ## 1. What a call comes to -/

/-- The texts that a call sends to a database. -/
def StoreCall.texts : StoreCall → List String
  | .insert token => [token.subject, token.hash]
  | .consume hash _ _ => [hash]
  | .revokeSubject subject _ => [subject]
  | .getByHash hash => [hash]
  | .revokeFamily .. | .link .. | .listFamily _ => []

/-- The statement that a call sends its texts with. -/
def StoreCall.statement : StoreCall → Statement
  | .insert _ => .insert
  | .revokeFamily .. | .revokeSubject .. | .link .. => .update
  | .consume .. | .getByHash _ | .listFamily _ => .select

/-- What a server says of the texts of a call if it cannot keep them. -/
def Store.Server.objection (server : Server) (call : StoreCall) : Notice :=
  server.refusal unkeepableText none call.statement call.texts

namespace StoreKind

/-- What a presentation comes to at an instant: what the verdict on the row asks for, if a row is
    found. -/
def present (k : StoreKind) (rows : Table) (hash : String) (now : Instant) (policy : Policy) :
    Outcome ConsumeOutcome × Table :=
  match rows.byHash? hash with
  | none => (.done .unknown, rows)
  | some row =>
    match k.obey rows row now (row.judge now policy) with
    | some (answer, after) => (.done answer, after)
    | none => (.aborted .overflow, rows)

/-- What a call comes to whose texts can be kept. -/
def undertake (k : StoreKind) (rows : Table) : (call : StoreCall) → Outcome call.Answer × Table
  | .insert token =>
    if k = .durable ∧ token.hash.length ≠ 64 then
      (.failed (.invalidInput "Value violates a table constraint"), rows)
    else if k = .durable ∧ rows.hasId token.id then
      (.failed (.invalidInput "A record with this value already exists"), rows)
    else if rows.hasHash token.hash then (.failed .hashCollision, rows)
    else (.done (k.keepRow token.row), rows ++ [k.keepRow token.row])
  | .consume hash clock policy =>
    match clock.now with
    | .ok now => k.present rows hash now policy
    | .error cause =>
      -- a database finds the row first, and reads no clock for an unknown hash
      if k = .durable ∧ rows.byHash? hash = none then (.done .unknown, rows)
      else (.aborted cause, rows)
  | .revokeFamily family now =>
    (.done (rows.sweepCount fun r => r.family = family),
      rows.sweep (fun r => r.family = family) (k.keep now))
  | .revokeSubject subject now =>
    (.done (rows.sweepCount fun r => r.subject = subject),
      rows.sweep (fun r => r.subject = subject) (k.keep now))
  | .link id successor =>
    if k = .durable ∧ rows.any (Row.unlinked id) ∧ rows.hasId successor = false then
      (.failed (.invalidInput "Referenced record not found"), rows)
    else
      (.done (rows.any (Row.unlinked id)),
        k.change (Row.unlinked id) (fun r => { r with replacedBy := some successor }) rows)
  | .getByHash hash => (.done (rows.byHash? hash), rows)
  | .listFamily family => (.done (k.lineage rows family), rows)

/-- **What a call comes to** on a store of the kind before a server, if nothing stands in its
    way. -/
def respond (k : StoreKind) (server : Server) (rows : Table) (call : StoreCall) :
    Performed Table call.Answer :=
  if k = .durable ∧ ∃ text ∈ call.texts, ¬ Keepable text then
    { outcome := .failed (.database "Database operation failed")
      events := [.databaseFailed (server.objection call).details]
      store := rows }
  else { outcome := (k.undertake rows call).1, store := (k.undertake rows call).2 }

theorem respond_of_keepable {k : StoreKind} {server : Server} {rows : Table} {call : StoreCall}
    (kept : k = .durable → ∀ text ∈ call.texts, Keepable text) :
    k.respond server rows call =
      { outcome := (k.undertake rows call).1, store := (k.undertake rows call).2 } := by
  rw [respond, if_neg]
  rintro ⟨hk, text, htext, unkept⟩
  exact unkept (kept hk text htext)

end StoreKind

namespace AnyStore

/-- **Nothing stands in the way of the call**: no fault waits on the wire; the lock of a store in
    memory is not poisoned, and no collision is due where a row would be added. -/
def Undisturbed (s : AnyStore) (call : StoreCall) : Prop :=
  match s with
  | .memory m => m.collides call = false ∧ m.poisoned = false
  | .durable d => d.wire.IsClear

/-- A store that is ready is undisturbed in every call. -/
theorem IsReady.undisturbed {s : AnyStore} (ready : s.IsReady) (call : StoreCall) :
    s.Undisturbed call := by
  cases s with
  | memory m => exact ⟨MemoryStore.collides_of_undue ready.1 call, ready.2⟩
  | durable d => exact ready

/-- **The store does about the call** what its table and the call decide. -/
structure Responds (s : AnyStore) (call : StoreCall) : Prop where
  outcome : (s.perform call).outcome = (s.kind.respond s.server s.rows call).outcome
  events : (s.perform call).events = (s.kind.respond s.server s.rows call).events
  rows : (s.perform call).store.rows = (s.kind.respond s.server s.rows call).store
  /-- A store that is ready stays ready, unless the call is broken off in memory. -/
  ready : s.IsReady → s.kind = .durable ∨ (s.perform call).outcome.isAborted = false →
    (s.perform call).store.IsReady

end AnyStore

/-! ## 2. The store in memory -/

theorem MemoryStore.consumeAt_eq_present (m : MemoryStore) (hash : String) (now : Instant)
    (policy : Policy) :
    m.consumeAt hash now policy =
      { outcome := (StoreKind.memory.present m.rows hash now policy).1
        store := { m with rows := (StoreKind.memory.present m.rows hash now policy).2 } } := by
  cases found : m.rows.byHash? hash with
  | none => simp only [consumeAt, StoreKind.present, found]
  | some row =>
    obtain rfl := Table.hash_of_byHash? found
    simp only [consumeAt, StoreKind.present, found]
    cases row.judge now policy <;> rfl

/-- Behind the lock a store in memory does what it undertakes. -/
theorem MemoryStore.work_eq_undertake (m : MemoryStore) (call : StoreCall) :
    m.work call =
      { outcome := (StoreKind.memory.undertake m.rows call).1
        store := { m with rows := (StoreKind.memory.undertake m.rows call).2 } } := by
  cases call with
  | insert token =>
    change m.add token = _
    by_cases taken : m.rows.hasHash token.hash <;>
      simp [add, StoreKind.undertake, StoreKind.keepRow, taken]
  | consume hash clock policy =>
    change m.consume hash clock policy = _
    cases shown : clock.now with
    | error cause => simp [consume, StoreKind.undertake, shown]
    | ok now => simp only [consume, shown, consumeAt_eq_present, StoreKind.undertake]
  | link id successor =>
    have unforeign : ¬ (StoreKind.memory = .durable ∧ m.rows.any (Row.unlinked id) ∧
      m.rows.hasId successor = false) := fun h => by cases h.1
    simp only [StoreKind.undertake, if_neg unforeign]
    rfl
  | revokeFamily | revokeSubject | getByHash | listFamily => rfl

/-- A store in memory keeps every text. -/
theorem MemoryStore.responds {m : MemoryStore} {call : StoreCall}
    (clear : (AnyStore.memory m).Undisturbed call) : (AnyStore.memory m).Responds call := by
  have hperform := perform_of_sound clear.1 clear.2
  rw [work_eq_undertake] at hperform
  have hrespond : (AnyStore.memory m).kind.respond (AnyStore.memory m).server
      (AnyStore.memory m).rows call = _ :=
    StoreKind.respond_of_keepable fun hk => by cases hk
  refine ⟨?_, ?_, ?_, fun ready lasting => ?_⟩
  · rw [hrespond]
    exact congrArg (·.outcome) hperform
  · rw [hrespond]
    exact congrArg (·.events) hperform
  · rw [hrespond]
    exact congrArg (·.store.rows) hperform
  · refine ⟨(congrArg (·.store.forcedCollisions) hperform).trans ready.1, ?_⟩
    have hwhole : (m.perform call).outcome.isAborted = false := lasting.resolve_left nofun
    rw [m.poisoned_perform, clear.2, hwhole, Bool.or_false]

/-! ## 3. The durable store -/

namespace Store.Attempt

variable {α β : Type} {server : Server}

theorem yields_bind_error {x : Attempt α} {f : α → Attempt β} {t : Trouble}
    (hx : Yields server x (.error t)) : Yields server (x >>= f) (.error t) := by
  intro wire h hserver
  obtain ⟨wire', hwire, h'⟩ := hx wire h hserver
  exact ⟨wire', bind_of_error hwire, h'⟩

theorem yields_openWire : Yields server openWire (.ok ()) := by
  intro wire h hserver
  cases hopen : wire.isOpen with
  | true => exact ⟨wire, by simp [openWire, hopen], h, hserver⟩
  | false => exact ⟨{ wire with isOpen := true }, by simp [openWire, hopen, h.1, h.2], h, hserver⟩

theorem yields_send_unkept (s : Statement) {texts : List String}
    (unkept : ∃ text ∈ texts, ¬ Keepable text) :
    Yields server (send s texts) (.error (.database (.rejected unkeepableText none
      (server.refusal unkeepableText none s texts)))) := by
  have hany : (texts.any fun text => text.toList.contains '\x00') = true := by
    simpa [Keepable] using unkept
  refine yields_bind yields_openWire fun wire h hserver => ?_
  simp only [sendOpen, h.2, receive, hany, if_true]
  exact yields_refuse _ _ _ _ wire h hserver

end Store.Attempt

namespace DurableStore

open Store.Attempt

variable {rows : Table} {d : DurableStore} {call : StoreCall}

/-- What is told of the result of an attempt, and the table after it. -/
def told {α : Type} (failure : DatabaseError → Failure) (rows : Table) :
    Except Trouble (α × Table) → Performed Table α
  | .ok (value, after) => { outcome := .done value, store := after }
  | .error (.database e) => { outcome := .failed (failure e), events := e.events, store := rows }
  | .error (.aborted cause) => { outcome := .aborted cause, store := rows }

/-- The unit of work came to the result at once, over a clear wire. -/
theorem responds_of_settle {result : Except Trouble (call.Answer × Table)}
    {failure : DatabaseError → Failure} {wire : Wire} (clear : wire.IsClear)
    (hperform : d.perform call = d.settle { result, events := [], wire } failure)
    (htold : told failure d.rows result =
      StoreKind.durable.respond d.wire.server d.rows call) :
    (AnyStore.durable d).Responds call := by
  have hrespond : (AnyStore.durable d).kind.respond (AnyStore.durable d).server
      (AnyStore.durable d).rows call = _ := htold.symm
  refine ⟨?_, ?_, ?_, fun _ _ => ?_⟩ <;>
    simp only [hrespond, AnyStore.perform, hperform] <;>
      rcases result with (e | cause) | ⟨value, after⟩ <;> first | rfl | exact clear

theorem responds_of_once {x : Attempt (call.Answer × Table)}
    {result : Except Trouble (call.Answer × Table)} {failure : DatabaseError → Failure}
    (clear : d.wire.IsClear) (yields : Yields d.wire.server x result)
    (hperform : d.perform call = d.settle (once x d.wire) failure)
    (htold : told failure d.rows result =
      StoreKind.durable.respond d.wire.server d.rows call) :
    (AnyStore.durable d).Responds call := by
  obtain ⟨wire, clear', -, honce⟩ := once_of_yields yields clear
  exact responds_of_settle clear' (honce ▸ hperform) htold

theorem responds_of_retried {work : LockedWork} {x : Attempt (call.Answer × Table)}
    {result : Except Trouble (call.Answer × Table)} {failure : DatabaseError → Failure}
    (clear : d.wire.IsClear) (yields : Yields d.wire.server x result)
    (unlost : ∀ e, result = .error (.database e) → e.isLockConflict = false)
    (hperform : d.perform call = d.settle (retried work x d.wire) failure)
    (htold : told failure d.rows result =
      StoreKind.durable.respond d.wire.server d.rows call) :
    (AnyStore.durable d).Responds call := by
  obtain ⟨wire, clear', -, hretried⟩ := retried_of_yields work yields clear unlost
  exact responds_of_settle clear' (hretried ▸ hperform) htold

theorem responds_insert (clear : d.wire.IsClear) (token : NewToken) :
    (AnyStore.durable d).Responds (.insert token) := by
  by_cases kept : ∀ text ∈ [token.subject, token.hash], Keepable text
  · refine responds_of_once clear (insertAttempt_yields kept) rfl ?_
    have hrespond : StoreKind.durable.respond d.wire.server d.rows (.insert token) = _ :=
      StoreKind.respond_of_keepable fun _ => kept
    rw [hrespond]
    simp only [StoreKind.undertake, true_and]
    split
    · rfl
    · split
      · rfl
      · split <;> rfl
  · have unkept : ∃ text ∈ [token.subject, token.hash], ¬ Keepable text := by
      simpa only [not_forall, exists_prop] using kept
    exact responds_of_once clear (yields_bind_error (yields_send_unkept _ unkept)) rfl
      (if_pos ⟨rfl, unkept⟩).symm

theorem responds_consume (clear : d.wire.IsClear) (hash : String) (clock : Clock)
    (policy : Policy) : (AnyStore.durable d).Responds (.consume hash clock policy) := by
  have one (s : Statement) : Yields d.wire.server (send s []) (.ok ()) := yields_send s (by simp)
  by_cases kept : Keepable hash
  · have hrespond :
        StoreKind.durable.respond d.wire.server d.rows (.consume hash clock policy) = _ :=
      StoreKind.respond_of_keepable fun _ => by simpa [StoreCall.texts] using kept
    cases found : d.rows.byHash? hash with
    | none =>
      refine responds_of_retried clear (consumeAttempt_yields_unknown clock policy kept found)
        (fun e lost => by cases lost) rfl ?_
      rw [hrespond]
      cases shown : clock.now <;>
        simp [told, StoreKind.undertake, StoreKind.present, shown, found]
    | some row =>
      cases shown : clock.now with
      | ok now =>
        refine responds_of_retried clear
          (consumeAttempt_yields d.wire.server policy kept shown found) ?_ rfl ?_
        · intro e lost
          cases hobey : StoreKind.durable.obey d.rows row now (row.judge now policy) <;>
            simp [hobey] at lost
        · rw [hrespond]
          simp only [StoreKind.undertake, StoreKind.present, shown, found]
          cases StoreKind.durable.obey d.rows row now (row.judge now policy) <;> rfl
      | error cause =>
        have yields : Yields d.wire.server (consumeAttempt d.rows hash clock policy)
            (.error (.aborted cause)) := by
          refine yields_bind (one _) (yields_bind (yields_send _ (by simpa using kept)) ?_)
          rw [found]
          refine yields_bind_error ?_
          simp only [Attempt.now, shown]
          exact yields_giveUp _
        refine responds_of_retried clear yields (fun e lost => by cases lost) rfl ?_
        rw [hrespond]
        simp [told, StoreKind.undertake, shown, found]
  · have unkept : ∃ text ∈ [hash], ¬ Keepable text := by simpa using kept
    refine responds_of_retried clear (yields_bind (one _) (yields_bind_error
      (yields_send_unkept _ unkept))) ?_ rfl (if_pos ⟨rfl, unkept⟩).symm
    rintro e he
    cases he
    rfl

theorem responds_revokeFamily (clear : d.wire.IsClear) (family : Uuid) (now : Instant) :
    (AnyStore.durable d).Responds (.revokeFamily family now) := by
  have hrespond : StoreKind.durable.respond d.wire.server d.rows (.revokeFamily family now) = _ :=
    StoreKind.respond_of_keepable fun _ => by simp [StoreCall.texts]
  exact responds_of_retried clear (revokeAttempt_yields _ now (by simp)) nofun rfl
    hrespond.symm

theorem responds_revokeSubject (clear : d.wire.IsClear) (subject : String) (now : Instant) :
    (AnyStore.durable d).Responds (.revokeSubject subject now) := by
  by_cases kept : ∀ text ∈ [subject], Keepable text
  · have hrespond :
        StoreKind.durable.respond d.wire.server d.rows (.revokeSubject subject now) = _ :=
      StoreKind.respond_of_keepable fun _ => kept
    exact responds_of_retried clear (revokeAttempt_yields _ now kept) nofun rfl hrespond.symm
  · have unkept : ∃ text ∈ [subject], ¬ Keepable text := by simpa using kept
    refine responds_of_retried clear (yields_bind_error (yields_send_unkept _ unkept)) ?_ rfl
      (if_pos ⟨rfl, unkept⟩).symm
    rintro e he
    cases he
    rfl

theorem responds_link (clear : d.wire.IsClear) (id successor : Uuid) :
    (AnyStore.durable d).Responds (.link id successor) := by
  have hrespond : StoreKind.durable.respond d.wire.server d.rows (.link id successor) = _ :=
    StoreKind.respond_of_keepable fun _ => by simp [StoreCall.texts]
  refine responds_of_once clear (linkAttempt_yields d.wire.server d.rows id successor) rfl ?_
  rw [hrespond]
  simp only [StoreKind.undertake, true_and]
  split <;> rfl

/-- A call that only reads. -/
theorem responds_read (clear : d.wire.IsClear) {value : call.Answer}
    (selects : call.statement = .select) (hperform : d.perform call = d.read call.texts value)
    (hundertake : StoreKind.durable.undertake d.rows call = (.done value, d.rows)) :
    (AnyStore.durable d).Responds call := by
  by_cases kept : ∀ text ∈ call.texts, Keepable text
  · refine responds_of_once clear (yields_bind (yields_send _ kept) (yields_pure _)) hperform ?_
    rw [StoreKind.respond_of_keepable fun _ => kept, hundertake]
    rfl
  · have unkept : ∃ text ∈ call.texts, ¬ Keepable text := by
      simpa only [not_forall, exists_prop] using kept
    refine responds_of_once clear (yields_bind_error (yields_send_unkept _ unkept)) hperform ?_
    rw [StoreKind.respond, if_pos ⟨rfl, unkept⟩, Server.objection, selects]
    rfl

/-- A database behind a clear wire. -/
theorem responds (clear : d.wire.IsClear) (call : StoreCall) :
    (AnyStore.durable d).Responds call := by
  cases call with
  | insert token => exact responds_insert clear token
  | consume hash clock policy => exact responds_consume clear hash clock policy
  | revokeFamily family now => exact responds_revokeFamily clear family now
  | revokeSubject subject now => exact responds_revokeSubject clear subject now
  | link id successor => exact responds_link clear id successor
  | getByHash | listFamily => exact responds_read clear rfl rfl rfl

end DurableStore

/-! ## 4. A store of either kind -/

namespace AnyStore

/-- **An undisturbed store responds** as the table and the call decide. -/
theorem Undisturbed.responds {s : AnyStore} {call : StoreCall} (h : s.Undisturbed call) :
    s.Responds call := by
  cases s with
  | memory m => exact MemoryStore.responds h
  | durable d => exact DurableStore.responds h call

end AnyStore

/-- What a call comes to is one of the ways in which calls end. -/
theorem StoreKind.respond_settled (k : StoreKind) (server : Server) (rows : Table)
    (call : StoreCall) :
    Settled k rows call (k.respond server rows call).outcome
      (k.respond server rows call).store := by
  cases k with
  | memory =>
    have hrespond : memory.respond server rows call = memory.respond {} rows call :=
      (respond_of_keepable fun hk => by cases hk).trans
        (respond_of_keepable fun hk => by cases hk).symm
    have ready : (AnyStore.memory { rows }).IsReady := ⟨rfl, rfl⟩
    obtain ⟨houtcome, -, hrows, -⟩ := (ready.undisturbed call).responds
    have settled := (AnyStore.memory { rows }).perform_settled call
    rw [houtcome, hrows] at settled
    rw [hrespond]
    exact settled
  | durable =>
    have ready : (AnyStore.durable { rows, wire := { reachable := true, server } }).IsReady :=
      ⟨rfl, rfl⟩
    obtain ⟨houtcome, -, hrows, -⟩ := (ready.undisturbed call).responds
    have settled :=
      (AnyStore.durable { rows, wire := { reachable := true, server } }).perform_settled call
    rwa [houtcome, hrows] at settled

end TokenRotation

import TokenRotation.Proofs.Twins

/-!
# Stores that are ready

A store is ready when nothing stands in the way of a call: in memory no collision is due and the
lock is not poisoned, no fault waits on the wire to a database. Then a call is carried out that the
constraints of a database allow, and the store is ready for the next one. So an issue on a ready
store goes through, and so does a rotation of a token that is accepted, whether or not it was
presented before.

* `AnyStore.CarriesOut` -- a call is answered, and leads to a table and to a ready store;
* `AnyStore.IsReady.consume`, `AnyStore.IsReady.insert`, `AnyStore.IsReady.link` -- the three units
  of work of a rotation;
* `Program.Goes` -- a program goes through on a ready store, and what it comes to;
* `Service.issue_goes`, `Service.rotate_goes` -- an issue and a rotation go through.
-/

namespace TokenRotation

open Store

/-! ## 1. Calls -/

namespace AnyStore

/-- No collision is due and the lock is not poisoned; no fault waits. -/
def IsReady : AnyStore → Prop
  | .memory m => m.forcedCollisions = 0 ∧ m.poisoned = false
  | .durable d => d.wire.IsClear

instance (s : AnyStore) : Decidable s.IsReady :=
  match s with
  | .memory m => inferInstanceAs (Decidable (m.forcedCollisions = 0 ∧ m.poisoned = false))
  | .durable d => inferInstanceAs (Decidable (d.wire.reachable = true ∧ d.wire.faults = []))

/-- **The store carries out the call** with that answer, comes to that table and is ready again. -/
structure CarriesOut (s : AnyStore) (call : StoreCall) (answer : call.Answer) (after : Table) :
    Prop where
  outcome : (s.perform call).outcome = .done answer
  rows : (s.perform call).store.rows = after
  ready : (s.perform call).store.IsReady

/-- A store that is ready is ready for a step without faults. -/
theorem IsReady.withFaults_nil {s : AnyStore} (ready : s.IsReady) : (s.withFaults []).IsReady := by
  cases s with
  | memory m => exact ready
  | durable d => exact ⟨ready.1, rfl⟩

/-- A store that a step without faults finds ready can be reached. -/
theorem IsReady.isReachable {s : AnyStore} (ready : (s.withFaults []).IsReady) :
    s.isReachable := by
  cases s with
  | memory m => exact isReachable_memory.mpr ready.2
  | durable d => exact ready.1

end AnyStore

namespace DurableStore

open Store.Attempt

variable {rows after : Table} {d : DurableStore}

theorem insertAttempt_yields_new {token : NewToken} (subject : Keepable token.subject)
    (hash : Keepable token.hash) (length : token.hash.length = 64)
    (newId : rows.hasId token.id = false) (newHash : rows.hasHash token.hash = false) :
    Yields d.wire.server (insertAttempt rows token)
      (.ok (token.row.stored, rows ++ [token.row.stored])) := by
  have yields := @insertAttempt_yields rows d.wire.server token (by simp [subject, hash])
  rw [if_neg (not_not_intro length), newId, newHash] at yields
  exact yields

/-- What comes to a result over a clear wire is carried out. -/
theorem carriesOut_of_ok {call : StoreCall} {answer : call.Answer} {wire : Wire}
    {failure : DatabaseError → Failure} {a : Attempted (call.Answer × Table)}
    (clear : wire.IsClear) (ha : a = { result := .ok (answer, after), events := [], wire })
    (hperform : d.perform call = d.settle a failure) :
    (AnyStore.durable d).CarriesOut call answer after := by
  have heq : (AnyStore.durable d).perform call =
      { outcome := .done answer, events := [], store := .durable { rows := after, wire } } := by
    simp only [AnyStore.perform, hperform, ha, settle]
  exact ⟨by rw [heq], by rw [heq]; rfl, by rw [heq]; exact clear⟩

end DurableStore

namespace AnyStore.IsReady

variable {s : AnyStore}

/-- **A presentation is carried out** as the verdict asks for, unless it leaves the calendar. -/
theorem consume {token : String} {clock : Clock} {policy : Policy} {row : Row} {now : Instant}
    {answer : ConsumeOutcome} {after : Table} (ready : s.IsReady) (shown : clock.now = .ok now)
    (found : s.rows.byHash? (hashOf token) = some row)
    (obeyed : s.kind.obey s.rows row now (row.judge now policy) = some (answer, after)) :
    s.CarriesOut (.consume (hashOf token) clock policy) answer after := by
  cases s with
  | memory m =>
    obtain ⟨rows, due, poisoned⟩ := m
    obtain ⟨rfl, rfl⟩ : due = 0 ∧ poisoned = false := ready
    change rows.byHash? (hashOf token) = some row at found
    change StoreKind.memory.obey rows row now _ = _ at obeyed
    have hconsume := MemoryStore.consumeAt_eq found now policy
    rw [obeyed] at hconsume
    have hperform : MemoryStore.perform { rows } (.consume (hashOf token) clock policy) = _ :=
      MemoryStore.perform_of_sound rfl rfl
    have heq : (AnyStore.memory { rows }).perform (.consume (hashOf token) clock policy) =
        { outcome := .done answer, store := .memory { rows := after } } := by
      simp only [perform, hperform, MemoryStore.work, MemoryStore.consume, shown, hconsume,
        Outcome.isAborted]
    exact ⟨by rw [heq], by rw [heq]; rfl, by rw [heq]; exact ⟨rfl, rfl⟩⟩
  | durable d =>
    have yields := DurableStore.consumeAttempt_yields d.wire.server policy
      (nul_not_mem_hashOf token) shown found
    change StoreKind.durable.obey d.rows row now _ = _ at obeyed
    rw [show (AnyStore.durable d).rows = d.rows from rfl, obeyed] at yields
    obtain ⟨wire, clear, -, hretried⟩ :=
      DurableStore.retried_of_yields .consume yields ready fun _ => by simp
    exact DurableStore.carriesOut_of_ok clear hretried rfl

/-- **A row is added** under a free hash; a database takes it in if its subject can be kept and its
    identifier is free as well. -/
theorem insert {token : NewToken} (ready : s.IsReady) (newHash : s.rows.hasHash token.hash = false)
    (taken : s.kind = .durable → Keepable token.subject ∧ Keepable token.hash ∧
      token.hash.length = 64 ∧ s.rows.hasId token.id = false) :
    s.CarriesOut (.insert token) (s.kind.keepRow token.row)
      (s.rows ++ [s.kind.keepRow token.row]) := by
  cases s with
  | memory m =>
    obtain ⟨rows, due, poisoned⟩ := m
    obtain ⟨rfl, rfl⟩ : due = 0 ∧ poisoned = false := ready
    change rows.hasHash token.hash = false at newHash
    have hperform : MemoryStore.perform { rows } (.insert token) = _ :=
      MemoryStore.perform_of_sound rfl rfl
    have heq : (AnyStore.memory { rows }).perform (.insert token) =
        { outcome := .done token.row, store := .memory { rows := rows ++ [token.row] } } := by
      simp [perform, hperform, MemoryStore.work, MemoryStore.add, newHash, Outcome.isAborted]
    exact ⟨by rw [heq]; rfl, by rw [heq]; rfl, by rw [heq]; exact ⟨rfl, rfl⟩⟩
  | durable d =>
    obtain ⟨subject, hash, length, newId⟩ := taken rfl
    obtain ⟨wire, clear, -, honce⟩ := DurableStore.once_of_yields
      (DurableStore.insertAttempt_yields_new subject hash length newId newHash) ready
    exact DurableStore.carriesOut_of_ok clear honce rfl

/-- **A link is made**, or nothing if there is a successor already; in a database the new one has to
    be a row of the table. -/
theorem link {id successor : Uuid} (ready : s.IsReady)
    (known : s.kind = .durable → s.rows.hasId successor) :
    s.CarriesOut (.link id successor) (s.rows.any (Row.unlinked id))
      (s.kind.change (Row.unlinked id) (fun r => { r with replacedBy := some successor })
        s.rows) := by
  cases s with
  | memory m =>
    have hperform : m.perform (.link id successor) = _ := MemoryStore.perform_of_sound rfl ready.2
    refine ⟨?_, ?_, ?_⟩ <;> simp only [perform, hperform]
    · rfl
    · rfl
    · exact ⟨ready.1, rfl⟩
  | durable d =>
    obtain ⟨wire, clear, -, honce⟩ :=
      DurableStore.once_of_yields (DurableStore.linkAttempt_yields_known (known rfl)) ready
    exact DurableStore.carriesOut_of_ok clear honce rfl

end AnyStore.IsReady

/-! ## 2. Programs -/

namespace Program

variable {α β : Type}

/-- The store of a world carries out a call, and the draws stay as they are. -/
theorem answer_of_carriesOut {w : World AnyStore} {call : StoreCall} {answer : call.Answer}
    {after : Table} (h : w.store.CarriesOut call answer after) :
    ∃ w' : World AnyStore, Program.answer w (.store call) = (.ok (.ok answer), w') ∧
      w'.store.IsReady ∧ w'.store.kind = w.store.kind ∧ w'.store.rows = after ∧
        w'.draws = w.draws := by
  have hperform : TokenStore.perform w.store call = w.store.perform call := rfl
  refine ⟨{ w with
    store := (w.store.perform call).store, log := w.log ++ (w.store.perform call).events }, ?_,
    h.ready, w.store.kind_perform call, h.rows, rfl⟩
  simp only [Program.answer, hperform, h.outcome]

/-- **The program goes through** on every ready store of the kind: from that table and those draws
    to that value, that table and those draws. -/
def Goes (k : StoreKind) (rows : Table) (draws : Draws) (p : Program α) (value : α)
    (after : Table) (draws' : Draws) : Prop :=
  ∀ w : World AnyStore, w.store.IsReady → w.store.kind = k → w.store.rows = rows →
    w.draws = draws → ∃ w' : World AnyStore, p.run w = (.done value, w') ∧ w'.store.IsReady ∧
      w'.store.kind = k ∧ w'.store.rows = after ∧ w'.draws = draws'

variable {k : StoreKind} {rows mid after : Table} {draws draws₁ draws' : Draws} {p : Program α}

theorem goes_pure (a : α) : (pure a : Program α).Goes k rows draws a rows draws :=
  fun w ready hk hrows hdraws => ⟨w, rfl, ready, hk, hrows, hdraws⟩

theorem goes_bind {f : α → Program β} {a : α} {b : β} (hp : p.Goes k rows draws a mid draws₁)
    (hf : (f a).Goes k mid draws₁ b after draws') :
    (p >>= f).Goes k rows draws b after draws' := by
  intro w ready hk hrows hdraws
  obtain ⟨w₁, hrun, ready₁, hk₁, hrows₁, hdraws₁⟩ := hp w ready hk hrows hdraws
  obtain ⟨w', hrun', h'⟩ := hf w₁ ready₁ hk₁ hrows₁ hdraws₁
  refine ⟨w', ?_, h'⟩
  rw [run_bind, hrun]
  exact hrun'

theorem goes_log {event : Event} {next : Unit → Program α} {a : α}
    (h : (next ()).Goes k rows draws a after draws') :
    (request (.log event) next).Goes k rows draws a after draws' :=
  fun w ready hk hrows hdraws => h { w with log := w.log ++ [event] } ready hk hrows hdraws

theorem goes_secret {next : Secret → Program α} {a : α}
    (h : (next draws.secret.1).Goes k rows draws.secret.2 a after draws') :
    (request .secret next).Goes k rows draws a after draws' := by
  rintro w ready hk hrows rfl
  exact h { w with draws := w.draws.secret.2 } ready hk hrows rfl

theorem goes_uuid {next : Uuid → Program α} {a : α}
    (h : (next draws.uuid.1).Goes k rows draws.uuid.2 a after draws') :
    (request .uuid next).Goes k rows draws a after draws' := by
  rintro w ready hk hrows rfl
  exact h { w with draws := w.draws.uuid.2 } ready hk hrows rfl

/-- A clock that shows an instant is read without a request. -/
theorem now_bind {clock : Clock} {now : Instant} (shown : clock.now = .ok now)
    (f : Instant → Program α) : (Program.now clock >>= f) = f now := by
  simp only [Program.now, shown, pure_bind]

theorem goes_now_bind {clock : Clock} {now : Instant} {f : Instant → Program α} {a : α}
    (shown : clock.now = .ok now) (h : (f now).Goes k rows draws a after draws') :
    (Program.now clock >>= f).Goes k rows draws a after draws' := by
  rw [now_bind shown]
  exact h

/-- A call that the store carries out. -/
theorem goes_call {call : StoreCall} {next : Except Failure call.Answer → Program α}
    {answer : call.Answer} {a : α}
    (carried : ∀ s : AnyStore, s.IsReady → s.kind = k → s.rows = rows →
      s.CarriesOut call answer mid)
    (h : (next (.ok answer)).Goes k mid draws a after draws') :
    (request (.store call) next).Goes k rows draws a after draws' := by
  intro w ready hk hrows hdraws
  obtain ⟨w₁, hanswer, ready₁, hk₁, hrows₁, hdraws₁⟩ :=
    answer_of_carriesOut (carried w.store ready hk hrows)
  obtain ⟨w', hrun, h'⟩ := h w₁ ready₁ (hk₁.trans hk) hrows₁ (hdraws₁.trans hdraws)
  refine ⟨w', ?_, h'⟩
  simp only [run, hanswer]
  exact hrun

theorem goes_store_bind {call : StoreCall} {f : call.Answer → Program α} {answer : call.Answer}
    {a : α} (carried : ∀ s : AnyStore, s.IsReady → s.kind = k → s.rows = rows →
      s.CarriesOut call answer mid)
    (h : (f answer).Goes k mid draws a after draws') :
    (store call >>= f).Goes k rows draws a after draws' :=
  goes_call carried h

end Program

/-! ## 3. Services -/

/-- The next secret has a hash that no row has, and the next identifier is no row's. -/
def Draws.IsFresh (d : Draws) (rows : Table) : Prop :=
  rows.hasHash (hashOf d.secret.1.token) = false ∧ rows.hasId d.uuid.1 = false

instance (d : Draws) (rows : Table) : Decidable (d.IsFresh rows) :=
  inferInstanceAs (Decidable (_ ∧ _))

theorem Draws.IsFresh.evolves {d : Draws} {rows later : Table} (h : d.IsFresh rows)
    (hrows : List.Forall₂ Row.Evolves rows later) : d.IsFresh later := by
  refine ⟨Table.hasHash_eq_false_iff.mpr fun s hs => ?_,
    Table.hasId_eq_false_iff.mpr fun s hs => ?_⟩
  · obtain ⟨r, hr, hrs⟩ := Table.exists_mem_of_forall₂ hrows hs
    rw [hrs.hash]
    exact Table.hasHash_eq_false_iff.mp h.1 r hr
  · obtain ⟨r, hr, hrs⟩ := Table.exists_mem_of_forall₂ hrows hs
    rw [hrs.id]
    exact Table.hasId_eq_false_iff.mp h.2 r hr

namespace Service

open Program

variable {k : StoreKind} {rows : Table} {draws : Draws} {policy : Policy}

/-- What a store is given for the next draws. -/
def drawnToken (draws : Draws) (subject : String) (family : Uuid) (now expiresAt : Instant) :
    NewToken :=
  newToken subject family now expiresAt draws.secret.1 draws.uuid.1

/-- What a caller is given for a new row. -/
def issuedFor (draws : Draws) (row : Row) : IssuedToken :=
  { token := draws.secret.1.token, id := row.id, family := row.family, expiresAt := row.expiresAt }

theorem issueWithin_goes {subject : String} {family : Uuid} {now expiry : Instant} (left : Nat)
    {number : Nat} (kept : k = .durable → Keepable subject)
    (expires : policy.expiresAt? now = some expiry) (fresh : draws.IsFresh rows) :
    let new := k.keepRow (drawnToken draws subject family now expiry).row
    (issueWithin policy subject family now (left + 1) number).Goes k rows draws
      (issuedFor draws new) (rows ++ [new]) draws.secret.2.uuid.2 := by
  intro new
  have carried (s : AnyStore) (ready : s.IsReady) (hk : s.kind = k) (hrows : s.rows = rows) :
      s.CarriesOut (.insert (drawnToken draws subject family now expiry)) new (rows ++ [new]) := by
    subst hk hrows
    exact ready.insert fresh.1 fun hk =>
      ⟨kept hk, nul_not_mem_hashOf _, length_hashOf _, fresh.2⟩
  refine goes_secret (goes_uuid ?_)
  rw [expires]
  exact goes_call carried (goes_log (goes_pure _))

/-- **An issue goes through.** -/
theorem issue_goes {subject : String} {family : Uuid} {now expiry : Instant}
    (named : Text.isBlank subject = false) (kept : k = .durable → Keepable subject)
    (expires : policy.expiresAt? now = some expiry) (fresh : draws.IsFresh rows) :
    let new := k.keepRow (drawnToken draws subject family now expiry).row
    (issue policy subject (some family) now).Goes k rows draws
      (issuedFor draws new) (rows ++ [new]) draws.secret.2.uuid.2 := by
  intro new
  refine goes_log ?_
  simp only [named, Bool.false_eq_true, if_false]
  exact issueWithin_goes 2 kept expires fresh

/-- A login goes through as an issue to the family that it draws first. -/
theorem login_goes {subject : String} {now expiry : Instant}
    (named : Text.isBlank subject = false) (kept : k = .durable → Keepable subject)
    (expires : policy.expiresAt? now = some expiry) (fresh : draws.uuid.2.IsFresh rows) :
    let new := k.keepRow (drawnToken draws.uuid.2 subject draws.uuid.1 now expiry).row
    (issue policy subject none now).Goes k rows draws
      (issuedFor draws.uuid.2 new) (rows ++ [new]) draws.uuid.2.secret.2.uuid.2 := by
  intro new
  refine goes_log ?_
  simp only [named, Bool.false_eq_true, if_false]
  exact goes_uuid (issueWithin_goes 2 kept expires fresh)

/-- A token that the store accepts is consumed. -/
theorem consume_goes {token : String} {clock : Clock} {row seen : Row} {kind : ConsumeKind}
    {now : Instant} {mid : Table} (shown : clock.now = .ok now)
    (found : rows.byHash? (hashOf token) = some row)
    (obeyed : k.obey rows row now (row.judge now policy) = some (.accepted seen kind, mid)) :
    (consume policy token clock).Goes k rows draws
      { id := seen.id, subject := seen.subject, family := seen.family, kind } mid draws := by
  have carried (s : AnyStore) (ready : s.IsReady) (hk : s.kind = k) (hrows : s.rows = rows) :
      s.CarriesOut (.consume (hashOf token) clock policy) (.accepted seen kind) mid := by
    subst hk hrows
    exact ready.consume shown found obeyed
  exact goes_log (goes_store_bind carried (goes_log (goes_pure _)))

end Service

/-- What is accepted is the presented row or that row with its stamps; the other rows evolve in
    their places. -/
theorem StoreKind.evolves_of_obey {k : StoreKind} {rows mid : Table} {row seen : Row}
    {now : Instant} {verdict : Verdict} {kind : ConsumeKind}
    (obeyed : k.obey rows row now verdict = some (.accepted seen kind, mid)) :
    row.Evolves seen ∧ List.Forall₂ Row.Evolves rows mid := by
  cases verdict with
  | refuse | reuse | overflow => cases obeyed
  | firstUse c g =>
    cases obeyed
    exact ⟨row.evolves_stamp c g,
      k.forall₂_change Row.Evolves.refl (fun r _ => r.evolves_stamp _ _) rows⟩
  | withinGrace =>
    cases obeyed
    exact ⟨Row.Evolves.refl row, List.forall₂_same.mpr fun r _ => Row.Evolves.refl r⟩

namespace Service

open Program

variable {k : StoreKind} {rows : Table} {draws : Draws} {policy : Policy}

/-- The table after a rotation of a row: the successor stands at its end, and is linked to the row
    unless an earlier one is. -/
def rotated (k : StoreKind) (id : Uuid) (new : Row) (rows : Table) : Table :=
  k.change (Row.unlinked id) (fun r => { r with replacedBy := some new.id }) (rows ++ [new])

/-- **A rotation goes through** of a token that the store accepts. -/
theorem rotate_goes {token : String} {clock : Clock} {row seen : Row} {kind : ConsumeKind}
    {now expiry : Instant} {mid : Table} (shown : clock.now = .ok now)
    (found : rows.byHash? (hashOf token) = some row)
    (obeyed : k.obey rows row now (row.judge now policy) = some (.accepted seen kind, mid))
    (named : Text.isBlank row.subject = false) (kept : k = .durable → Keepable row.subject)
    (expires : policy.expiresAt? now = some expiry) (fresh : draws.IsFresh rows) :
    let new := k.keepRow (drawnToken draws row.subject row.family now expiry).row
    (rotate policy token clock).Goes k rows draws
      { issued := issuedFor draws new, subject := row.subject, previousId := row.id }
      (rotated k row.id new mid) draws.secret.2.uuid.2 := by
  intro new
  obtain ⟨hseen, hmid⟩ := k.evolves_of_obey obeyed
  have carried (s : AnyStore) (ready : s.IsReady) (hk : s.kind = k)
      (hrows : s.rows = mid ++ [new]) :
      s.CarriesOut (.link row.id new.id) (List.any (mid ++ [new]) (Row.unlinked row.id))
        (rotated k row.id new mid) := by
    subst hk
    have known : s.rows.hasId new.id := by simp [hrows, Table.hasId]
    have hlink : s.CarriesOut (.link row.id new.id) _ _ := ready.link fun _ => known
    rwa [hrows] at hlink
  refine goes_bind (consume_goes shown found obeyed) (goes_now_bind shown ?_)
  rw [hseen.subject, hseen.family, hseen.id]
  refine goes_bind (issue_goes named kept expires (fresh.evolves hmid)) ?_
  refine goes_store_bind carried ?_
  cases List.any (mid ++ [new]) (Row.unlinked row.id) with
  | true => exact goes_pure _
  | false => exact goes_log (goes_pure _)

end Service

/-! ## 4. Rows at a place -/

/-- The first row of a hash is found by it. -/
theorem Table.byHash?_append_cons {front back : Table} {row : Row} {hash : String}
    (ahead : ∀ r ∈ front, r.hash ≠ hash) (hrow : row.hash = hash) :
    Table.byHash? (front ++ row :: back) hash = some row := by
  have absent : front.find? (fun r => r.hash = hash) = none := by
    rw [List.find?_eq_none]
    intro r hr
    simpa using ahead r hr
  rw [Table.byHash?, List.find?_append, absent, Option.none_or, List.find?_cons_of_pos]
  simpa using hrow

/-- The row with a successor, which is the given one unless there is one already. -/
def Row.succeededBy (successor : Uuid) (r : Row) : Row :=
  { r with replacedBy := r.replacedBy.or (some successor) }

/-- A link to a row whose cell is empty, and to no other. -/
theorem Row.succeededBy_eq (successor : Uuid) (r : Row) :
    r.succeededBy successor =
      if r.unlinked r.id then { r with replacedBy := some successor } else r := by
  cases h : r.replacedBy with
  | none => simp [succeededBy, unlinked, h]
  | some y =>
    simp only [succeededBy, unlinked, h, Option.isNone_some, Bool.and_false, Option.some_or]
    rw [if_neg Bool.false_ne_true, ← h]

theorem Row.evolves_succeededBy (successor : Uuid) (r : Row) :
    r.Evolves (r.succeededBy successor) := by
  rw [Row.succeededBy_eq]
  by_cases hr : r.unlinked r.id
  · simp only [Row.unlinked, Bool.and_eq_true, Option.isNone_iff_eq_none] at hr
    rw [if_pos (by simp [Row.unlinked, hr.2])]
    exact Row.evolves_link hr.2 successor
  · rw [if_neg hr]
    exact Row.Evolves.refl r

namespace StoreKind

variable {chosen : Row → Bool} {change : Row → Row} {front back : Table} {row : Row}

/-- What is written to the one row that is chosen. -/
theorem change_append_cons (k : StoreKind) (hfront : ∀ r ∈ front, chosen r = false)
    (hrow : chosen row) (hback : k = .durable → ∀ r ∈ back, chosen r = false) :
    k.change chosen change (front ++ row :: back) = front ++ change row :: back := by
  cases k with
  | memory => exact Table.changeFirst_append_cons hfront hrow
  | durable => exact Table.changeAll_append_cons hfront hrow (hback rfl)

theorem presented_eq_false {k : StoreKind} {r : Row} (apart : r.id ≠ row.id ∧ r.hash ≠ row.hash) :
    k.presented row r = false := by
  cases k with
  | memory => simp [presented, apart.2]
  | durable => simp [presented, apart.1]

/-- What the first presentation of a row does, if no other row has its identifier or its hash. -/
theorem obey_firstUse_append_cons (k : StoreKind)
    (hfront : ∀ r ∈ front, r.id ≠ row.id ∧ r.hash ≠ row.hash)
    (hback : ∀ r ∈ back, r.id ≠ row.id ∧ r.hash ≠ row.hash) (now c g : Instant) :
    k.obey (front ++ row :: back) row now (.firstUse c g) =
      some (.accepted (row.stamp c g) .first,
        front ++ row.stamp (k.keep c) (k.keep g) :: back) := by
  have hself : k.presented row row := by cases k <;> simp [presented]
  rw [obey, k.change_append_cons (fun r hr => presented_eq_false (hfront r hr)) hself
    fun _ r hr => presented_eq_false (hback r hr)]

/-- What is written to a row that no chosen one stands before. -/
theorem exists_change_append_cons (k : StoreKind) (hfront : ∀ r ∈ front, chosen r = false) :
    ∃ back', k.change chosen change (front ++ row :: back) =
      front ++ (if chosen row then change row else row) :: back' := by
  have hkept : k.change chosen change (front ++ row :: back) =
      front ++ k.change chosen change (row :: back) := by
    cases k with
    | memory =>
      change Table.changeFirst chosen change _ = front ++ Table.changeFirst chosen change _
      induction front with
      | nil => rfl
      | cons r rest ih =>
        have hr := hfront r List.mem_cons_self
        have hrest := ih fun s hs => hfront s (List.mem_cons_of_mem r hs)
        simp [Table.changeFirst, hr, hrest]
    | durable =>
      have hsame : Table.changeAll chosen change front = front :=
        StoreKind.durable.change_of_none hfront
      change Table.changeAll chosen change _ = front ++ Table.changeAll chosen change _
      rw [Table.changeAll, List.map_append, ← Table.changeAll, hsame, Table.changeAll]
  rw [hkept]
  cases k with
  | memory =>
    by_cases hrow : chosen row
    · exact ⟨back, by simp [StoreKind.change, Table.changeFirst, hrow]⟩
    · exact ⟨back.changeFirst chosen change, by simp [StoreKind.change, Table.changeFirst, hrow]⟩
  | durable => exact ⟨back.changeAll chosen change, rfl⟩

/-- A row at the end that is not chosen stays there. -/
theorem change_concat (k : StoreKind) {rows : Table} {new : Row} (hnew : chosen new = false) :
    k.change chosen change (rows ++ [new]) = k.change chosen change rows ++ [new] := by
  cases k with
  | memory =>
    change Table.changeFirst chosen change _ = Table.changeFirst chosen change rows ++ [new]
    induction rows with
    | nil => simp [Table.changeFirst, hnew]
    | cons r rest ih =>
      by_cases hr : chosen r
      · simp [Table.changeFirst, hr]
      · simp [Table.changeFirst, hr, ih]
  | durable => simp [StoreKind.change, Table.changeAll, hnew]

/-- A link lets the rows evolve in their places. -/
theorem evolves_linked (k : StoreKind) (id successor : Uuid) (rows : Table) :
    List.Forall₂ Row.Evolves rows
      (k.change (Row.unlinked id) (fun r => { r with replacedBy := some successor }) rows) := by
  refine k.forall₂_change Row.Evolves.refl (fun r hr => Row.evolves_link ?_ _) rows
  simp only [Row.unlinked, Bool.and_eq_true, Option.isNone_iff_eq_none] at hr
  exact hr.2

/-- What a link does to the one row of its identifier that may be without a successor. -/
theorem link_append_cons (k : StoreKind) {successor : Uuid}
    (hfront : ∀ r ∈ front, Row.unlinked row.id r = false)
    (hback : ∀ r ∈ back, Row.unlinked row.id r = false) :
    k.change (Row.unlinked row.id) (fun r => { r with replacedBy := some successor })
      (front ++ row :: back) = front ++ row.succeededBy successor :: back := by
  rw [Row.succeededBy_eq]
  by_cases hrow : row.unlinked row.id
  · rw [if_pos hrow]
    exact k.change_append_cons hfront hrow fun _ => hback
  · rw [if_neg hrow]
    refine k.change_of_none fun r hr => ?_
    rcases List.mem_append.mp hr with hr | hr
    · exact hfront r hr
    · rcases List.mem_cons.mp hr with rfl | hr
      · exact eq_false_of_ne_true hrow
      · exact hback r hr

end StoreKind

/-! ## 5. Steps -/

namespace Session

open Program

/-- **A step of a program that goes through** comes to what the program does. -/
theorem take_of_goes {s : Session} {step : Step} {work : Work} {value : Value} {after : Table}
    {draws : Draws} (ready : (s.world step).store.IsReady) (asked : step.command = .work work)
    (h : (work.program s.settings step.clock).Goes s.store.kind s.store.rows s.draws value after
      draws) :
    (s.take step).1.outcome = .done value ∧ (s.take step).2.store.IsReady ∧
      (s.take step).2.store.kind = s.store.kind ∧ (s.take step).2.store.rows = after ∧
        (s.take step).2.settings = s.settings := by
  obtain ⟨w, hrun, ready', hk, hrows, -⟩ := h (s.world step) ready
    (AnyStore.kind_withFaults _ _) (AnyStore.rows_withFaults _ _) rfl
  obtain ⟨command, clock, faults⟩ := step
  cases asked
  simp only [world] at hrun
  simp only [take, carryOut, hrun]
  exact ⟨trivial, ready', hk, hrows, trivial⟩

/-- The token that a step returned. -/
def returned? : Outcome Value → Option String
  | .done (.issued issued) => some issued.token
  | .done (.rotated rotated) => some rotated.issued.token
  | _ => none

/-- The step that rotates a token at an instant, with no fault waiting. -/
def Step.rotating (token : String) (now : Instant) : Step where
  command := .work (.rotate token)
  clock := .fixed now

/-- **A step that rotates a token** that the store accepts returns a successor of the next draws. -/
theorem take_rotating {s : Session} {token : String} {now expiry : Instant} {row seen : Row}
    {kind : ConsumeKind} {mid : Table} (ready : (s.store.withFaults []).IsReady)
    (found : s.store.rows.byHash? (hashOf token) = some row)
    (obeyed : s.store.kind.obey s.store.rows row now (row.judge now s.settings.policy) =
      some (.accepted seen kind, mid))
    (named : Text.isBlank row.subject = false)
    (kept : s.store.kind = .durable → Keepable row.subject)
    (expires : s.settings.policy.expiresAt? now = some expiry)
    (fresh : s.draws.IsFresh s.store.rows) :
    let new := s.store.kind.keepRow
      (Service.drawnToken s.draws row.subject row.family now expiry).row
    let next := s.take (.rotating token now)
    next.1.outcome = .done (.rotated
      { issued := Service.issuedFor s.draws new, subject := row.subject, previousId := row.id }) ∧
      next.2.store.IsReady ∧ next.2.store.kind = s.store.kind ∧
        next.2.store.rows = Service.rotated s.store.kind row.id new mid ∧
          next.2.settings = s.settings := by
  intro new next
  have hready : (s.world (.rotating token now)).store.IsReady := ready
  have hgoes := Service.rotate_goes (Clock.now_fixed now) found obeyed named kept expires fresh
  exact take_of_goes hready rfl (goes_bind hgoes (goes_pure _))

end Session

end TokenRotation

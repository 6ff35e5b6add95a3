import TokenRotation.Proofs.Undisturbed

/-!
# Calm stores

Where no fault waits on the wire and no lock is poisoned, all that matters of a store is its kind,
its rows, what the server says, and how many insertions are bound to end in a collision. A store
made of these alone answers every call at once, by what the table and the call decide. Whatever a
program comes to on a store of either kind without faults, it comes to on the calm store: the same
outcome, the same log, the same draws and the same rows. So what is said of steps without faults is
said of runs on calm stores.

* `CalmStore` -- a kind, a table, a server, and the collisions that are due;
* `AnyStore.perform_calm` -- a store without faults does about a call what the calm store does;
* `Program.run_calm` -- **a run without faults** is the run on the calm store;
* `Session.take_calm` -- so is a step without faults.
-/

namespace TokenRotation

open Store

/-! ## 1. Calm stores -/

/-- A store that nothing disturbs: its kind, its rows, what is said at the other end of its wire,
    and how many insertions will be answered with a collision. -/
structure CalmStore where
  kind : StoreKind
  rows : Table
  server : Server := {}
  due : Nat := 0

namespace CalmStore

/-- Answers a call as the table and the call decide. -/
def respond (s : CalmStore) (call : StoreCall) : Performed CalmStore call.Answer :=
  let done := s.kind.respond s.server s.rows call
  { outcome := done.outcome, events := done.events, store := { s with rows := done.store } }

/-- Answers a call; an insertion that is bound to end in a collision does so. -/
def perform (s : CalmStore) : (call : StoreCall) → Performed CalmStore call.Answer
  | .insert token =>
    match s.due with
    | due + 1 => { outcome := .failed .hashCollision, store := { s with due } }
    | 0 => s.respond (.insert token)
  | call => s.respond call

instance : TokenStore CalmStore where
  rows := CalmStore.rows
  perform := CalmStore.perform

theorem perform_of_ne_insert (s : CalmStore) {call : StoreCall}
    (reads : ∀ token, call ≠ .insert token) : s.perform call = s.respond call := by
  cases call with
  | insert token => exact absurd rfl (reads token)
  | _ => rfl

/-- A call whose texts can be kept. -/
theorem respond_of_keepable {s : CalmStore} {call : StoreCall}
    (kept : s.kind = .durable → ∀ text ∈ call.texts, Keepable text) :
    s.respond call =
      { outcome := (s.kind.undertake s.rows call).1
        store := { s with rows := (s.kind.undertake s.rows call).2 } } := by
  simp only [respond, StoreKind.respond_of_keepable kept]

end CalmStore

/-! ## 2. Stores without faults -/

namespace AnyStore

/-- The store can be reached, and no fault waits on the wire. -/
def IsCalm : AnyStore → Prop
  | .memory m => m.poisoned = false
  | .durable d => d.wire.IsClear

/-- What matters of a store without faults. -/
def calm : AnyStore → CalmStore
  | .memory m => { kind := .memory, rows := m.rows, due := m.forcedCollisions }
  | .durable d => { kind := .durable, rows := d.rows, server := d.wire.server }

@[simp] theorem rows_calm (s : AnyStore) : s.calm.rows = s.rows := by
  cases s <;> rfl

@[simp] theorem kind_calm (s : AnyStore) : s.calm.kind = s.kind := by
  cases s <;> rfl

@[simp] theorem server_calm (s : AnyStore) : s.calm.server = s.server := by
  cases s <;> rfl

@[simp] theorem calm_withFaults (faults : List Fault) (s : AnyStore) :
    (s.withFaults faults).calm = s.calm := by
  cases s <;> rfl

/-- A store that can be reached is calm in a step without faults. -/
theorem isCalm_withFaults_nil {s : AnyStore} (reachable : s.isReachable) :
    (s.withFaults []).IsCalm := by
  cases s with
  | memory m => exact isReachable_memory.mp reachable
  | durable d => exact ⟨reachable, rfl⟩

theorem IsCalm.isReachable {s : AnyStore} (h : s.IsCalm) : s.isReachable := by
  cases s with
  | memory m => exact isReachable_memory.mpr h
  | durable d => exact h.1

end AnyStore

namespace AnyStore

/-- What is undisturbed is answered as on the calm store, if the same collisions stay due. -/
theorem Undisturbed.respond_calm {s : AnyStore} {call : StoreCall} (h : s.Undisturbed call)
    (due : (s.perform call).store.calm.due = s.calm.due) :
    s.calm.respond call =
      { outcome := (s.perform call).outcome
        events := (s.perform call).events
        store := (s.perform call).store.calm } := by
  obtain ⟨houtcome, hevents, hrows, -⟩ := h.responds
  have hstore : (s.perform call).store.calm =
      { kind := s.kind, rows := (s.kind.respond s.server s.rows call).store, server := s.server
        due := s.calm.due } := by
    change CalmStore.mk (s.perform call).store.calm.kind (s.perform call).store.calm.rows
      (s.perform call).store.calm.server (s.perform call).store.calm.due = _
    rw [kind_calm, kind_perform, rows_calm, hrows, server_calm, server_perform, due]
  rw [hstore, houtcome, hevents, CalmStore.respond, kind_calm, rows_calm, server_calm]

/-- A call does not take a collision that is not due. -/
theorem due_perform {m : MemoryStore} {call : StoreCall} (undue : m.collides call = false)
    (sound : m.poisoned = false) :
    (m.perform call).store.forcedCollisions = m.forcedCollisions := by
  rw [MemoryStore.perform_of_sound undue sound, MemoryStore.work_eq_undertake]

/-- **A store without faults** does about a call what the calm store does. -/
theorem perform_calm {s : AnyStore} (h : s.IsCalm) (call : StoreCall) :
    s.calm.perform call =
      { outcome := (s.perform call).outcome
        events := (s.perform call).events
        store := (s.perform call).store.calm } := by
  cases s with
  | durable d =>
    have undisturbed : (AnyStore.durable d).Undisturbed call := h
    have hrespond : (AnyStore.durable d).calm.perform call =
        (AnyStore.durable d).calm.respond call := by
      cases call <;> rfl
    rw [hrespond]
    exact undisturbed.respond_calm rfl
  | memory m =>
    cases due : m.collides call with
    | false =>
      have hrespond : (AnyStore.memory m).calm.perform call =
          (AnyStore.memory m).calm.respond call := by
        cases call with
        | insert token =>
          have undue : m.forcedCollisions = 0 := by simpa [MemoryStore.collides] using due
          simp only [CalmStore.perform, calm, undue]
        | _ => rfl
      rw [hrespond]
      exact Undisturbed.respond_calm ⟨due, h⟩ (due_perform due h)
    | true =>
      cases call with
      | insert token =>
        obtain ⟨rows, _ | due', poisoned⟩ := m
        · cases due
        · rfl
      | _ => cases due

/-- A store without faults stays so, unless a call is broken off in memory. -/
theorem IsCalm.perform {s : AnyStore} (h : s.IsCalm) {call : StoreCall}
    (lasting : s.kind = .durable ∨ (s.perform call).outcome.isAborted = false) :
    (s.perform call).store.IsCalm := by
  cases s with
  | memory m => exact isReachable_memory.mp (isReachable_perform h.isReachable lasting)
  | durable d =>
    have undisturbed : (AnyStore.durable d).Undisturbed call := h
    exact undisturbed.responds.ready h lasting

end AnyStore

/-! ## 3. Programs -/

namespace Program

variable {α : Type}

/-- What matters of a world without faults. -/
def World.calm (w : World AnyStore) : World CalmStore :=
  { store := w.store.calm, draws := w.draws, log := w.log }

/-- A request in a world without faults. -/
theorem answer_calm {w : World AnyStore} (h : w.store.IsCalm) (r : Request) :
    answer w.calm r = ((answer w r).1, (answer w r).2.calm) := by
  cases r with
  | secret | uuid | log => rfl
  | store call =>
    have hperform := AnyStore.perform_calm h call
    have hleft : TokenStore.perform w.calm.store call = w.store.calm.perform call := rfl
    have hright : TokenStore.perform w.store call = w.store.perform call := rfl
    simp only [answer, hleft, hright, hperform]
    cases (w.store.perform call).outcome <;> rfl

theorem isCalm_answer {w w' : World AnyStore} (h : w.store.IsCalm) {r : Request}
    {reply : r.Reply} (replied : answer w r = (.ok reply, w')) : w'.store.IsCalm := by
  cases r with
  | store call =>
    have hstore := store_answer w call
    have unbroken := @isAborted_of_replied w call ⟨reply, by rw [replied]⟩
    rw [replied] at hstore
    rw [hstore]
    exact h.perform (.inr unbroken)
  | secret | uuid | log =>
    cases replied
    exact h

/-- **A run without faults** is the run on the calm store. -/
theorem run_calm (p : Program α) {w : World AnyStore} (h : w.store.IsCalm) :
    p.run w.calm = ((p.run w).1, (p.run w).2.calm) := by
  induction p generalizing w with
  | finish outcome => rfl
  | request r next ih =>
    have hanswer := answer_calm h r
    rcases hw : answer w r with ⟨cause | reply, w'⟩
    · rw [hw] at hanswer
      simp only [run, hanswer, hw]
    · rw [hw] at hanswer
      simp only [run, hanswer, hw]
      exact ih reply (isCalm_answer h hw)

/-- On a calm store, a call that is no insertion and whose texts can be kept comes to what the store
    undertakes. -/
theorem run_store_bind_calm {w : World CalmStore} (call : StoreCall) {f : call.Answer → Program α}
    {answer : call.Answer} {after : Table} (reads : ∀ token, call ≠ .insert token)
    (kept : w.store.kind = .durable → ∀ text ∈ call.texts, Keepable text)
    (undertaken : w.store.kind.undertake w.store.rows call = (.done answer, after)) :
    (store call >>= f).run w =
      (f answer).run { w with store := { w.store with rows := after } } := by
  have hperform : TokenStore.perform w.store call =
      { outcome := .done answer, store := { w.store with rows := after } } := by
    change w.store.perform call = _
    rw [CalmStore.perform_of_ne_insert _ reads, CalmStore.respond_of_keepable kept, undertaken]
  rw [run_bind]
  simp only [store, run, Program.answer, hperform, List.append_nil, run_pure]

end Program

/-! ## 4. Steps -/

namespace Session

/-- The step that does a piece of work at an instant, with no fault waiting. -/
def Step.doing (work : Work) (now : Instant) : Step where
  command := .work work
  clock := .fixed now

/-- What the programs of a step without faults meet, as far as it matters. -/
def calm (s : Session) : Program.World CalmStore := { store := s.store.calm, draws := s.draws }

@[simp] theorem rows_calm (s : Session) : s.calm.store.rows = s.store.rows := s.store.rows_calm

@[simp] theorem kind_calm (s : Session) : s.calm.store.kind = s.store.kind := s.store.kind_calm

/-- **A step without faults** is the run of its program on the calm store. -/
structure TakesCalmly (s : Session) (taken : Report × Session)
    (ended : Outcome Value × Program.World CalmStore) : Prop where
  outcome : taken.1.outcome = ended.1
  log : taken.1.log = ended.2.log
  store : taken.2.store.calm = ended.2.store
  draws : taken.2.draws = ended.2.draws
  /-- The store can be reached still, unless the step was broken off in memory. -/
  reachable : s.store.kind = .durable ∨ ended.1.isAborted = false → taken.2.store.isReachable
  settings : taken.2.settings = s.settings

namespace TakesCalmly

variable {s : Session} {taken : Report × Session} {ended : Outcome Value × Program.World CalmStore}

theorem rows (h : s.TakesCalmly taken ended) : taken.2.store.rows = ended.2.store.rows := by
  rw [← h.store, AnyStore.rows_calm]

theorem kind (h : s.TakesCalmly taken ended) : taken.2.store.kind = ended.2.store.kind := by
  rw [← h.store, AnyStore.kind_calm]

end TakesCalmly

theorem take_calm {s : Session} (reachable : s.store.isReachable) (work : Work) (clock : Clock) :
    s.TakesCalmly (s.take { command := .work work, clock })
      ((work.program s.settings clock).run s.calm) := by
  have hcalm : (s.world { command := .work work, clock }).store.IsCalm :=
    AnyStore.isCalm_withFaults_nil reachable
  have hworld : (s.world { command := .work work, clock }).calm = s.calm := by
    simp only [world, Program.World.calm, calm, AnyStore.calm_withFaults]
  have hrun := Program.run_calm (work.program s.settings clock) hcalm
  rw [hworld] at hrun
  rw [hrun]
  exact ⟨rfl, rfl, rfl, rfl,
    @isReachable_take s { command := .work work, clock } reachable, rfl⟩

end Session

end TokenRotation

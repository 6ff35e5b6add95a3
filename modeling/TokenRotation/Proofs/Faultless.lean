import TokenRotation.Proofs.Deeds
import TokenRotation.Secret

/-!
# Stores without faults

A durable store answers as long as its server can be reached, no fault waits on the wire, and no
text is sent that a database cannot keep, and a hash is always a text that can be sent. A store in
memory answers as long as its lock is not poisoned, which is done by work that is broken off.

* `Store.Attempt.Goes` -- an attempt that goes through on every clear wire;
* `AnyStore.perform_consume_done` -- a presentation is answered;
* `Session.isReachable_take`, `Session.isReachable_of_after` -- a store stays reachable until a step
  is broken off in memory, and is then never reachable again.
-/

namespace TokenRotation

/-! ## 1. Hashes as texts -/

theorem Bytes.Hex.nul_not_mem_encode (bytes : List UInt8) : '\x00' ∉ encode bytes := by
  have digits : ∀ n : Fin 16, '\x00' ≠ digit n := by decide
  induction bytes with
  | nil => exact List.not_mem_nil
  | cons byte rest ih =>
    have hb := byte.toNat_lt
    have hhigh := digits ⟨byte.toNat / 16, by omega⟩
    have hlow := digits ⟨byte.toNat % 16, by omega⟩
    simp only [encode, List.mem_cons, not_or]
    exact ⟨hhigh, hlow, ih⟩

/-- A hash has no character that a database cannot keep. -/
theorem nul_not_mem_hashOf (token : String) : '\x00' ∉ (hashOf token).toList := by
  simp only [hashOf, Digest.text, Bytes.Hex.text, String.toList_ofList]
  exact Bytes.Hex.nul_not_mem_encode _

/-! ## 2. Clear wires -/

namespace Store

/-- The server at the other end answers, and no fault waits. -/
def Wire.IsClear (wire : Wire) : Prop := wire.reachable = true ∧ wire.faults = []

namespace Attempt

variable {α β : Type}

/-- **The attempt goes through on every clear wire**, and leaves it clear. -/
def Goes (x : Attempt α) : Prop :=
  ∀ wire : Wire, wire.IsClear → ∃ a wire', x wire = (.ok a, wire') ∧ wire'.IsClear

theorem goes_pure (a : α) : (pure a : Attempt α).Goes := fun wire h => ⟨a, wire, rfl, h⟩

theorem goes_bind {x : Attempt α} {f : α → Attempt β} (hx : x.Goes) (hf : ∀ a, (f a).Goes) :
    (x >>= f).Goes := by
  intro wire h
  obtain ⟨a, wire₁, hfirst, h₁⟩ := hx wire h
  obtain ⟨b, wire₂, hsecond, h₂⟩ := hf a wire₁ h₁
  refine ⟨b, wire₂, ?_, h₂⟩
  rw [bind_of_ok hfirst]
  exact hsecond

theorem goes_now_bind {clock : Clock} {now : Instant} {f : Instant → Attempt β}
    (shown : clock.now = .ok now) (hf : (f now).Goes) : (Attempt.now clock >>= f).Goes := by
  have heq : Attempt.now clock = pure now := by simp only [Attempt.now, shown]
  rw [heq]
  exact hf

theorem goes_send (s : Statement) {texts : List String}
    (kept : ∀ text ∈ texts, '\x00' ∉ text.toList) : (send s texts).Goes := by
  refine goes_bind (fun wire h => ?_) fun _ wire h => ?_
  · unfold openWire
    cases hopen : wire.isOpen with
    | true => exact ⟨(), wire, by simp, h⟩
    | false => exact ⟨(), { wire with isOpen := true }, by simp [h.1, h.2], h⟩
  · have hall : (texts.any fun text => text.toList.contains '\x00') = false := by
      simpa using kept
    exact ⟨(), wire, by simp only [sendOpen, h.2, receive, hall]; rfl, h⟩

/-- **The attempt leaves what is at the other end of the wire** as it was. -/
def Steady (x : Attempt α) : Prop :=
  ∀ wire : Wire, (x wire).2.reachable = wire.reachable ∧ (x wire).2.server = wire.server

theorem steady_pure (a : α) : (pure a : Attempt α).Steady := fun _ => ⟨rfl, rfl⟩

theorem steady_giveUp (t : Trouble) : (giveUp t : Attempt α).Steady := fun _ => ⟨rfl, rfl⟩

theorem steady_refuse (state : String) (constraint : Option String) (s : Statement)
    (texts : List String) : (refuse state constraint s texts : Attempt α).Steady :=
  fun _ => ⟨rfl, rfl⟩

theorem steady_bind {x : Attempt α} {f : α → Attempt β} (hx : x.Steady)
    (hf : ∀ a, (f a).Steady) : (x >>= f).Steady := by
  intro wire
  have hfirst := hx wire
  rcases hwire : x wire with ⟨e | a, wire₁⟩
  · rw [hwire] at hfirst
    rw [bind_of_error hwire]
    exact hfirst
  · rw [hwire] at hfirst
    rw [bind_of_ok hwire]
    obtain ⟨hreachable, hserver⟩ := hf a wire₁
    exact ⟨hreachable.trans hfirst.1, hserver.trans hfirst.2⟩

theorem steady_openWire : openWire.Steady := by
  intro wire
  unfold openWire
  split
  · exact ⟨rfl, rfl⟩
  · split
    · exact ⟨rfl, rfl⟩
    · split
      · split <;> exact ⟨rfl, rfl⟩
      · exact ⟨rfl, rfl⟩

theorem steady_send (s : Statement) (texts : List String) : (send s texts).Steady := by
  refine steady_bind steady_openWire fun _ wire => ?_
  have hreceive : (receive s texts).Steady := by
    unfold receive
    split
    · exact steady_refuse _ _ _ _
    · exact steady_pure _
  unfold sendOpen
  split
  · split
    · exact ⟨rfl, rfl⟩
    · exact hreceive wire
  · exact hreceive wire

theorem steady_now (clock : Clock) : (now clock).Steady := by
  unfold now
  split
  · exact steady_pure _
  · exact steady_giveUp _

end Attempt

end Store

/-! ## 3. The durable store -/

namespace DurableStore

open Store Store.Attempt

variable {rows : Table}

theorem insertAttempt_steady (token : NewToken) : (insertAttempt rows token).Steady := by
  refine steady_bind (steady_send _ _) fun _ => ?_
  split
  · exact steady_refuse _ _ _ _
  · split
    · exact steady_refuse _ _ _ _
    · split
      · exact steady_refuse _ _ _ _
      · exact steady_pure _

theorem consumeAttempt_steady (hash : String) (clock : Clock) (policy : Policy) :
    (consumeAttempt rows hash clock policy).Steady := by
  refine steady_bind (steady_send _ _) fun _ => steady_bind (steady_send _ _) fun _ => ?_
  split
  · exact steady_bind (steady_send _ _) fun _ => steady_pure _
  · refine steady_bind (steady_now _) fun now => ?_
    split
    · exact steady_bind (steady_send _ _) fun _ => steady_pure _
    · exact steady_bind (steady_send _ _) fun _ =>
        steady_bind (steady_send _ _) fun _ => steady_pure _
    · exact steady_bind (steady_send _ _) fun _ => steady_pure _
    · exact steady_bind (steady_send _ _) fun _ =>
        steady_bind (steady_send _ _) fun _ => steady_pure _
    · exact steady_giveUp _

theorem revokeAttempt_steady (texts : List String) (chosen : Row → Bool) (now : Instant) :
    (revokeAttempt rows texts chosen now).Steady :=
  steady_bind (steady_send _ _) fun _ => steady_pure _

theorem linkAttempt_steady (id successor : Uuid) : (linkAttempt rows id successor).Steady := by
  refine steady_bind (steady_send _ _) fun _ => ?_
  split
  · split
    · exact steady_pure _
    · exact steady_refuse _ _ _ _
  · exact steady_pure _

theorem repeating_steady {α : Type} {work : LockedWork} {attempt : Attempt α}
    (h : attempt.Steady) (left number : Nat) (wire : Wire) :
    (repeating work attempt left number wire).wire.reachable = wire.reachable ∧
      (repeating work attempt left number wire).wire.server = wire.server := by
  induction left generalizing number wire with
  | zero => exact h wire
  | succ left ih =>
    have hone := h wire
    rcases hw : attempt wire with ⟨(e | cause) | v, wire₁⟩
    · rw [hw] at hone
      simp only [repeating, hw]
      split
      · obtain ⟨hreachable, hserver⟩ := ih (number + 1) wire₁
        exact ⟨hreachable.trans hone.1, hserver.trans hone.2⟩
      · exact hone
    · rw [hw] at hone
      simp only [repeating, hw]
      exact hone
    · rw [hw] at hone
      simp only [repeating, hw]
      exact hone

theorem settle_wire {α : Type} (d : DurableStore) (a : Attempted (α × Table))
    (failure : DatabaseError → Failure) : (d.settle a failure).store.wire = a.wire := by
  unfold settle
  split <;> rfl

/-- A call leaves what is at the other end of the wire as it was. -/
theorem perform_steady (d : DurableStore) (call : StoreCall) :
    (d.perform call).store.wire.reachable = d.wire.reachable ∧
      (d.perform call).store.wire.server = d.wire.server := by
  have settled {α : Type} {a : Attempted (α × Table)} {failure : DatabaseError → Failure}
      (h : a.wire.reachable = d.wire.reachable ∧ a.wire.server = d.wire.server) :
      (d.settle a failure).store.wire.reachable = d.wire.reachable ∧
        (d.settle a failure).store.wire.server = d.wire.server := by
    rwa [settle_wire]
  cases call with
  | insert token => exact settled (insertAttempt_steady token d.wire)
  | consume hash clock policy =>
    exact settled (repeating_steady (consumeAttempt_steady hash clock policy) _ _ _)
  | revokeFamily family now =>
    exact settled (repeating_steady (revokeAttempt_steady _ _ now) _ _ _)
  | revokeSubject subject now =>
    exact settled (repeating_steady (revokeAttempt_steady _ _ now) _ _ _)
  | link id successor => exact settled (linkAttempt_steady id successor d.wire)
  | getByHash hash =>
    exact settled (steady_bind (steady_send _ _) (fun _ => steady_pure _) d.wire)
  | listFamily family =>
    exact settled (steady_bind (steady_send _ _) (fun _ => steady_pure _) d.wire)

/-- A presentation goes through on a clear wire, whatever is found. -/
theorem consumeAttempt_goes {hash : String} {clock : Clock} {policy : Policy} {now : Instant}
    (kept : '\x00' ∉ hash.toList) (shown : clock.now = .ok now)
    (judged : ∀ row, rows.byHash? hash = some row → row.judge now policy ≠ .overflow) :
    (consumeAttempt rows hash clock policy).Goes := by
  have one (s : Statement) : (send s []).Goes := goes_send s fun _ h => absurd h List.not_mem_nil
  refine goes_bind (one _) fun _ => goes_bind (goes_send _ fun text h => ?_) fun _ => ?_
  · rw [List.mem_singleton.mp h]
    exact kept
  · cases found : rows.byHash? hash with
    | none => exact goes_bind (one _) fun _ => goes_pure _
    | some row =>
      refine goes_now_bind shown ?_
      cases verdict : row.judge now policy with
      | refuse | withinGrace => exact goes_bind (one _) fun _ => goes_pure _
      | firstUse | reuse =>
        exact goes_bind (one _) fun _ => goes_bind (one _) fun _ => goes_pure _
      | overflow => exact absurd verdict (judged row found)

/-- A presentation is answered over a clear wire. -/
theorem perform_consume_done {d : DurableStore} {hash : String} {clock : Clock} {policy : Policy}
    {now : Instant} (clear : d.wire.IsClear) (kept : '\x00' ∉ hash.toList)
    (shown : clock.now = .ok now)
    (judged : ∀ row, d.rows.byHash? hash = some row → row.judge now policy ≠ .overflow) :
    ∃ answer, (d.perform (.consume hash clock policy)).outcome = .done answer := by
  obtain ⟨⟨answer, after⟩, wire, hgoes, -⟩ := consumeAttempt_goes kept shown judged d.wire clear
  refine ⟨answer, ?_⟩
  simp [perform, retried, maxAttempts, repeating, hgoes, settle]

end DurableStore

/-! ## 4. A store of either kind -/

namespace AnyStore

open Store

/-- Whether calls get through to the table: a server answers, or the lock of a store in memory is
    not poisoned. -/
def isReachable : AnyStore → Bool
  | .memory m => !m.poisoned
  | .durable d => d.wire.reachable

theorem isReachable_memory {m : MemoryStore} :
    (memory m).isReachable ↔ m.poisoned = false := by
  simp [isReachable]

/-- Nothing that is done makes a store reachable again. -/
theorem isReachable_of_perform {s : AnyStore} {call : StoreCall}
    (h : (s.perform call).store.isReachable) : s.isReachable := by
  cases s with
  | memory m =>
    have hsound := isReachable_memory.mp h
    rw [m.poisoned_perform, Bool.or_eq_false_iff] at hsound
    exact isReachable_memory.mpr hsound.1
  | durable d => exact (d.perform_steady call).1.symm.trans h

/-- A call leaves the store reachable, unless it is broken off in memory. -/
theorem isReachable_perform {s : AnyStore} {call : StoreCall} (reachable : s.isReachable)
    (lasting : s.kind = .durable ∨ (s.perform call).outcome.isAborted = false) :
    (s.perform call).store.isReachable := by
  cases s with
  | memory m =>
    have hwhole : (m.perform call).outcome.isAborted = false := lasting.resolve_left nofun
    refine isReachable_memory.mpr ?_
    rw [m.poisoned_perform, isReachable_memory.mp reachable, hwhole, Bool.or_false]
  | durable d => exact (d.perform_steady call).1.trans reachable

/-- What is said at the other end of the wire; a store in memory has none. -/
def server : AnyStore → Server
  | .memory _ => {}
  | .durable d => d.wire.server

@[simp] theorem server_perform (s : AnyStore) (call : StoreCall) :
    (s.perform call).store.server = s.server := by
  cases s with
  | memory m => rfl
  | durable d => exact (d.perform_steady call).2

@[simp] theorem server_withFaults (faults : List Store.Fault) (s : AnyStore) :
    (s.withFaults faults).server = s.server := by
  cases s <;> rfl

@[simp] theorem isReachable_withFaults (faults : List Store.Fault) (s : AnyStore) :
    (s.withFaults faults).isReachable = s.isReachable := by
  cases s <;> rfl

@[simp] theorem isReachable_failInserts (count : Nat) (s : AnyStore) :
    (s.failInserts count).isReachable = s.isReachable := by
  cases s <;> rfl

@[simp] theorem server_failInserts (count : Nat) (s : AnyStore) :
    (s.failInserts count).server = s.server := by
  cases s <;> rfl

/-- **A presentation is answered** where calls get through to the table and no fault waits. -/
theorem perform_consume_done {s : AnyStore} {token : String} {clock : Clock} {policy : Policy}
    {now : Instant} (reachable : s.isReachable) (shown : clock.now = .ok now)
    (judged : ∀ row, s.rows.byHash? (hashOf token) = some row →
      row.judge now policy ≠ .overflow) :
    ∃ answer, ((s.withFaults []).perform (.consume (hashOf token) clock policy)).outcome =
      .done answer := by
  cases s with
  | durable d =>
    exact DurableStore.perform_consume_done (d := { d with wire := { d.wire with faults := [] } })
      ⟨reachable, rfl⟩ (nul_not_mem_hashOf token) shown judged
  | memory m =>
    change ∃ answer, (m.perform (.consume (hashOf token) clock policy)).outcome = .done answer
    rw [MemoryStore.perform_of_sound rfl (isReachable_memory.mp reachable)]
    change ∃ answer, (m.consume (hashOf token) clock policy).outcome = .done answer
    simp only [MemoryStore.consume, shown, MemoryStore.consumeAt]
    cases found : m.rows.byHash? (hashOf token) with
    | none => exact ⟨_, rfl⟩
    | some row =>
      simp only
      cases verdict : row.judge now policy with
      | refuse | firstUse | withinGrace | reuse => exact ⟨_, rfl⟩
      | overflow => exact absurd verdict (judged row found)

end AnyStore

/-! ## 5. Programs and sessions -/

namespace Program

variable {α : Type}

/-- A call that is replied to is not broken off. -/
theorem isAborted_of_replied {w : World AnyStore} {call : StoreCall}
    (replied : ∃ reply, (answer w (.store call)).1 = .ok reply) :
    (w.store.perform call).outcome.isAborted = false := by
  obtain ⟨reply, replied⟩ := replied
  have hperform : TokenStore.perform w.store call = w.store.perform call := rfl
  simp only [answer, hperform] at replied
  cases houtcome : (w.store.perform call).outcome with
  | done | failed => rfl
  | aborted cause => simp [houtcome] at replied

/-- A request leaves the store reachable, unless the program is broken off with it in memory. -/
theorem isReachable_answer {w : World AnyStore} {r : Request} (reachable : w.store.isReachable)
    (lasting : w.store.kind = .durable ∨ ∃ reply, (answer w r).1 = .ok reply) :
    (answer w r).2.store.isReachable := by
  cases r with
  | store call =>
    rw [store_answer]
    exact AnyStore.isReachable_perform reachable (lasting.imp_right isAborted_of_replied)
  | secret | uuid | log => exact reachable

theorem isReachable_of_answer {w : World AnyStore} {r : Request}
    (h : (answer w r).2.store.isReachable) : w.store.isReachable := by
  cases r with
  | store call =>
    rw [store_answer] at h
    exact AnyStore.isReachable_of_perform h
  | secret | uuid | log => exact h

/-- **The server stays the same** through every program. -/
@[simp] theorem server_run (p : Program α) (w : World AnyStore) :
    (p.run w).2.store.server = w.store.server := by
  induction p generalizing w with
  | finish outcome => rfl
  | request r next ih =>
    have hone : (answer w r).2.store.server = w.store.server := by
      cases r with
      | store call =>
        rw [store_answer]
        exact AnyStore.server_perform w.store call
      | secret | uuid | log => rfl
    rcases hanswer : answer w r with ⟨cause | reply, w'⟩
    · rw [hanswer] at hone
      simpa only [run, hanswer] using hone
    · rw [hanswer] at hone
      simpa only [run, hanswer] using (ih reply w').trans hone

/-- **A program leaves the store reachable**, unless it is broken off in memory. -/
theorem isReachable_run {p : Program α} {w : World AnyStore} (reachable : w.store.isReachable)
    (lasting : w.store.kind = .durable ∨ (p.run w).1.isAborted = false) :
    (p.run w).2.store.isReachable := by
  induction p generalizing w with
  | finish outcome => exact reachable
  | request r next ih =>
    have hone := isReachable_answer (r := r) reachable
    have hkind := (history_answer 0 w r).2
    rcases hanswer : answer w r with ⟨cause | reply, w'⟩
    · simp only [run, hanswer] at lasting ⊢
      rw [hanswer] at hone
      exact hone (lasting.imp_right fun h : true = false => Bool.noConfusion h)
    · simp only [run, hanswer] at lasting ⊢
      rw [hanswer] at hone hkind
      exact ih reply (hone (.inr ⟨reply, rfl⟩)) (hkind ▸ lasting)

theorem isReachable_of_run {p : Program α} {w : World AnyStore}
    (h : (p.run w).2.store.isReachable) : w.store.isReachable := by
  induction p generalizing w with
  | finish outcome => exact h
  | request r next ih =>
    have hone := isReachable_of_answer (w := w) (r := r)
    rcases hanswer : answer w r with ⟨cause | reply, w'⟩
    · simp only [run, hanswer] at h
      rw [hanswer] at hone
      exact hone h
    · simp only [run, hanswer] at h
      rw [hanswer] at hone
      exact hone (ih reply h)

end Program

namespace Session

@[simp] theorem server_take (s : Session) (step : Step) :
    (s.take step).2.store.server = s.store.server := by
  have hworld : (s.world step).store.server = s.store.server := AnyStore.server_withFaults _ _
  unfold take carryOut
  cases step.command with
  | work work => exact (Program.server_run _ _).trans hworld
  | isEmpty => exact hworld
  | failInserts count => exact (AnyStore.server_failInserts count _).trans hworld

/-- A step leaves the store reachable, unless it is broken off in memory. -/
theorem isReachable_take {s : Session} {step : Step} (reachable : s.store.isReachable)
    (lasting : s.store.kind = .durable ∨ (s.take step).1.outcome.isAborted = false) :
    (s.take step).2.store.isReachable := by
  have hworld : (s.world step).store.isReachable := by simpa [world] using reachable
  have hkind : (s.world step).store.kind = s.store.kind := AnyStore.kind_withFaults _ _
  rw [← hkind] at lasting
  unfold take carryOut at lasting ⊢
  cases hcommand : step.command with
  | work work =>
    rw [hcommand] at lasting
    exact Program.isReachable_run hworld lasting
  | isEmpty => exact hworld
  | failInserts count => simpa using reachable

theorem isReachable_of_take {s : Session} {step : Step}
    (h : (s.take step).2.store.isReachable) : s.store.isReachable := by
  have hworld : (s.world step).store.isReachable = s.store.isReachable :=
    AnyStore.isReachable_withFaults _ _
  rw [← hworld]
  unfold take carryOut at h
  cases hcommand : step.command with
  | work work =>
    rw [hcommand] at h
    exact Program.isReachable_of_run h
  | isEmpty =>
    rw [hcommand] at h
    exact h
  | failInserts count =>
    rw [hcommand] at h
    exact (AnyStore.isReachable_failInserts count _).symm.trans h

/-- **What was ever reached was reachable before**: nothing that is done mends a store. -/
theorem isReachable_of_after {s : Session} {steps : List Step}
    (h : (s.after steps).store.isReachable) : s.store.isReachable := by
  induction steps generalizing s with
  | nil => exact h
  | cons step rest ih => exact isReachable_of_take (ih h)

/-- On a database a table stays reachable, whatever is broken off. -/
theorem isReachable_after_of_durable {s : Session} (durable : s.store.kind = .durable)
    (reachable : s.store.isReachable) (steps : List Step) :
    (s.after steps).store.isReachable := by
  induction steps generalizing s with
  | nil => exact reachable
  | cons step rest ih =>
    exact ih ((s.history_take 0 step).2.trans durable) (isReachable_take reachable (.inl durable))

end Session

end TokenRotation

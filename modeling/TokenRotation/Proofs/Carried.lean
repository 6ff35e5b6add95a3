import TokenRotation.Proofs.Evolution
import TokenRotation.Store.Any

/-!
# What a call of a store does

The two kinds of store are written differently, and yet each call does the same to the table but for
three things: how finely instants are kept, whether one row or every chosen row is written, and how
the presented row is found again. This file says once and for all what a call does, for both kinds,
with everything that was checked before it was done.

* `Carried` -- the table before a call, the answer, and the table after it;
* `AnyStore.perform_settled` -- every call is carried out or leaves the table as it was: failures,
  broken-off work, faults of the wire and repetitions included;
* `Carried.evolves`, `Carried.hashesDistinct` -- what every call keeps.
-/

namespace TokenRotation

/-! ## 1. The kinds of store -/

/-- The two kinds of store. -/
inductive StoreKind
  | memory
  | durable
deriving DecidableEq, Repr

namespace StoreKind

/-- An instant as a store of the kind keeps it. -/
def keep : StoreKind → Instant → Instant
  | .memory, t => t
  | .durable, t => t.stored

/-- A row as a store of the kind keeps it. -/
def keepRow : StoreKind → Row → Row
  | .memory, r => r
  | .durable, r => r.stored

/-- Changes the chosen rows. A store in memory changes the first of them only. -/
def change : StoreKind → (Row → Bool) → (Row → Row) → Table → Table
  | .memory => Table.changeFirst
  | .durable => Table.changeAll

/-- How a store of the kind tells, when it writes, that a row is the presented one. -/
def presented : StoreKind → Row → Row → Bool
  | .memory, row => fun r => r.hash = row.hash
  | .durable, row => fun r => r.id = row.id

/-- The rows of a family in the order of the kind. -/
def lineage : StoreKind → Table → Uuid → Table
  | .memory, rows => MemoryStore.lineage { rows }
  | .durable, rows => DurableStore.lineage rows

@[simp] theorem keepRow_subject (k : StoreKind) (r : Row) : (k.keepRow r).subject = r.subject := by
  cases k <;> rfl

@[simp] theorem keepRow_family (k : StoreKind) (r : Row) : (k.keepRow r).family = r.family := by
  cases k <;> rfl

@[simp] theorem keepRow_hash (k : StoreKind) (r : Row) : (k.keepRow r).hash = r.hash := by
  cases k <;> rfl

theorem keepRow_consumedAt (k : StoreKind) (t : NewToken) :
    (k.keepRow t.row).consumedAt = none := by
  cases k <;> rfl

theorem keepRow_revokedAt (k : StoreKind) (t : NewToken) : (k.keepRow t.row).revokedAt = none := by
  cases k <;> rfl

theorem forall₂_change (k : StoreKind) {R : Row → Row → Prop} {chosen : Row → Bool}
    {change : Row → Row} (refl : ∀ r, R r r) (h : ∀ r, chosen r → R r (change r)) (rows : Table) :
    List.Forall₂ R rows (k.change chosen change rows) := by
  cases k with
  | memory => exact Table.forall₂_changeFirst refl h rows
  | durable => exact Table.forall₂_changeAll refl h rows

theorem change_of_none (k : StoreKind) {chosen : Row → Bool} {change : Row → Row} {rows : Table}
    (h : ∀ r ∈ rows, chosen r = false) : k.change chosen change rows = rows := by
  cases k with
  | memory =>
    show rows.changeFirst chosen change = rows
    induction rows with
    | nil => rfl
    | cons r rest ih =>
      have hr := h r List.mem_cons_self
      have hrest := ih fun s hs => h s (List.mem_cons_of_mem r hs)
      simp [Table.changeFirst, hr, hrest]
  | durable =>
    show rows.changeAll chosen change = rows
    have same : ∀ r ∈ rows, (if chosen r then change r else r) = r := fun r hr => by simp [h r hr]
    rw [Table.changeAll, List.map_congr_left same, List.map_id']

/-- The hash of the presented row finds it again after it was written. -/
theorem byHash?_change_presented (k : StoreKind) {change : Row → Row}
    (same : ∀ r, (change r).hash = r.hash) {rows : Table} {hash : String} {row : Row}
    (found : rows.byHash? hash = some row) :
    (k.change (k.presented row) change rows).byHash? hash = some (change row) := by
  have hrow := Table.hash_of_byHash? found
  induction rows with
  | nil => simp [Table.byHash?] at found
  | cons r rest ih =>
    by_cases hr : r.hash = hash
    · have hfirst : r = row := by simpa [Table.byHash?, hr] using found
      subst hfirst
      cases k <;> simp [StoreKind.change, presented, Table.changeFirst, Table.changeAll,
        Table.byHash?, same, hr]
    · have hrest : Table.byHash? rest hash = some row := by
        simpa [Table.byHash?, hr] using found
      have ih := ih hrest
      cases k with
      | memory =>
        have hne : ¬ r.hash = row.hash := hrow.symm ▸ hr
        simpa [StoreKind.change, presented, Table.changeFirst, Table.byHash?, hr, hne] using ih
      | durable =>
        have hhead : (if r.id = row.id then change r else r).hash ≠ hash := by
          split
          · exact same r ▸ hr
          · exact hr
        simpa [StoreKind.change, presented, Table.changeAll, Table.byHash?, hhead] using ih

end StoreKind

/-! ## 2. Calls that are carried out -/

/-- The row has the identifier and no successor yet. -/
def Row.unlinked (id : Uuid) (r : Row) : Bool := r.id = id && r.replacedBy.isNone

/-- **A call that is carried out**: the table before it, its answer, and the table after it. -/
inductive Carried (k : StoreKind) (rows : Table) : (call : StoreCall) → call.Answer → Table → Prop
  | insert {token : NewToken} (fresh : rows.hasHash token.hash = false) :
    Carried k rows (.insert token) (k.keepRow token.row) (rows ++ [k.keepRow token.row])
  | unknown {hash : String} {clock : Clock} {policy : Policy} (absent : rows.byHash? hash = none) :
    Carried k rows (.consume hash clock policy) .unknown rows
  | refused {hash : String} {clock : Clock} {policy : Policy} {row : Row} {now : Instant}
      {reason : Refusal} (found : rows.byHash? hash = some row) (shown : clock.now = .ok now)
      (verdict : row.judge now policy = .refuse reason) :
    Carried k rows (.consume hash clock policy) (.rejected reason) rows
  | first {hash : String} {clock : Clock} {policy : Policy} {row : Row} {now c g : Instant}
      (found : rows.byHash? hash = some row) (shown : clock.now = .ok now)
      (verdict : row.judge now policy = .firstUse c g) :
    Carried k rows (.consume hash clock policy) (.accepted (row.stamp c g) .first)
      (k.change (k.presented row) (fun r => r.stamp (k.keep c) (k.keep g)) rows)
  | grace {hash : String} {clock : Clock} {policy : Policy} {row : Row} {now : Instant}
      (found : rows.byHash? hash = some row) (shown : clock.now = .ok now)
      (verdict : row.judge now policy = .withinGrace) :
    Carried k rows (.consume hash clock policy) (.accepted row .grace) rows
  | reuse {hash : String} {clock : Clock} {policy : Policy} {row : Row} {now : Instant}
      (found : rows.byHash? hash = some row) (shown : clock.now = .ok now)
      (verdict : row.judge now policy = .reuse) :
    Carried k rows (.consume hash clock policy)
      (.reused row (rows.sweepCount fun r => r.family = row.family))
      (rows.sweep (fun r => r.family = row.family) (k.keep now))
  | revokeFamily {family : Uuid} {now : Instant} :
    Carried k rows (.revokeFamily family now) (rows.sweepCount fun r => r.family = family)
      (rows.sweep (fun r => r.family = family) (k.keep now))
  | revokeSubject {subject : String} {now : Instant} :
    Carried k rows (.revokeSubject subject now) (rows.sweepCount fun r => r.subject = subject)
      (rows.sweep (fun r => r.subject = subject) (k.keep now))
  | link {id successor : Uuid}
      (known : k = .durable → rows.any (Row.unlinked id) → rows.hasId successor) :
    Carried k rows (.link id successor) (rows.any (Row.unlinked id))
      (k.change (Row.unlinked id) (fun r => { r with replacedBy := some successor }) rows)
  | getByHash {hash : String} : Carried k rows (.getByHash hash) (rows.byHash? hash) rows
  | listFamily {family : Uuid} : Carried k rows (.listFamily family) (k.lineage rows family) rows

/-- How a call ends: it is carried out, or the table is as it was. A store refuses nobody by a
    failure; to refuse is an answer. -/
inductive Settled (k : StoreKind) (rows : Table) (call : StoreCall) :
    Outcome call.Answer → Table → Prop
  | carried {answer : call.Answer} {after : Table} (h : Carried k rows call answer after) :
    Settled k rows call (.done answer) after
  | kept {outcome : Outcome call.Answer} (h : ∀ answer, outcome ≠ .done answer)
    (unrefused : ∀ reason, outcome ≠ .failed (.refused reason)) :
    Settled k rows call outcome rows

namespace Carried

variable {k : StoreKind} {rows after : Table} {call : StoreCall} {answer : call.Answer}

/-- A call adds one row under a free hash, or lets the rows evolve in their places. -/
theorem adds_or_evolves (h : Carried k rows call answer after) :
    (∃ token : NewToken, call = .insert token ∧ rows.hasHash token.hash = false ∧
      after = rows ++ [k.keepRow token.row]) ∨ List.Forall₂ Row.Evolves rows after := by
  have same : List.Forall₂ Row.Evolves rows rows :=
    List.forall₂_same.mpr fun r _ => Row.Evolves.refl r
  cases h with
  | insert fresh => exact .inl ⟨_, rfl, fresh, rfl⟩
  | unknown | refused | grace | getByHash | listFamily => exact .inr same
  | first => exact .inr (k.forall₂_change Row.Evolves.refl (fun r _ => r.evolves_stamp _ _) rows)
  | reuse | revokeFamily | revokeSubject => exact .inr (Table.forall₂_sweep _ _ rows)
  | link =>
    refine .inr (k.forall₂_change Row.Evolves.refl (fun r hr => Row.evolves_link ?_ _) rows)
    simp only [Row.unlinked, Bool.and_eq_true, Option.isNone_iff_eq_none] at hr
    exact hr.2

/-- **A call writes every cell at most once and takes no row away.** -/
theorem evolves (h : Carried k rows call answer after) : rows.Evolves after := by
  rcases h.adds_or_evolves with ⟨token, -, -, rfl⟩ | hrows
  · exact Table.evolves_append rows _
  · exact .of_forall₂ hrows

/-- No call makes two rows of one hash. -/
theorem hashesDistinct (h : Carried k rows call answer after) (distinct : rows.HashesDistinct) :
    after.HashesDistinct := by
  unfold Table.HashesDistinct at distinct ⊢
  rcases h.adds_or_evolves with ⟨token, -, fresh, rfl⟩ | hrows
  · have absent := Table.hasHash_eq_false_iff.mp fresh
    rw [List.map_append, List.map_singleton, StoreKind.keepRow_hash]
    refine List.Nodup.append distinct (List.nodup_singleton _) fun hash hmem heq => ?_
    obtain ⟨r, hr, rfl⟩ := List.mem_map.mp hmem
    exact absent r hr (List.mem_singleton.mp heq)
  · rw [Table.map_hash_of_forall₂ hrows]
    exact distinct

end Carried

namespace Settled

variable {k : StoreKind} {rows after : Table} {call : StoreCall} {outcome : Outcome call.Answer}

theorem evolves (h : Settled k rows call outcome after) : rows.Evolves after := by
  cases h with
  | carried h => exact h.evolves
  | kept => exact Table.Evolves.refl rows

theorem carried_of_done {answer : call.Answer} (h : Settled k rows call (.done answer) after) :
    Carried k rows call answer after := by
  cases h with
  | carried h => exact h
  | kept h => exact absurd rfl (h answer)

/-- A call that is not carried out leaves the table as it was. -/
theorem eq_of_not_done (h : Settled k rows call outcome after)
    (hnot : ∀ answer, outcome ≠ .done answer) : after = rows := by
  cases h with
  | carried => exact absurd rfl (hnot _)
  | kept => rfl

theorem failed_ne_refused {e : Failure} (h : Settled k rows call (.failed e) after)
    (reason : Refusal) : e ≠ .refused reason := by
  cases h with
  | kept _ unrefused =>
    rintro rfl
    exact unrefused reason rfl

theorem hashesDistinct (h : Settled k rows call outcome after) (distinct : rows.HashesDistinct) :
    after.HashesDistinct := by
  cases h with
  | carried h => exact h.hashesDistinct distinct
  | kept => exact distinct

end Settled

/-! ## 3. The store in memory -/

theorem MemoryStore.work_settled (m : MemoryStore) (call : StoreCall) :
    Settled .memory m.rows call (m.work call).outcome (m.work call).store.rows := by
  cases call with
  | insert token =>
    change Settled .memory m.rows (.insert token) (m.add token).outcome (m.add token).store.rows
    unfold add
    split
    · exact .kept (fun _ => by simp) fun _ => by simp
    · next hfresh => exact .carried (.insert (eq_false_of_ne_true hfresh))
  | consume hash clock policy =>
    change Settled .memory m.rows (.consume hash clock policy)
      (m.consume hash clock policy).outcome (m.consume hash clock policy).store.rows
    unfold consume
    cases shown : clock.now with
    | error cause => exact .kept (fun _ => by simp) fun _ => by simp
    | ok now =>
      simp only
      unfold consumeAt
      cases found : m.rows.byHash? hash with
      | none => exact .carried (.unknown found)
      | some row =>
        simp only
        cases verdict : row.judge now policy with
        | refuse reason => exact .carried (.refused found shown verdict)
        | firstUse c g =>
          have hhash := Table.hash_of_byHash? found
          subst hhash
          exact .carried (.first found shown verdict)
        | withinGrace => exact .carried (.grace found shown verdict)
        | reuse => exact .carried (.reuse found shown verdict)
        | overflow => exact .kept (fun _ => by simp) fun _ => by simp
  | revokeFamily family now => exact .carried .revokeFamily
  | revokeSubject subject now => exact .carried .revokeSubject
  | link id successor => exact .carried (.link nofun)
  | getByHash hash => exact .carried .getByHash
  | listFamily family => exact .carried .listFamily

theorem MemoryStore.perform_settled (m : MemoryStore) (call : StoreCall) :
    Settled .memory m.rows call (m.perform call).outcome (m.perform call).store.rows := by
  cases due : m.collides call with
  | true =>
    rw [perform_of_collides due]
    exact .kept (fun _ => by simp) fun _ => by simp
  | false =>
    rw [perform_of_not_collides due]
    cases poisoned : m.poisoned with
    | true =>
      rw [locked_of_poisoned poisoned]
      exact .kept (fun _ => by simp) fun _ => by simp
    | false =>
      rw [locked_of_sound poisoned]
      exact m.work_settled call

/-! ## 4. The durable store -/

namespace Store.Attempt

section Bind

variable {α β : Type} {x : Attempt α} {f : α → Attempt β} {wire wire₁ wire' : Wire}

theorem bind_of_ok {a : α} (h : x wire = (.ok a, wire₁)) : (x >>= f) wire = f a wire₁ := by
  simp only [bind, h]

theorem bind_of_error {e : Trouble} (h : x wire = (.error e, wire₁)) :
    (x >>= f) wire = (.error e, wire₁) := by
  simp only [bind, h]

/-- A piece of work that went through is made of pieces that went through. -/
theorem bind_eq_ok {b : β} (h : (x >>= f) wire = (.ok b, wire')) :
    ∃ a wire₁, x wire = (.ok a, wire₁) ∧ f a wire₁ = (.ok b, wire') := by
  rcases hx : x wire with ⟨e | a, wire₁⟩
  · rw [bind_of_error hx] at h
    cases h
  · rw [bind_of_ok hx] at h
    exact ⟨a, wire₁, rfl, h⟩

end Bind

theorem pure_eq_ok {α : Type} {a b : α} {wire wire' : Wire}
    (h : (pure a : Attempt α) wire = (.ok b, wire')) : a = b := by
  cases h
  rfl

theorem now_eq_ok {clock : Clock} {t : Instant} {wire wire' : Wire}
    (h : now clock wire = (.ok t, wire')) : clock.now = .ok t := by
  unfold now at h
  cases shown : clock.now with
  | ok u =>
    rw [shown] at h
    cases h
    rfl
  | error cause =>
    rw [shown] at h
    cases h

end Store.Attempt

namespace DurableStore

open Store

variable {rows after : Table} {wire wire' : Wire}

theorem insertAttempt_carried {token : NewToken} {row : Row}
    (h : insertAttempt rows token wire = (.ok (row, after), wire')) :
    Carried .durable rows (.insert token) row after := by
  obtain ⟨_, _, -, h⟩ := Attempt.bind_eq_ok h
  split at h
  · cases h
  · split at h
    · cases h
    · split at h
      · cases h
      · next hfresh =>
        cases Attempt.pure_eq_ok h
        exact .insert (by simpa using hfresh)

theorem consumeAttempt_carried {hash : String} {clock : Clock} {policy : Policy}
    {outcome : ConsumeOutcome}
    (h : consumeAttempt rows hash clock policy wire = (.ok (outcome, after), wire')) :
    Carried .durable rows (.consume hash clock policy) outcome after := by
  obtain ⟨_, _, -, h⟩ := Attempt.bind_eq_ok h
  obtain ⟨_, _, -, h⟩ := Attempt.bind_eq_ok h
  cases found : rows.byHash? hash with
  | none =>
    rw [found] at h
    obtain ⟨_, _, -, h⟩ := Attempt.bind_eq_ok h
    cases Attempt.pure_eq_ok h
    exact .unknown found
  | some row =>
    rw [found] at h
    obtain ⟨now, _, shown, h⟩ := Attempt.bind_eq_ok h
    have shown := Attempt.now_eq_ok shown
    cases verdict : row.judge now policy with
    | refuse reason =>
      rw [verdict] at h
      obtain ⟨_, _, -, h⟩ := Attempt.bind_eq_ok h
      cases Attempt.pure_eq_ok h
      exact .refused found shown verdict
    | firstUse c g =>
      rw [verdict] at h
      obtain ⟨_, _, -, h⟩ := Attempt.bind_eq_ok h
      obtain ⟨_, _, -, h⟩ := Attempt.bind_eq_ok h
      cases Attempt.pure_eq_ok h
      exact .first found shown verdict
    | withinGrace =>
      rw [verdict] at h
      obtain ⟨_, _, -, h⟩ := Attempt.bind_eq_ok h
      cases Attempt.pure_eq_ok h
      exact .grace found shown verdict
    | reuse =>
      rw [verdict] at h
      obtain ⟨_, _, -, h⟩ := Attempt.bind_eq_ok h
      obtain ⟨_, _, -, h⟩ := Attempt.bind_eq_ok h
      cases Attempt.pure_eq_ok h
      exact .reuse found shown verdict
    | overflow =>
      rw [verdict] at h
      cases h

theorem revokeAttempt_eq {texts : List String} {chosen : Row → Bool} {now : Instant} {count : Nat}
    (h : revokeAttempt rows texts chosen now wire = (.ok (count, after), wire')) :
    count = rows.sweepCount chosen ∧ after = rows.sweep chosen now.stored := by
  obtain ⟨_, _, -, h⟩ := Attempt.bind_eq_ok h
  cases Attempt.pure_eq_ok h
  exact ⟨rfl, rfl⟩

theorem linkAttempt_carried {id successor : Uuid} {linked : Bool}
    (h : linkAttempt rows id successor wire = (.ok (linked, after), wire')) :
    Carried .durable rows (.link id successor) linked after := by
  obtain ⟨_, _, -, h⟩ := Attempt.bind_eq_ok h
  change (if rows.any (Row.unlinked id) then _ else _ : Attempt (Bool × Table)) _ = _ at h
  have law (known : rows.any (Row.unlinked id) → rows.hasId successor) :
      Carried .durable rows (.link id successor) (rows.any (Row.unlinked id))
        (StoreKind.durable.change (Row.unlinked id)
          (fun r => { r with replacedBy := some successor }) rows) :=
    .link fun _ => known
  split at h
  · next hany =>
    split at h
    · next hknown =>
      cases Attempt.pure_eq_ok h
      rw [hany] at law
      exact law fun _ => hknown
    · cases h
  · next hnone =>
    cases Attempt.pure_eq_ok h
    have hall : ∀ r ∈ rows, Row.unlinked id r = false := by simpa using hnone
    rw [eq_false_of_ne_true hnone, StoreKind.change_of_none _ hall] at law
    exact law fun hany => absurd hany (by simp)

theorem failure_ne_refused (e : DatabaseError) (reason : Refusal) :
    e.failure ≠ .refused reason := by
  cases e with
  | rejected state constraint =>
    unfold DatabaseError.failure
    simp only
    split <;> simp
  | rowNotFound | poolTimedOut | broken => simp [DatabaseError.failure]

theorem insertFailure_ne_refused (e : DatabaseError) (reason : Refusal) :
    e.insertFailure ≠ .refused reason := by
  unfold DatabaseError.insertFailure
  split
  · split
    · simp
    · exact failure_ne_refused _ reason
  · exact failure_ne_refused _ reason

/-- What went through in the end went through in one attempt. -/
theorem repeating_ok {α : Type} {work : LockedWork} {attempt : Attempt α} {value : α}
    {left number : Nat} {wire : Wire}
    (h : (repeating work attempt left number wire).result = .ok value) :
    ∃ wire₁ wire₂, attempt wire₁ = (.ok value, wire₂) := by
  induction left generalizing number wire with
  | zero =>
    rcases hw : attempt wire with ⟨result, wire₂⟩
    simp only [repeating, hw] at h
    subst h
    exact ⟨wire, wire₂, hw⟩
  | succ left ih =>
    rcases hw : attempt wire with ⟨(e | cause) | v, wire₂⟩
    · simp only [repeating, hw] at h
      split at h
      · exact ih h
      · cases h
    · simp only [repeating, hw] at h
      cases h
    · simp only [repeating, hw] at h
      cases h
      exact ⟨wire, wire₂, hw⟩

theorem once_ok {α : Type} {attempt : Attempt α} {value : α}
    (h : (once attempt wire).result = .ok value) : ∃ wire₂, attempt wire = (.ok value, wire₂) := by
  rcases hw : attempt wire with ⟨result, wire₂⟩
  simp only [once, hw] at h
  subst h
  exact ⟨wire₂, rfl⟩

/-- A call is settled when all that can go through is carried out. -/
theorem settle_settled (d : DurableStore) (call : StoreCall)
    (a : Attempted (call.Answer × Table)) {failure : DatabaseError → Failure}
    (unrefused : ∀ e reason, failure e ≠ .refused reason)
    (h : ∀ answer after, a.result = .ok (answer, after) →
      Carried .durable d.rows call answer after) :
    Settled .durable d.rows call (d.settle a failure).outcome (d.settle a failure).store.rows := by
  unfold settle
  split
  · next answer after hok => exact .carried (h answer after hok)
  · next e _ => exact .kept (fun _ => by simp) fun reason => by simp [unrefused e reason]
  · exact .kept (fun _ => by simp) fun _ => by simp

theorem perform_settled (d : DurableStore) (call : StoreCall) :
    Settled .durable d.rows call (d.perform call).outcome (d.perform call).store.rows := by
  cases call with
  | insert token =>
    refine d.settle_settled (.insert token) _ insertFailure_ne_refused fun row after hok => ?_
    obtain ⟨_, hok⟩ := once_ok hok
    exact insertAttempt_carried hok
  | consume hash clock policy =>
    refine d.settle_settled (.consume hash clock policy) _ failure_ne_refused
      fun outcome after hok => ?_
    obtain ⟨_, _, hok⟩ := repeating_ok hok
    exact consumeAttempt_carried hok
  | revokeFamily family now =>
    refine d.settle_settled (.revokeFamily family now) _ failure_ne_refused
      fun count after hok => ?_
    obtain ⟨_, _, hok⟩ := repeating_ok hok
    obtain ⟨rfl, rfl⟩ := revokeAttempt_eq hok
    exact .revokeFamily
  | revokeSubject subject now =>
    refine d.settle_settled (.revokeSubject subject now) _ failure_ne_refused
      fun count after hok => ?_
    obtain ⟨_, _, hok⟩ := repeating_ok hok
    obtain ⟨rfl, rfl⟩ := revokeAttempt_eq hok
    exact .revokeSubject
  | link id successor =>
    refine d.settle_settled (.link id successor) _ failure_ne_refused fun linked after hok => ?_
    obtain ⟨_, hok⟩ := once_ok hok
    exact linkAttempt_carried hok
  | getByHash hash =>
    refine d.settle_settled (.getByHash hash) _ failure_ne_refused fun row after hok => ?_
    obtain ⟨_, hok⟩ := once_ok hok
    obtain ⟨_, _, -, hok⟩ := Attempt.bind_eq_ok hok
    cases Attempt.pure_eq_ok hok
    exact .getByHash
  | listFamily family =>
    refine d.settle_settled (.listFamily family) _ failure_ne_refused fun members after hok => ?_
    obtain ⟨_, hok⟩ := once_ok hok
    obtain ⟨_, _, -, hok⟩ := Attempt.bind_eq_ok hok
    cases Attempt.pure_eq_ok hok
    exact .listFamily

end DurableStore

/-! ## 5. A store of either kind -/

namespace AnyStore

/-- The kind of a store. -/
def kind : AnyStore → StoreKind
  | .memory _ => .memory
  | .durable _ => .durable

/-- **Every call is carried out or leaves the table as it was.** -/
theorem perform_settled (s : AnyStore) (call : StoreCall) :
    Settled s.kind s.rows call (s.perform call).outcome (s.perform call).store.rows := by
  cases s with
  | memory m => exact m.perform_settled call
  | durable d => exact d.perform_settled call

@[simp] theorem kind_perform (s : AnyStore) (call : StoreCall) :
    (s.perform call).store.kind = s.kind := by
  cases s <;> rfl

@[simp] theorem kind_withFaults (faults : List Store.Fault) (s : AnyStore) :
    (s.withFaults faults).kind = s.kind := by
  cases s <;> rfl

@[simp] theorem kind_failInserts (count : Nat) (s : AnyStore) :
    (s.failInserts count).kind = s.kind := by
  cases s <;> rfl

end AnyStore

end TokenRotation

import TokenRotation.Proofs.Carried
import TokenRotation.Session.Sample

/-!
# Repetition after lock conflicts

Consuming a token and revoking are tried again while the database ends them in a lock conflict. An
attempt that was lost leaves nothing behind but the fault that it took from the wire: the attempt
that decides is made on the original table, and it alone is answered. There are five attempts and no
sixth.

* `Store.Attempt.Conflicts`, `Store.Attempt.wireAfter` -- lost attempts, and the wire that they
  leave to the next one;
* `Store.Attempt.TakesOne` -- an attempt takes no fault unless it fails by it, and no second one;
* `DurableStore.repeating_eq` -- a repetition is its deciding attempt, with a warning for each
  attempt before it;
* `DurableStore.repetition` -- **the calls that are repeated** are answered as the deciding attempt
  alone.
-/

namespace TokenRotation

open Store

/-! ## 1. Lost attempts -/

namespace Store.Attempt

variable {α β : Type} {x : Attempt α} {wire : Wire}

/-- **The attempt is lost**: on that wire it ends in a deadlock or a failed serialization. -/
def Conflicts (x : Attempt α) (wire : Wire) : Prop :=
  ∃ state constraint notice, (x wire).1 = .error (.database (.rejected state constraint notice)) ∧
    (state = "40P01" ∨ state = "40001")

/-- What is said about the error that the attempt ends in on that wire. -/
def notice (x : Attempt α) (wire : Wire) : Notice :=
  match (x wire).1 with
  | .error (.database e) => e.notice
  | _ => {}

/-- The wire after so many attempts, one after the other. -/
def wireAfter (x : Attempt α) : Nat → Wire → Wire
  | 0, wire => wire
  | n + 1, wire => wireAfter x n (x wire).2

theorem conflicts_iff :
    x.Conflicts wire ↔ ∃ e, (x wire).1 = .error (.database e) ∧ e.isLockConflict := by
  constructor
  · rintro ⟨state, constraint, notice, hresult, hstate⟩
    exact ⟨_, hresult, by simpa [DatabaseError.isLockConflict, isLockState] using hstate⟩
  · rintro ⟨e, hresult, hconflict⟩
    cases e with
    | rejected state constraint notice =>
      exact ⟨state, constraint, notice, hresult,
        by simpa [DatabaseError.isLockConflict, isLockState] using hconflict⟩
    | rowNotFound | poolTimedOut | broken => cases hconflict

instance (x : Attempt α) (wire : Wire) : Decidable (x.Conflicts wire) :=
  match h : (x wire).1 with
  | .error (.database e) =>
    decidable_of_iff (e.isLockConflict = true) <| by
      rw [conflicts_iff, h]
      simp
  | .error (.aborted _) | .ok _ =>
    isFalse <| by
      rw [conflicts_iff, h]
      simp

theorem wireAfter_succ (x : Attempt α) (n : Nat) (wire : Wire) :
    x.wireAfter (n + 1) wire = (x (x.wireAfter n wire)).2 := by
  induction n generalizing wire with
  | zero => rfl
  | succ n ih => exact ih (x wire).2

/-- What an attempt took from the wire that ended in a result: nothing, and then it is not lost, or
    the fault that it failed by. -/
inductive Took (wire : Wire) : Except Trouble α × Wire → Prop
  | nothing {result : Except Trouble α} {wire' : Wire} (same : wire'.faults = wire.faults)
      (unlost : ∀ e, result = .error (.database e) → e.isLockConflict = false) :
    Took wire (result, wire')
  | fault {fault : Fault} {wire' : Wire} (first : wire.faults = fault :: wire'.faults) :
    Took wire (.error (.database fault.error), wire')

/-- **The attempt takes no fault unless it fails by it, and no second one.** -/
def TakesOne (x : Attempt α) : Prop := ∀ wire, Took wire (x wire)

theorem takesOne_pure (a : α) : (pure a : Attempt α).TakesOne := fun _ => .nothing rfl nofun

theorem takesOne_aborted (cause : Abort) : (giveUp (.aborted cause) : Attempt α).TakesOne :=
  fun _ => .nothing rfl nofun

theorem takesOne_now (clock : Clock) : (now clock).TakesOne := by
  unfold now
  split
  · exact takesOne_pure _
  · exact takesOne_aborted _

theorem takesOne_bind {f : α → Attempt β} (hx : x.TakesOne) (hf : ∀ a, (f a).TakesOne) :
    (x >>= f).TakesOne := by
  intro wire
  have hfirst := hx wire
  rcases hwire : x wire with ⟨t | a, wire₁⟩
  · rw [bind_of_error hwire]
    rw [hwire] at hfirst
    cases hfirst with
    | nothing same unlost => exact .nothing same fun e he => unlost e (by cases he; rfl)
    | fault first => exact .fault first
  · -- what went through took nothing, so the rest finds the queue as it was
    rw [bind_of_ok hwire]
    rw [hwire] at hfirst
    obtain ⟨same, -⟩ := hfirst
    have hrest := hf a wire₁
    generalize f a wire₁ = ended at hrest
    cases hrest with
    | nothing same' unlost => exact .nothing (same'.trans same) unlost
    | fault first => exact .fault (same ▸ first)

theorem takesOne_openWire : openWire.TakesOne := by
  intro wire
  unfold openWire
  split
  · exact .nothing rfl nofun
  · split
    · exact .nothing rfl fun e he => by cases he; rfl
    · cases hfaults : wire.faults with
      | nil => exact .nothing hfaults.symm nofun
      | cons fault rest =>
        dsimp only
        split
        · exact .fault hfaults
        · exact .nothing hfaults.symm nofun

/-- A text that cannot be kept is refused, but not for a conflict. -/
theorem takesOne_receive (s : Statement) (texts : List String) : (receive s texts).TakesOne := by
  unfold receive
  split
  · exact fun wire => .nothing rfl fun e he => by cases he; rfl
  · exact takesOne_pure _

theorem takesOne_sendOpen (s : Statement) (texts : List String) : (sendOpen s texts).TakesOne := by
  intro wire
  unfold sendOpen
  cases hfaults : wire.faults with
  | nil => exact takesOne_receive s texts wire
  | cons fault rest =>
    dsimp only
    split
    · exact .fault hfaults
    · exact takesOne_receive s texts wire

theorem takesOne_send (s : Statement) (texts : List String) : (send s texts).TakesOne :=
  takesOne_bind takesOne_openWire fun _ => takesOne_sendOpen s texts

/-- **Lost attempts take the first faults of the queue**, one each, and leave the others. -/
theorem TakesOne.faults_wireAfter (h : x.TakesOne) {j : Nat} {wire : Wire}
    (lost : ∀ i < j, x.Conflicts (x.wireAfter i wire)) :
    (x.wireAfter j wire).faults = wire.faults.drop j := by
  induction j with
  | zero => rfl
  | succ j ih =>
    have hj := ih fun i hi => lost i (by omega)
    rw [wireAfter_succ]
    obtain ⟨e, hresult, hconflict⟩ := conflicts_iff.mp (lost j (by omega))
    have htook := h (x.wireAfter j wire)
    generalize x (x.wireAfter j wire) = ended at htook hresult
    cases htook with
    | nothing _ unlost => simp [unlost e hresult] at hconflict
    | fault first =>
      rw [hj] at first
      rw [← List.tail_drop, first, List.tail_cons]

end Store.Attempt

/-! ## 2. Repetition -/

/-- The warnings after so many lost attempts, numbered from 1, each with what was said of its
    conflict. -/
def lockWarnings {α : Type} (work : LockedWork) (x : Attempt α) (wire : Wire) (count : Nat) :
    List Event :=
  (List.range count).map fun i =>
    .lockConflict work (i + 1) (x.notice (x.wireAfter i wire)).sentence

namespace DurableStore

open Store.Attempt

variable {α : Type}

/-- **A repetition is its deciding attempt**, the first that is not lost or the last that may be
    made, with a warning for each attempt before it. -/
theorem repeating_eq (work : LockedWork) {x : Attempt α} {j left : Nat} (number : Nat) {wire : Wire}
    (within : j ≤ left) (lost : ∀ i < j, x.Conflicts (x.wireAfter i wire))
    (decides : j = left ∨ ¬ x.Conflicts (x.wireAfter j wire)) :
    repeating work x left number wire =
      { result := (x (x.wireAfter j wire)).1
        events := (List.range j).map fun i =>
          .lockConflict work (number + i) (x.notice (x.wireAfter i wire)).sentence
        wire := x.wireAfter (j + 1) wire } := by
  induction j generalizing left number wire with
  | zero =>
    cases left with
    | zero => rfl
    | succ left =>
      have unlost : ¬ x.Conflicts wire := decides.resolve_left (by omega)
      rw [conflicts_iff] at unlost
      simp only [wireAfter, List.range_zero, List.map_nil]
      rcases hwire : x wire with ⟨(e | cause) | value, wire₁⟩
      · have hno : e.isLockConflict = false := by
          rw [hwire] at unlost
          simpa using unlost
        simp only [repeating, hwire, hno]
        rfl
      · simp only [repeating, hwire]
      · simp only [repeating, hwire]
  | succ j ih =>
    obtain ⟨left, rfl⟩ : ∃ n, left = n + 1 := ⟨left - 1, by omega⟩
    obtain ⟨e, hresult, hconflict⟩ := conflicts_iff.mp (lost 0 (by omega))
    rcases hwire : x wire with ⟨result, wire₁⟩
    have hnext : x.wireAfter 1 wire = wire₁ := by simp only [wireAfter, hwire]
    obtain rfl : result = .error (.database e) := by simpa [wireAfter, hwire] using hresult
    have within' : j ≤ left := by omega
    have lost' : ∀ i < j, x.Conflicts (x.wireAfter i wire₁) := fun i hi => by
      have := lost (i + 1) (by omega)
      rwa [wireAfter, hwire] at this
    have decides' : j = left ∨ ¬ x.Conflicts (x.wireAfter j wire₁) := by
      rw [wireAfter, hwire] at decides
      exact decides.imp_left fun h => by omega
    have hrest := ih (number + 1) within' lost' decides'
    have hsaid : x.notice wire = e.notice := by simp only [Attempt.notice, hwire]
    simp only [repeating, hwire, hconflict, if_true, hrest, wireAfter, Attempted.mk.injEq, true_and,
      and_true, List.range_succ_eq_map, List.map_cons, List.map_map, Nat.add_zero, hsaid]
    refine congrArg _ (List.map_congr_left fun i _ => ?_)
    simp only [Function.comp_apply, wireAfter, hwire, Nat.add_right_comm, Nat.add_assoc]

/-- **What one attempt comes to** on the store: the table of an attempt that went through is taken
    over, and otherwise the table stays and the failure is told. -/
def alone (d : DurableStore) (x : Attempt (α × Table)) : Performed DurableStore α :=
  match x d.wire with
  | (.ok (value, rows), wire) => { outcome := .done value, store := { rows, wire } }
  | (.error (.database e), wire) =>
    { outcome := .failed e.failure, events := e.events, store := { d with wire } }
  | (.error (.aborted cause), wire) => { outcome := .aborted cause, store := { d with wire } }

theorem settle_eq_alone (d : DurableStore) (x : Attempt (α × Table)) (wire : Wire)
    (events : List Event) :
    d.settle { result := (x wire).1, events, wire := (x wire).2 } DatabaseError.failure =
      let decisive := { d with wire }.alone x
      { decisive with events := events ++ decisive.events } := by
  rcases hwire : x wire with ⟨(e | cause) | ⟨value, rows⟩, wire₁⟩ <;>
    simp only [settle, alone, hwire, List.append_nil]

/-! ## 3. Calls -/

/-- **The call is answered as the deciding one of its attempts**, whatever was lost before it. -/
structure Repeats (d : DurableStore) (call : StoreCall) (work : LockedWork)
    (x : Attempt (call.Answer × Table)) : Prop where
  /-- After `j` lost attempts, fewer than five, one that is not lost is answered as if it had been
      made alone, on the original table and over the wire that is left, with `j` warnings. In
      particular an error that is no lock conflict ends the call at once. -/
  decided : ∀ j < 5, (∀ i < j, x.Conflicts (x.wireAfter i d.wire)) →
    ¬ x.Conflicts (x.wireAfter j d.wire) →
      let decisive := { d with wire := x.wireAfter j d.wire }.alone x
      d.perform call =
        { decisive with events := lockWarnings work x d.wire j ++ decisive.events }
  /-- After five lost attempts there is no sixth. -/
  given_up : (∀ i < 5, x.Conflicts (x.wireAfter i d.wire)) →
    d.perform call =
      { outcome := .failed (.database "Database operation failed")
        events := lockWarnings work x d.wire 4 ++
          [.databaseFailed (x.notice (x.wireAfter 4 d.wire)).details]
        store := { d with wire := x.wireAfter 5 d.wire } }
  /-- Lost attempts take the first faults of the queue, one each. -/
  remaining : ∀ j, (∀ i < j, x.Conflicts (x.wireAfter i d.wire)) →
    (x.wireAfter j d.wire).faults = d.wire.faults.drop j
  /-- The warnings as the log shows them. -/
  worded : ∀ j, (lockWarnings work x d.wire j).map (fun e => (e.level, e.message, e.fields)) =
    (List.range j).map fun i => (.warn, "Lock conflict, retrying",
      [("operation", .text work.text), ("attempt", .count (i + 1)),
        ("error", .text (x.notice (x.wireAfter i d.wire)).sentence)])

theorem lockWarnings_eq (work : LockedWork) (x : Attempt α) (wire : Wire) (j : Nat) :
    ((List.range j).map fun i =>
      Event.lockConflict work (1 + i) (x.notice (x.wireAfter i wire)).sentence) =
      lockWarnings work x wire j :=
  List.map_congr_left fun i _ => by rw [Nat.add_comm]

/-- An error that an attempt is lost by is told as any other trouble of the database. -/
theorem failure_of_isLockConflict {e : DatabaseError} (h : e.isLockConflict) :
    e.failure = .database "Database operation failed" ∧
      e.events = [.databaseFailed e.notice.details] := by
  cases e with
  | rejected state constraint notice =>
    simp only [DatabaseError.isLockConflict, isLockState, Bool.or_eq_true, decide_eq_true_eq] at h
    rcases h with rfl | rfl <;> exact ⟨rfl, rfl⟩
  | rowNotFound | poolTimedOut | broken => cases h

theorem repeats_of_retried {d : DurableStore} {call : StoreCall} {work : LockedWork}
    {x : Attempt (call.Answer × Table)} (one : x.TakesOne)
    (hperform : d.perform call = d.settle (retried work x d.wire) DatabaseError.failure) :
    d.Repeats call work x where
  decided j hj lost unlost := by
    have within : j ≤ maxAttempts - 1 := Nat.le_of_lt_succ hj
    have hrepeating := repeating_eq work 1 within lost (.inr unlost)
    rw [hperform, retried, hrepeating, lockWarnings_eq, wireAfter_succ, settle_eq_alone]
  given_up lost := by
    have hrepeating := repeating_eq work 1 (Nat.le_refl (maxAttempts - 1))
      (fun i hi => lost i (Nat.lt_succ_of_lt hi)) (.inl rfl)
    obtain ⟨e, hresult, hconflict⟩ := conflicts_iff.mp (lost 4 (by omega))
    obtain ⟨hfailure, hevents⟩ := failure_of_isLockConflict hconflict
    have hsaid : x.notice (x.wireAfter 4 d.wire) = e.notice := by simp only [notice, hresult]
    rw [hperform, retried, hrepeating, lockWarnings_eq]
    change d.settle { result := (x (x.wireAfter 4 d.wire)).1, .. } _ = _
    rw [hresult]
    simp only [settle, hfailure, hevents, hsaid]
    rfl
  remaining _ lost := one.faults_wireAfter lost
  worded j := by
    simp only [lockWarnings, List.map_map]
    rfl

variable {rows : Table}

theorem consumeAttempt_takesOne (hash : String) (clock : Clock) (policy : Policy) :
    (consumeAttempt rows hash clock policy).TakesOne := by
  have one {β : Type} (s : Statement) {f : Unit → Attempt β} (hf : (f ()).TakesOne) :
      (send s >>= f).TakesOne := takesOne_bind (takesOne_send s []) fun _ => hf
  refine one _ (takesOne_bind (takesOne_send _ _) fun _ => ?_)
  cases rows.byHash? hash with
  | none => exact one _ (takesOne_pure _)
  | some row =>
    refine takesOne_bind (takesOne_now clock) fun now => ?_
    cases row.judge now policy with
    | refuse | withinGrace => exact one _ (takesOne_pure _)
    | firstUse | reuse => exact one _ (one _ (takesOne_pure _))
    | overflow => exact takesOne_aborted _

theorem revokeAttempt_takesOne (texts : List String) (chosen : Row → Bool) (now : Instant) :
    (revokeAttempt rows texts chosen now).TakesOne :=
  takesOne_bind (takesOne_send _ _) fun _ => takesOne_pure _

/-- **Repetition leaves no trace but its warnings**, and it has an end: whatever waits on the wire,
    presentations and sweeps are answered as the deciding attempt. -/
theorem repetition (d : DurableStore) :
    (∀ hash clock policy, d.Repeats (.consume hash clock policy) .consume
      (consumeAttempt d.rows hash clock policy)) ∧
    (∀ family now, d.Repeats (.revokeFamily family now) .revokeFamily
      (revokeAttempt d.rows [] (fun r => r.family = family) now)) ∧
    ∀ subject now, d.Repeats (.revokeSubject subject now) .revokeSubject
      (revokeAttempt d.rows [subject] (fun r => r.subject = subject) now) :=
  ⟨fun hash clock policy => repeats_of_retried (consumeAttempt_takesOne hash clock policy) rfl,
    fun _ now => repeats_of_retried (revokeAttempt_takesOne _ _ now) rfl,
    fun _ now => repeats_of_retried (revokeAttempt_takesOne _ _ now) rfl⟩

/-- A presentation that loses its transaction at the update and once more at the commit: the third
    attempt finds the row without a stamp and accepts it for the first time. -/
theorem repetition_of_two_conflicts :
    let token := (Secret.ofNat 100).token
    let row := (Session.sampleRow token "alice" (.ofLists [] [])).1
    let call := StoreCall.consume (hashOf token) (.fixed Session.sampleInstant) .default
    let x := consumeAttempt [row] (hashOf token) (.fixed Session.sampleInstant) .default
    let deadlock : Fault := { target := .statement .update, state := "40P01" }
    let unordered : Fault := { target := .statement .commit, state := "40001" }
    let d : DurableStore :=
      { rows := [row], wire := { reachable := true, faults := [deadlock, unordered] } }
    (∀ i < 2, x.Conflicts (x.wireAfter i d.wire)) ∧ ¬ x.Conflicts (x.wireAfter 2 d.wire) ∧
      (d.perform call).events = lockWarnings .consume x d.wire 2 ∧
        ∃ seen, (d.perform call).outcome = .done (.accepted seen .first) := by
  intro token row call x deadlock unordered d
  have lost : ∀ i < 2, x.Conflicts (x.wireAfter i d.wire) := by decide +kernel
  have unlost : ¬ x.Conflicts (x.wireAfter 2 d.wire) := by decide +kernel
  have hperform := ((repetition d).1 _ _ _).decided 2 (by decide) lost unlost
  refine ⟨lost, unlost, ?_, row.stamp Session.sampleInstant
    ⟨Session.sampleInstant.nanos + Policy.default.grace.nanos⟩, ?_⟩
  · rw [hperform]
    decide +kernel
  · rw [hperform]
    decide +kernel

end DurableStore

end TokenRotation

import TokenRotation.Proofs.Surface
import TokenRotation.Proofs.Sweeps
import TokenRotation.Proofs.Theft

/-!
# Alarms

That a token was taken for stolen is told nowhere but in the log: the client learns that it is
refused, as with any other refusal. So the event has to be there exactly once whenever the family
was swept for it, and not at all when it was not, be it that the sweep was lost to a conflict and
made again, or that it was rolled back.

An operation presents a token first of all or never, and tells of a theft only right after the store
did. Everything else that it does is quiet: it presents nothing, tells of no theft, and sweeps only
if it was asked to. So the alarms of the log are the alarms of the deeds, and a deed with an alarm
is the only one of its step.

* `Event.tellsReuse`, `Deed.reused?` -- the event, and the deed that it tells of;
* `Program.Quiet` -- a program that can raise no alarm, whatever it is replied;
* `Program.Audited` -- every run of a program raises no alarm, or one;
* `Session.Work.audited` -- every operation is audited, by itself and over HTTP;
* `Session.auditsReuse` -- **reuse is audited exactly once**, whatever faults there are.
-/

namespace TokenRotation

open Store

/-! ## 1. Events -/

namespace Event

/-- The event is of the type that tells of reuse. -/
def tellsReuse (e : Event) : Bool :=
  e.fields.contains ("event_type", .text "REFRESH_TOKEN_REUSE")

theorem tellsReuse_failureEvent (failure : Failure) :
    (Http.failureEvent failure).tellsReuse = false := by
  cases failure <;> rfl

/-- The event tells of trouble with the database: of an attempt that was lost, or of the last one
    that was made. -/
inductive TellsTrouble : Event → Prop
  | conflict (work : LockedWork) (attempt : Nat) (error : String) :
    TellsTrouble (.lockConflict work attempt error)
  | failed (error : String) : TellsTrouble (.databaseFailed error)
  | exhausted (error : String) : TellsTrouble (.databaseExhausted error)

theorem TellsTrouble.tellsReuse {e : Event} (h : e.TellsTrouble) : e.tellsReuse = false := by
  cases h <;> rfl

end Event

/-! ## 2. What stores log -/

/-- A store in memory logs nothing. -/
theorem MemoryStore.events_perform (m : MemoryStore) (call : StoreCall) :
    (m.perform call).events = [] := by
  have silent : (m.work call).events = [] := by
    cases call with
    | insert token =>
      change (m.add token).events = []
      unfold add
      split <;> rfl
    | consume hash clock policy =>
      change (m.consume hash clock policy).events = []
      unfold consume
      split
      · rw [consumeAt_eq_present]
      · rfl
    | revokeFamily | revokeSubject | link | getByHash | listFamily => rfl
  unfold perform locked
  split
  · rfl
  · split
    · rfl
    · exact silent

namespace DurableStore

variable {α : Type}

theorem tellsTrouble_repeating {work : LockedWork} {attempt : Attempt α} {left number : Nat}
    {wire : Wire} :
    ∀ e ∈ (repeating work attempt left number wire).events, e.TellsTrouble := by
  induction left generalizing number wire with
  | zero => exact fun e he => absurd he List.not_mem_nil
  | succ left ih =>
    unfold repeating
    split
    · split
      · intro e he
        rcases List.mem_cons.mp he with rfl | he
        · exact .conflict work number _
        · exact ih e he
      · exact fun e he => absurd he List.not_mem_nil
    · exact fun e he => absurd he List.not_mem_nil

theorem tellsTrouble_error (error : DatabaseError) : ∀ e ∈ error.events, e.TellsTrouble := by
  intro e he
  unfold DatabaseError.events at he
  split at he
  · rw [List.mem_singleton.mp he]
    exact .exhausted _
  · rw [List.mem_singleton.mp he]
    exact .failed _
  · cases he

theorem tellsTrouble_settle {d : DurableStore} {a : Attempted (α × Table)}
    {failure : DatabaseError → Failure} (h : ∀ e ∈ a.events, e.TellsTrouble) :
    ∀ e ∈ (d.settle a failure).events, e.TellsTrouble := by
  unfold settle
  split
  · exact h
  · next error _ =>
    intro e he
    rcases List.mem_append.mp he with he | he
    · exact h e he
    · exact tellsTrouble_error error e he
  · exact h

/-- A database logs its own trouble and nothing else. -/
theorem tellsTrouble_perform (d : DurableStore) (call : StoreCall) :
    ∀ e ∈ (d.perform call).events, e.TellsTrouble := by
  cases call with
  | insert | link | getByHash | listFamily =>
    exact tellsTrouble_settle fun e he => absurd he List.not_mem_nil
  | consume | revokeFamily | revokeSubject => exact tellsTrouble_settle tellsTrouble_repeating

end DurableStore

/-- **No store tells of reuse by itself.** -/
theorem AnyStore.tellsReuse_perform (s : AnyStore) (call : StoreCall) :
    ∀ e ∈ (s.perform call).events, e.tellsReuse = false := by
  cases s with
  | memory m =>
    intro e he
    change e ∈ (m.perform call).events at he
    rw [m.events_perform] at he
    cases he
  | durable d => exact fun e he => (d.tellsTrouble_perform call e he).tellsReuse

/-! ## 3. Deeds -/

/-- Where a cell of all rows is what it was, it changed nowhere. -/
theorem Table.countChanged_eq_zero {β : Type} [DecidableEq β] {cell : Row → β}
    {rows later : Table} (h : rows.map cell <+: later.map cell) :
    rows.countChanged cell later = 0 := by
  obtain ⟨more, h⟩ := h
  induction rows generalizing later with
  | nil => rfl
  | cons r rest ih =>
    cases later with
    | nil => cases h
    | cons s later =>
      obtain ⟨hcell, hrest⟩ := List.cons.inj h
      have hcount := ih hrest
      rw [countChanged] at hcount ⊢
      rw [List.zip_cons_cons, List.countP_cons, hcount]
      simp [hcell]

theorem StoreKind.revocations_stay_change (k : StoreKind) {chosen : Row → Bool}
    (change : Row → Row) (same : ∀ r, (change r).revokedAt = r.revokedAt) (rows : Table) :
    rows.map Row.revokedAt <+: (k.change chosen change rows).map Row.revokedAt := by
  have hrows : List.Forall₂ (fun r s => r.revokedAt = s.revokedAt) rows
      (k.change chosen change rows) :=
    k.forall₂_change (R := fun r s => r.revokedAt = s.revokedAt) (fun _ => rfl)
      (fun r _ => (same r).symm) rows
  have hcells := List.forall₂_map_left_iff.mpr (List.forall₂_map_right_iff.mpr hrows)
  rw [List.forall₂_eq_eq_eq] at hcells
  exact hcells ▸ List.prefix_rfl

/-- The call is a sweep that was asked for. -/
def StoreCall.isSweep : StoreCall → Bool
  | .revokeFamily .. | .revokeSubject .. => true
  | _ => false

namespace Deed

/-- The row that was taken for stolen in the deed, and how many rows were revoked for it. -/
def reused? : Deed → Option (Row × Nat)
  | ⟨_, _, .consume .., .done (.reused row count), _⟩ => some (row, count)
  | _ => none

theorem reused?_eq_some_iff {actor : Nat} {before after : Table} {hash : String} {clock : Clock}
    {policy : Policy} {outcome : Outcome ConsumeOutcome} {row : Row} {count : Nat} :
    reused? ⟨actor, before, .consume hash clock policy, outcome, after⟩ = some (row, count) ↔
      outcome = .done (.reused row count) := by
  cases outcome with
  | done answer => cases answer <;> simp [reused?]
  | failed | aborted => simp [reused?]

variable {k : StoreKind} {d : Deed}

/-- **A deed with an alarm** found the row of the presented hash, and revoked what was left of its
    family. -/
theorem Lawful.of_reused (lawful : d.Lawful k) {row : Row} {count : Nat}
    (h : d.reused? = some (row, count)) :
    ∃ hash, d.presented? = some hash ∧ d.before.byHash? hash = some row ∧
      count = d.before.countChanged Row.revokedAt d.after := by
  obtain ⟨actor, before, call, outcome, after⟩ := d
  change Settled k before call outcome after at lawful
  unfold reused? at h
  split at h
  · next heq =>
    cases heq
    cases h
    cases lawful.carried_of_done with
    | reuse found shown verdict =>
      exact ⟨_, rfl, found, (Table.countChanged_revokedAt_sweep _).symm⟩
  · cases h

/-- **A deed without an alarm** that is no sweep leaves every revocation as it was. -/
theorem Lawful.revocations_stay (lawful : d.Lawful k) (silent : d.reused? = none)
    (unswept : d.call.isSweep = false) :
    d.before.map Row.revokedAt <+: d.after.map Row.revokedAt := by
  obtain ⟨actor, before, call, outcome, after⟩ := d
  change Settled k before call outcome after at lawful
  change call.isSweep = false at unswept
  cases lawful with
  | kept => exact List.prefix_rfl
  | carried h =>
    cases h with
    | unknown | refused | grace | getByHash | listFamily => exact List.prefix_rfl
    | insert => simp
    | first =>
      exact k.revocations_stay_change (·.stamp _ _) (fun r => r.revokedAt_stamp _ _) before
    | @link id successor _ =>
      exact k.revocations_stay_change (fun r => { r with replacedBy := some successor })
        (fun _ => rfl) before
    | reuse => cases silent
    | revokeFamily | revokeSubject => cases unswept

end Deed

theorem History.eq_of_nil {k : StoreKind} {rows after : Table} (h : History k rows [] after) :
    rows = after := by
  cases h
  rfl

/-- A single deed leads from the table before it to the table after it. -/
theorem History.of_singleton {k : StoreKind} {rows after : Table} {d : Deed}
    (h : History k rows [d] after) : d.before = rows ∧ d.Lawful k ∧ d.after = after := by
  have hparts : History k rows ([] ++ d :: []) after := h
  obtain ⟨hfront, lawful, hback⟩ := hparts.split_cons
  exact ⟨hfront.eq_of_nil.symm, lawful, hback.eq_of_nil⟩

/-- **Deeds without an alarm** among which there is no sweep leave every revocation as it was. -/
theorem History.revocations_stay {k : StoreKind} {rows after : Table} {deeds : List Deed}
    (h : History k rows deeds after)
    (quiet : ∀ d ∈ deeds, d.reused? = none ∧ d.call.isSweep = false) :
    rows.map Row.revokedAt <+: after.map Row.revokedAt := by
  induction h with
  | nil => exact List.prefix_rfl
  | @cons d deeds after lawful rest ih =>
    obtain ⟨silent, unswept⟩ := quiet d List.mem_cons_self
    exact (lawful.revocations_stay silent unswept).trans
      (ih fun d' hd' => quiet d' (List.mem_cons_of_mem d hd'))

/-! ## 4. Programs -/

/-- The request can raise no alarm: it is no presentation, it tells of no reuse, and it is no sweep
    unless sweeps were asked for. -/
def Request.IsQuiet (sweeps : Bool) : Request → Prop
  | .store (.consume ..) => False
  | .store call => call.isSweep → sweeps
  | .log event => event.tellsReuse = false
  | _ => True

namespace Program

variable {α β : Type} {sweeps : Bool} {p : Program α}

/-- **Whatever it is replied, the program raises no alarm**, and it sweeps only if it was asked
    to. -/
def Quiet (sweeps : Bool) : Program α → Prop
  | .finish _ => True
  | .request r next => r.IsQuiet sweeps ∧ ∀ reply, (next reply).Quiet sweeps

theorem quiet_bind {f : α → Program β} (h : p.Quiet sweeps) (hf : ∀ a, (f a).Quiet sweeps) :
    (p >>= f).Quiet sweeps := by
  induction p with
  | finish outcome =>
    cases outcome with
    | done a => exact hf a
    | failed | aborted => exact trivial
  | request r next ih => exact ⟨h.1, fun reply => ih reply (h.2 reply)⟩

theorem quiet_map (h : p.Quiet sweeps) (f : α → β) : (p >>= fun a => pure (f a)).Quiet sweeps :=
  quiet_bind h fun _ => trivial

theorem quiet_store {call : StoreCall} (h : (Request.store call).IsQuiet sweeps) :
    (store call).Quiet sweeps :=
  ⟨h, fun reply => by cases reply <;> exact trivial⟩

theorem quiet_log {event : Event} (h : event.tellsReuse = false) : (log event).Quiet sweeps :=
  ⟨h, fun _ => trivial⟩

theorem quiet_log_bind {event : Event} {f : Unit → Program α} (h : event.tellsReuse = false)
    (hf : (f ()).Quiet sweeps) : (log event >>= f).Quiet sweeps :=
  quiet_bind (quiet_log h) fun _ => hf

theorem quiet_now (clock : Clock) : (now clock).Quiet sweeps := by
  unfold now
  split <;> exact trivial

/-- **A run that raised no alarm**: the log tells of no more reuse than before, no deed found any,
    and none was a sweep unless it was asked for. -/
structure Silent (sweeps : Bool) (said log : List Event) (deeds : List Deed) : Prop where
  untold : log.filter Event.tellsReuse = said.filter Event.tellsReuse
  honest : ∀ d ∈ deeds, d.reused? = none
  unswept : sweeps = false → ∀ d ∈ deeds, d.call.isSweep = false

/-- **A run that raised one**: its only deed found reuse of the token that it presented, and the log
    tells of that deed once. -/
def Alarmed (token? : Option String) (said log : List Event) (deeds : List Deed) : Prop :=
  ∃ d token row count, deeds = [d] ∧ token? = some token ∧ d.presented? = some (hashOf token) ∧
    d.reused? = some (row, count) ∧
    log.filter Event.tellsReuse =
      said.filter Event.tellsReuse ++ [.reuseDetected row.family row.id count]

/-- **Every run raises no alarm, or one.** -/
def Audited (token? : Option String) (sweeps : Bool) (p : Program α) : Prop :=
  ∀ (actor : Nat) (w : World AnyStore),
    Silent sweeps w.log (p.run w).2.log (p.deeds actor w) ∨
      Alarmed token? w.log (p.run w).2.log (p.deeds actor w)

/-- A call is answered with a value if the store answers with it. -/
theorem answer_eq_ok_iff {w : World AnyStore} {call : StoreCall} {value : call.Answer} :
    (answer w (.store call)).1 = .ok (.ok value) ↔
      (w.store.perform call).outcome = .done value := by
  have hperform : TokenStore.perform w.store call = w.store.perform call := rfl
  simp only [answer, hperform]
  cases (w.store.perform call).outcome <;> simp

/-- A store adds no alarm to the log. -/
theorem filter_log_answer (w : World AnyStore) (call : StoreCall) :
    (answer w (.store call)).2.log.filter Event.tellsReuse = w.log.filter Event.tellsReuse := by
  have hlog : (answer w (.store call)).2.log = w.log ++ (w.store.perform call).events := by
    simp only [answer]
    split <;> rfl
  have silent : (w.store.perform call).events.filter Event.tellsReuse = [] :=
    List.filter_eq_nil_iff.mpr fun e he => by
      rw [w.store.tellsReuse_perform call e he]
      exact Bool.false_ne_true
  rw [hlog, List.filter_append, silent, List.append_nil]

theorem Silent.refl (sweeps : Bool) (log : List Event) : Silent sweeps log log [] :=
  ⟨rfl, fun _ hd => absurd hd List.not_mem_nil, fun _ _ hd => absurd hd List.not_mem_nil⟩

/-- A call that does not find reuse raises no alarm. -/
theorem silent_call {call : StoreCall} {actor : Nat} {w : World AnyStore}
    (honest : ∀ d ∈ observed actor w (.store call), d.reused? = none)
    (asked : call.isSweep → sweeps) :
    Silent sweeps w.log (answer w (.store call)).2.log (observed actor w (.store call)) where
  untold := filter_log_answer w call
  honest
  unswept unasked d hd := by
    rw [List.mem_singleton.mp hd]
    rw [unasked] at asked
    exact Bool.eq_false_iff.mpr fun h => absurd (asked h) Bool.false_ne_true

/-- A quiet request raises no alarm. -/
theorem silent_answer {r : Request} (h : r.IsQuiet sweeps) (actor : Nat) (w : World AnyStore) :
    Silent sweeps w.log (answer w r).2.log (observed actor w r) := by
  cases r with
  | secret | uuid => exact .refl sweeps w.log
  | log event =>
    have silent : event.tellsReuse = false := h
    refine ⟨by simp [answer, silent], ?_, fun _ => ?_⟩ <;>
      exact fun _ hd => absurd hd List.not_mem_nil
  | store call =>
    cases call with
    | consume => exact h.elim
    | insert | revokeFamily | revokeSubject | link | getByHash | listFamily =>
      refine silent_call (fun d hd => ?_) h
      rw [List.mem_singleton.mp hd]
      rfl

theorem Silent.append {said mid log : List Event} {deeds more : List Deed}
    (h : Silent sweeps said mid deeds) (h' : Silent sweeps mid log more) :
    Silent sweeps said log (deeds ++ more) where
  untold := h'.untold.trans h.untold
  honest d hd := (List.mem_append.mp hd).elim (h.honest d) (h'.honest d)
  unswept unasked d hd := (List.mem_append.mp hd).elim (h.unswept unasked d) (h'.unswept unasked d)

/-- A request that raises no alarm, before a program that raises none. -/
theorem Silent.prepend {r : Request} {next : r.Reply → Program α} {actor : Nat} {w : World AnyStore}
    (first : Silent sweeps w.log (answer w r).2.log (observed actor w r))
    (rest : ∀ reply w', answer w r = (.ok reply, w') →
      Silent sweeps w'.log ((next reply).run w').2.log ((next reply).deeds actor w')) :
    Silent sweeps w.log ((request r next).run w).2.log ((request r next).deeds actor w) := by
  rcases hanswer : answer w r with ⟨cause | reply, w'⟩
  · rw [hanswer] at first
    simpa only [run, deeds, hanswer, List.append_nil] using first
  · rw [hanswer] at first
    simp only [run, deeds, hanswer]
    exact first.append (rest reply w' hanswer)

/-- **A quiet program** raises no alarm. -/
theorem Quiet.silent (h : p.Quiet sweeps) (actor : Nat) (w : World AnyStore) :
    Silent sweeps w.log (p.run w).2.log (p.deeds actor w) := by
  induction p generalizing w with
  | finish outcome => exact .refl sweeps w.log
  | request r next ih =>
    exact .prepend (silent_answer h.1 actor w) fun reply w' _ => ih reply (h.2 reply) w'

theorem Quiet.audited (h : p.Quiet sweeps) (token? : Option String) : p.Audited token? sweeps :=
  fun actor w => .inl (h.silent actor w)

theorem audited_pure (token? : Option String) (sweeps : Bool) (a : α) :
    (pure a : Program α).Audited token? sweeps :=
  fun _ w => .inl (.refl sweeps w.log)

/-- An entry in the log that is no alarm, before a program that is audited. -/
theorem audited_log_bind {event : Event} {f : Unit → Program α} {token? : Option String}
    (quiet : event.tellsReuse = false) (h : (f ()).Audited token? sweeps) :
    (log event >>= f).Audited token? sweeps := by
  intro actor w
  have hsaid : (w.log ++ [event]).filter Event.tellsReuse = w.log.filter Event.tellsReuse := by
    simp [quiet]
  rw [run_log_bind]
  rcases h actor { w with log := w.log ++ [event] } with silent | alarmed
  · exact .inl ⟨silent.untold.trans hsaid, silent.honest, silent.unswept⟩
  · obtain ⟨d, token, row, count, hd, htoken, presented, reused, told⟩ := alarmed
    exact .inr ⟨d, token, row, count, hd, htoken, presented, reused, hsaid ▸ told⟩

/-- A program that makes something else of the value raises the alarms of the program before it. -/
theorem Audited.map {token? : Option String} (h : p.Audited token? sweeps) (f : α → β) :
    (p >>= fun a => pure (f a)).Audited token? sweeps := by
  intro actor w
  have hdeeds : (p >>= fun a => pure (f a)).deeds actor w = p.deeds actor w := by
    rw [deeds_bind]
    split <;> exact List.append_nil _
  rw [run_map, hdeeds]
  exact h actor w

end Program

/-! ## 5. Services -/

namespace Service

open Program

variable {sweeps : Bool} {policy : Policy} {now : Instant}

/-- What was answered to a presentation is told quietly, unless it was reuse. -/
theorem quiet_concludeConsume {outcome : ConsumeOutcome}
    (honest : ∀ row count, outcome ≠ .reused row count) :
    (concludeConsume outcome).Quiet sweeps := by
  cases outcome with
  | reused row count => exact absurd rfl (honest row count)
  | unknown | rejected | accepted => exact quiet_log_bind rfl trivial

/-- **A program that presents a token first** and is quiet from then on raises no alarm, or ends
    with one. -/
theorem audited_consume_bind {α : Type} {token : String} {clock : Clock}
    {f : ConsumedToken → Program α} (quiet : ∀ consumed, (f consumed).Quiet sweeps) :
    (consume policy token clock >>= f).Audited (some token) sweeps := by
  change (log (.entered (.consume clock)) >>= fun _ =>
    (store (.consume (hashOf token) clock policy) >>= concludeConsume) >>= f).Audited _ _
  refine audited_log_bind rfl fun actor w => ?_
  let call := StoreCall.consume (hashOf token) clock policy
  let next (reply : Except Failure ConsumeOutcome) : Program α :=
    (match reply with
      | .ok outcome => concludeConsume outcome
      | .error e => fail e) >>= f
  have hprogram : ((store call >>= concludeConsume) >>= f) = request (.store call) next :=
    congrArg (request (.store call)) (funext fun reply => by cases reply <;> rfl)
  rw [hprogram]
  let d : Deed := ⟨actor, w.store.rows, call, (w.store.perform call).outcome,
    (w.store.perform call).store.rows⟩
  cases reused : d.reused? with
  | none =>
    refine .inl (.prepend ?_ fun reply w' hanswer => ?_)
    · exact silent_call (fun d' hd' => List.mem_singleton.mp hd' ▸ reused) nofun
    · have quiet_next : (next reply).Quiet sweeps := by
        refine quiet_bind ?_ quiet
        cases reply with
        | error e => exact trivial
        | ok outcome =>
          refine quiet_concludeConsume fun row count heq => ?_
          have hdone := answer_eq_ok_iff.mp (congrArg Prod.fst hanswer)
          simp [d, Deed.reused?, hdone, heq] at reused
      exact quiet_next.silent actor w'
  | some found =>
    obtain ⟨row, count⟩ := found
    have hdone := answer_eq_ok_iff.mpr (Deed.reused?_eq_some_iff.mp reused)
    have hlog := filter_log_answer w call
    rcases hanswer : answer w (.store call) with ⟨reply?, w'⟩
    rw [hanswer] at hdone hlog
    obtain rfl : reply? = .ok (.ok (.reused row count)) := hdone
    simp only [run, deeds, hanswer]
    refine .inr ⟨d, token, row, count, rfl, rfl, rfl, reused, ?_⟩
    -- the alarm is logged, and the refusal of the token ends the program
    change (w'.log ++ [Event.reuseDetected row.family row.id count]).filter Event.tellsReuse = _
    rw [List.filter_append, hlog]
    rfl

theorem quiet_issueWithin {subject : String} {family : Uuid} {left number : Nat} :
    (issueWithin policy subject family now left number).Quiet sweeps := by
  induction left generalizing number with
  | zero => exact trivial
  | succ left ih =>
    refine ⟨trivial, fun secret => ⟨trivial, fun id => ?_⟩⟩
    cases policy.expiresAt? now with
    | none => exact trivial
    | some expiresAt =>
      refine ⟨nofun, fun reply => ?_⟩
      match reply with
      | .ok row => exact ⟨rfl, fun _ => trivial⟩
      | .error .hashCollision => exact ⟨rfl, fun _ => ih⟩
      | .error (.database _) | .error (.invalidInput _) | .error .notFound
      | .error (.refused _) => exact trivial

theorem quiet_issue (subject : String) (family? : Option Uuid) :
    (issue policy subject family? now).Quiet sweeps := by
  refine quiet_log_bind rfl ?_
  split
  · exact trivial
  · cases family? with
    | some family => exact quiet_issueWithin
    | none => exact ⟨trivial, fun fresh => quiet_issueWithin⟩

/-- **A rotation** raises an alarm only for the token that it presents. -/
theorem audited_rotate (token : String) (clock : Clock) :
    (rotate policy token clock).Audited (some token) sweeps := by
  refine audited_consume_bind fun consumed => quiet_bind (quiet_now clock) fun now => ?_
  refine quiet_bind (quiet_issue _ _) fun issued => quiet_bind (quiet_store nofun) fun linked => ?_
  split
  · exact trivial
  · exact quiet_log_bind rfl trivial

theorem quiet_revokeFamily (family : Uuid) : (revokeFamily family now).Quiet true :=
  quiet_log_bind rfl (quiet_bind (quiet_store fun _ => rfl) fun _ => quiet_log_bind rfl trivial)

theorem quiet_revokeSubject (subject : String) : (revokeSubject subject now).Quiet true :=
  quiet_log_bind rfl (quiet_bind (quiet_store fun _ => rfl) fun _ => quiet_log_bind rfl trivial)

theorem quiet_authenticate (token : String) : (authenticate token now).Quiet sweeps := by
  refine quiet_bind (quiet_store nofun) fun found => ?_
  cases found with
  | none => exact trivial
  | some row =>
    simp only
    split
    · exact trivial
    · exact trivial
    · exact quiet_log_bind rfl trivial

theorem quiet_logout (token : String) : (logout token now).Quiet true :=
  quiet_bind (quiet_authenticate token) fun row => quiet_revokeFamily row.family

theorem quiet_logoutEverywhere (token : String) : (logoutEverywhere token now).Quiet true :=
  quiet_bind (quiet_authenticate token) fun row => quiet_revokeSubject row.subject

end Service

/-! ## 6. Requests -/

namespace Http

open Program

/-- A failure that becomes a response is told by an event of its own, which is no alarm. -/
theorem audited_handled {token? : Option String} {sweeps : Bool} {p : Program Response}
    (h : p.Audited token? sweeps) : (handled p).Audited token? sweeps := by
  intro actor w
  have hdeeds : (handled p).deeds actor w = p.deeds actor w := by
    rw [handled, deeds_bind, deeds_attempt, run_attempt]
    rcases p.run w with ⟨outcome, w'⟩
    cases outcome <;> exact List.append_nil _
  have hlog : ((handled p).run w).2.log.filter Event.tellsReuse =
      (p.run w).2.log.filter Event.tellsReuse := by
    rw [run_handled]
    rcases p.run w with ⟨outcome, w'⟩
    cases outcome with
    | done | aborted => rfl
    | failed failure => simp [Event.tellsReuse_failureEvent]
  rw [hdeeds]
  rcases h actor w with silent | ⟨d, token, row, count, hd, htoken, presented, reused, told⟩
  · exact .inl ⟨hlog.trans silent.untold, silent.honest, silent.unswept⟩
  · exact .inr ⟨d, token, row, count, hd, htoken, presented, reused, hlog.trans told⟩

/-- The endpoint revokes what it is asked to. -/
def Endpoint.sweeps : Endpoint → Bool
  | .refresh => false
  | .logout | .logoutEverywhere => true

/-- The token that an endpoint presents to be rotated. -/
def Endpoint.presents? (token : String) : Endpoint → Option String
  | .refresh => some token
  | .logout | .logoutEverywhere => none

theorem Endpoint.audited_handle (endpoint : Endpoint) (policy : Policy) (token : String)
    (clock : Clock) :
    (endpoint.handle policy token clock).Audited (endpoint.presents? token) endpoint.sweeps := by
  cases endpoint with
  | refresh => exact (Service.audited_rotate token clock).map _
  | logout =>
    exact Quiet.audited (quiet_bind (quiet_now clock) fun now =>
      quiet_map (Service.quiet_logout token) _) none
  | logoutEverywhere =>
    exact Quiet.audited (quiet_bind (quiet_now clock) fun now =>
      quiet_map (Service.quiet_logoutEverywhere token) _) none

/-- The request asks to revoke something. -/
def Request.sweeps (r : Request) : Bool := r.asks?.any fun asked => asked.1.sweeps

/-- **A request is audited** as what it asks for. -/
theorem audited_serve (settings : Settings) (r : Request) (clock : Clock) :
    (serve settings r clock).Audited
      (r.asks?.bind fun asked => asked.1.presents? asked.2) r.sweeps := by
  rw [serve_eq]
  refine Audited.map ?_ _
  split
  · exact audited_pure _ _ _
  · unfold respond
    split
    · exact audited_pure _ _ _
    · next endpoint hendpoint =>
      split
      · exact audited_pure _ _ _
      · next hmethod =>
        split
        · next token htoken =>
          have asks : r.asks? = some (endpoint, token) :=
            Request.asks?_eq_some_iff.mpr ⟨not_not.mp hmethod, hendpoint, htoken⟩
          rw [Request.sweeps, asks]
          exact audited_handled (endpoint.audited_handle settings.policy token clock)
        · exact audited_pure _ _ _

end Http

/-! ## 7. Operations -/

namespace Session

open Program

/-- The work is asked to revoke something, by itself or over HTTP. -/
def Work.sweeps : Work → Bool
  | .revokeFamily _ | .revokeSubject _ | .logout _ | .logoutEverywhere _ => true
  | .serve r => r.sweeps
  | _ => false

/-- The command is asked to revoke something. -/
def Command.sweeps : Command → Bool
  | .work w => w.sweeps
  | .isEmpty | .failInserts _ => false

theorem Command.presents?_serve (r : Http.Request) :
    (Command.work (.serve r)).presents? =
      r.asks?.bind fun asked => asked.1.presents? asked.2 := by
  change (if r.method = "POST" ∧ Http.Endpoint.ofPath? r.path = some .refresh then
    (Http.presentedToken r).toOption else none) = _
  unfold Http.Request.asks? Http.Request.token?
  generalize Http.Endpoint.ofPath? r.path = endpoint?
  generalize Http.presentedToken r = presented
  cases endpoint? with
  | none => simp
  | some endpoint =>
    by_cases hpost : r.method = "POST"
    · cases endpoint <;> cases presented <;>
        simp [hpost, Except.toOption, Http.Endpoint.presents?]
    · simp [hpost]

/-- **Every operation is audited.** -/
theorem Work.audited {work : Work} (own : ∀ call, work ≠ .call call) (settings : Settings)
    (clock : Clock) :
    (work.program settings clock).Audited (Command.work work).presents? work.sweeps := by
  cases work with
  | issue subject family? =>
    exact Quiet.audited (quiet_bind (quiet_now clock) fun now =>
      quiet_map (Service.quiet_issue subject family?) _) _
  | consume token => exact Service.audited_consume_bind fun consumed => trivial
  | rotate token => exact (Service.audited_rotate token clock).map _
  | revokeFamily family =>
    exact Quiet.audited (quiet_bind (quiet_now clock) fun now =>
      quiet_map (Service.quiet_revokeFamily family) _) _
  | revokeSubject subject =>
    exact Quiet.audited (quiet_bind (quiet_now clock) fun now =>
      quiet_map (Service.quiet_revokeSubject subject) _) _
  | logout token =>
    exact Quiet.audited (quiet_bind (quiet_now clock) fun now =>
      quiet_map (Service.quiet_logout token) _) _
  | logoutEverywhere token =>
    exact Quiet.audited (quiet_bind (quiet_now clock) fun now =>
      quiet_map (Service.quiet_logoutEverywhere token) _) _
  | link | find | lineage =>
    refine Quiet.audited (quiet_map (quiet_store ?_) _) _
    exact fun sweep => absurd sweep Bool.false_ne_true
  | policy | settings => exact audited_pure _ _ _
  | serve r =>
    rw [Command.presents?_serve]
    exact (Http.audited_serve settings r clock).map _
  | call call => exact absurd rfl (own call)

/-- **Reuse is audited exactly once** in the step. -/
structure AuditsReuse (s : Session) (step : Step) : Prop where
  /-- The log tells of reuse if and only if a presentation of the step came to it in the end. -/
  told : ∀ actor, (∃ e ∈ (s.take step).1.log, e.tellsReuse) ↔
    ∃ d ∈ s.stepDeeds actor step, ∃ row count, d.reused? = some (row, count)
  /-- It tells of it once, as a warning, with the family and the identifier of the presented row and
      the number of rows that were revoked in the step. -/
  once : ∀ e ∈ (s.take step).1.log, e.tellsReuse →
    (s.take step).1.log.filter Event.tellsReuse = [e] ∧ e.level = .warn ∧
      ∃ token row count, step.command.presents? = some token ∧
        s.store.rows.byHash? (hashOf token) = some row ∧
        e.fields = [("event_type", .text "REFRESH_TOKEN_REUSE"),
          ("family_id", .text row.family.text), ("token_id", .text row.id.text),
          ("revoked_rows", .count count)] ∧
        count = s.store.rows.countChanged Row.revokedAt (s.take step).2.store.rows
  /-- Whatever else revokes a row tells of it, unless it was asked to revoke. -/
  forced : step.command.sweeps = false →
    0 < s.store.rows.countChanged Row.revokedAt (s.take step).2.store.rows →
      ∃ e ∈ (s.take step).1.log, e.tellsReuse

/-- The log and the deeds of a step. -/
theorem step_audited (s : Session) {step : Step}
    (own : ∀ call, step.command ≠ .work (.call call)) (actor : Nat) :
    Silent step.command.sweeps [] (s.take step).1.log (s.stepDeeds actor step) ∨
      Alarmed step.command.presents? [] (s.take step).1.log (s.stepDeeds actor step) := by
  obtain ⟨command, clock, faults⟩ := step
  cases command with
  | isEmpty | failInserts => exact .inl (.refl _ [])
  | work work =>
    have audited := Work.audited (fun call heq => own call (congrArg Command.work heq)) s.settings
      clock
    exact audited actor (s.world { command := .work work, clock, faults })

/-- **Reuse is audited exactly once**, on a store of either kind, whatever faults there are and
    whatever is asked of the service. -/
theorem auditsReuse (s : Session) {step : Step}
    (own : ∀ call, step.command ≠ .work (.call call)) : s.AuditsReuse step := by
  have none_of {sweeps : Bool} {deeds : List Deed}
      (silent : Silent sweeps [] (s.take step).1.log deeds) :
      ¬ ∃ e ∈ (s.take step).1.log, e.tellsReuse := by
    rintro ⟨e, he, tells⟩
    exact List.filter_eq_nil_iff.mp silent.untold e he tells
  have some_of {token? : Option String} {deeds : List Deed}
      (alarmed : Alarmed token? [] (s.take step).1.log deeds) :
      ∃ e ∈ (s.take step).1.log, e.tellsReuse := by
    obtain ⟨-, -, row, count, -, -, -, -, told⟩ := alarmed
    have hmem : Event.reuseDetected row.family row.id count ∈
        (s.take step).1.log.filter Event.tellsReuse := told ▸ List.mem_singleton_self _
    exact ⟨_, (List.mem_filter.mp hmem).1, rfl⟩
  refine ⟨fun actor => ?_, fun e he tells => ?_, fun unasked changed => ?_⟩
  · rcases s.step_audited own actor with silent | alarmed
    · refine iff_of_false (none_of silent) ?_
      rintro ⟨d, hd, row, count, reused⟩
      rw [silent.honest d hd] at reused
      cases reused
    · refine iff_of_true (some_of alarmed) ?_
      obtain ⟨d, token, row, count, hdeeds, -, -, reused, -⟩ := alarmed
      exact ⟨d, hdeeds ▸ List.mem_singleton_self d, row, count, reused⟩
  · rcases s.step_audited own 0 with silent | alarmed
    · exact absurd ⟨e, he, tells⟩ (none_of silent)
    · obtain ⟨d, token, row, count, hdeeds, htoken, presented, reused, told⟩ := alarmed
      have hmem := List.mem_filter.mpr ⟨he, tells⟩
      rw [told] at hmem
      obtain rfl := List.mem_singleton.mp hmem
      have history := (s.history_take 0 step).1
      rw [hdeeds] at history
      obtain ⟨hbefore, lawful, hafter⟩ := history.of_singleton
      obtain ⟨hash, hhash, found, hcount⟩ := lawful.of_reused reused
      rw [presented] at hhash
      cases hhash
      rw [hbefore] at found hcount
      rw [hafter] at hcount
      exact ⟨told, rfl, token, row, count, htoken, found, rfl, hcount⟩
  · rcases s.step_audited own 0 with silent | alarmed
    · have kept := (s.history_take 0 step).1.revocations_stay fun d hd =>
        ⟨silent.honest d hd, silent.unswept unasked d hd⟩
      rw [Table.countChanged_eq_zero kept] at changed
      exact absurd changed (Nat.lt_irrefl 0)
    · exact some_of alarmed

/-- A minute after its token was consumed, a refresh presents it again. If the sweep of the family
    is lost to a deadlock, it is made again, and the log tells of it once, with both rows. If it is
    rolled back because the commit fails, the log does not tell of it. -/
theorem auditsReuse_of_conflict :
    let request : Http.Request :=
      { method := "POST", target := "/api/auth/refresh"
        headers := [("content-type", "application/json")]
        body := "[\"first\"]".toUTF8.toList }
    let first := sampleRow "first" "alice" (.ofLists [] [])
    let deadline : Instant := ⟨sampleInstant.nanos + Policy.default.grace.nanos⟩
    let replayed := first.1.stamp sampleInstant deadline
    let sibling : Row := { first.1 with id := .ofNat 7, hash := hashOf "sibling" }
    let s : Session := { store := .durableOf [replayed, sibling] { reachable := true }
                         draws := first.2, settings := .trial .default }
    let now : Instant := ⟨sampleInstant.nanos + (Duration.ofSeconds 60).nanos⟩
    let replay (fault : Fault) : Step :=
      { command := .work (.serve request), clock := .fixed now, faults := [fault] }
    let deadlock : Fault :=
      { target := .statement .update, state := "40P01", notice := ⟨"deadlock detected", ""⟩ }
    let crash : Fault := { target := .statement .commit, state := "XX000" }
    (s.AuditsReuse (replay deadlock) ∧ s.AuditsReuse (replay crash)) ∧
      (s.take (replay deadlock)).1.log =
        [.entered (.consume (.fixed now)), .lockConflict .consume 1 "deadlock detected",
          .reuseDetected first.1.family first.1.id 2, .requestRefused .reused] ∧
      (s.take (replay crash)).1.log =
        [.entered (.consume (.fixed now)), .databaseFailed "",
          .requestFailed (.database "Database operation failed")] ∧
      s.store.rows.countChanged Row.revokedAt (s.take (replay crash)).2.store.rows = 0 := by
  intro request first deadline replayed sibling s now replay deadlock crash
  exact ⟨⟨auditsReuse s nofun, auditsReuse s nofun⟩, by decide +kernel, by decide +kernel,
    by decide +kernel⟩

end Session

end TokenRotation

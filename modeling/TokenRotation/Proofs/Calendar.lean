import TokenRotation.Proofs.Grammar
import TokenRotation.Proofs.Reference

/-!
# The ends of the calendar

The dates of a token are sums, and a sum may lie after the last day of the calendar; then the work
that needs it is broken off. The settings keep a lifetime and a grace window positive and countable,
which is not enough: a duration can be counted that leads out of the calendar from any day on. Up to
the end of the year 9999 the calendar holds every sum only for lifetimes of 92093340 days and grace
windows of 7956864576000 seconds at most, and much longer ones are taken in.

Nothing but such a sum breaks off issuing, consuming and rotating by a fixed instant, whatever the
store and its faults, unless work was broken off before behind the lock of a store in memory. Where
a sum lies outside, issuing is broken off before the store is asked, and
a first use with the table as it was; but a rotation whose token was taken is broken off after that,
and the token stays consumed without a successor.

* `AnyStore.breaks_of_aborted` -- a store breaks off a presentation and nothing else, as long as its
  lock is not poisoned;
* `Program.BreaksFor` -- what a program may be broken off for, on any store with any faults;
* `Instant.add?_eq_none_iff_last_lt`, `Instant.forall_add?_ne_none_iff` -- which sums the calendar
  holds;
* `Session.dates` -- **where the calendar ends for a service under its settings**.
-/

namespace TokenRotation

open Store

/-! ## 1. What a store breaks off -/

namespace Store.Attempt

variable {α β : Type} {P : Abort → Prop} {x : Attempt α} {f : α → Attempt β}

/-- **The attempt is broken off for such causes only.** -/
def BreaksFor (P : Abort → Prop) (x : Attempt α) : Prop :=
  ∀ wire cause, (x wire).1 = .error (.aborted cause) → P cause

theorem breaksFor_pure (a : α) : (pure a : Attempt α).BreaksFor P := fun _ _ h => by cases h

theorem breaksFor_refuse (state : String) (constraint : Option String) (s : Statement)
    (texts : List String) : (refuse state constraint s texts : Attempt α).BreaksFor P :=
  fun _ _ h => by cases h

theorem breaksFor_aborted {cause : Abort} (h : P cause) :
    (giveUp (.aborted cause) : Attempt α).BreaksFor P := by
  rintro _ _ ⟨⟩
  exact h

theorem breaksFor_bind (hx : x.BreaksFor P) (hf : ∀ a, (f a).BreaksFor P) :
    (x >>= f).BreaksFor P := by
  intro wire cause h
  rcases hfirst : x wire with ⟨e | a, wire₁⟩
  · rw [bind_of_error hfirst] at h
    refine hx wire cause ?_
    rw [hfirst]
    cases h
    rfl
  · rw [bind_of_ok hfirst] at h
    exact hf a wire₁ cause h

theorem breaksFor_receive (s : Statement) (texts : List String) :
    (receive s texts).BreaksFor P := by
  unfold receive
  split
  · exact breaksFor_refuse _ _ _ _
  · exact breaksFor_pure _

/-- To send a statement is never broken off. -/
theorem breaksFor_send (s : Statement) (texts : List String) : (send s texts).BreaksFor P := by
  refine breaksFor_bind (fun wire cause h => ?_) fun _ wire cause h => ?_
  · unfold openWire at h
    repeat' split at h
    all_goals cases h
  · unfold sendOpen at h
    split at h
    · split at h
      · cases h
      · exact breaksFor_receive s texts wire cause h
    · exact breaksFor_receive s texts wire cause h

/-- Who has read a clock goes on with what it shows. -/
theorem breaksFor_now_bind {clock : Clock} {f : Instant → Attempt β}
    (unread : ∀ cause, clock.now = .error cause → P cause)
    (hf : ∀ t, clock.now = .ok t → (f t).BreaksFor P) : (now clock >>= f).BreaksFor P := by
  cases shown : clock.now with
  | ok t =>
    have heq : (now clock >>= f) = f t := by
      simp only [now, shown]
      rfl
    rw [heq]
    exact hf t shown
  | error cause =>
    have heq : (now clock >>= f) = giveUp (.aborted cause) := by
      simp only [now, shown]
      rfl
    rw [heq]
    exact breaksFor_aborted (unread cause shown)

end Store.Attempt

/-- What a call may be broken off for: a presentation alone, over a clock that cannot be read or a
    grace window that the calendar does not hold. -/
def StoreCall.Breaks (cause : Abort) : StoreCall → Prop
  | .consume _ clock policy => clock.now = .error cause ∨
      (cause = .overflow ∧ ∃ now, clock.now = .ok now ∧ policy.graceExpiresAt? now = none)
  | _ => False

theorem StoreCall.breaks_of_judge {hash : String} {clock : Clock} {policy : Policy} {row : Row}
    {now : Instant} (shown : clock.now = .ok now) (verdict : row.judge now policy = .overflow) :
    (StoreCall.consume hash clock policy).Breaks .overflow :=
  .inr ⟨rfl, now, shown, (Row.judge_eq_overflow_iff.mp verdict).2.2.2⟩

namespace DurableStore

open Attempt

theorem breaksFor_consumeAttempt (rows : Table) (hash : String) (clock : Clock) (policy : Policy) :
    (consumeAttempt rows hash clock policy).BreaksFor fun cause =>
      (StoreCall.consume hash clock policy).Breaks cause := by
  refine breaksFor_bind (breaksFor_send _ _) fun _ => ?_
  refine breaksFor_bind (breaksFor_send _ _) fun _ => ?_
  split
  · exact breaksFor_bind (breaksFor_send _ _) fun _ => breaksFor_pure _
  · next row _ =>
    refine breaksFor_now_bind (fun cause unread => .inl unread) fun now shown => ?_
    split
    · exact breaksFor_bind (breaksFor_send _ _) fun _ => breaksFor_pure _
    · exact breaksFor_bind (breaksFor_send _ _) fun _ =>
        breaksFor_bind (breaksFor_send _ _) fun _ => breaksFor_pure _
    · exact breaksFor_bind (breaksFor_send _ _) fun _ => breaksFor_pure _
    · exact breaksFor_bind (breaksFor_send _ _) fun _ =>
        breaksFor_bind (breaksFor_send _ _) fun _ => breaksFor_pure _
    · next verdict => exact breaksFor_aborted (StoreCall.breaks_of_judge shown verdict)

theorem breaksFor_insertAttempt (rows : Table) (token : NewToken) :
    (insertAttempt rows token).BreaksFor fun _ => False := by
  refine breaksFor_bind (breaksFor_send _ _) fun _ => ?_
  split
  · exact breaksFor_refuse _ _ _ _
  · split
    · exact breaksFor_refuse _ _ _ _
    · split
      · exact breaksFor_refuse _ _ _ _
      · exact breaksFor_pure _

theorem breaksFor_revokeAttempt (rows : Table) (texts : List String) (chosen : Row → Bool)
    (now : Instant) : (revokeAttempt rows texts chosen now).BreaksFor fun _ => False :=
  breaksFor_bind (breaksFor_send _ _) fun _ => breaksFor_pure _

theorem breaksFor_linkAttempt (rows : Table) (id successor : Uuid) :
    (linkAttempt rows id successor).BreaksFor fun _ => False := by
  refine breaksFor_bind (breaksFor_send _ _) fun _ => ?_
  split
  · split
    · exact breaksFor_pure _
    · exact breaksFor_refuse _ _ _ _
  · exact breaksFor_pure _

variable {α : Type} {P : Abort → Prop} {attempt : Attempt α}

/-- Repeated or not, it is broken off for the same causes. -/
theorem of_repeating_aborted (h : attempt.BreaksFor P) {work : LockedWork} {left number : Nat}
    {wire : Wire} {cause : Abort}
    (aborted : (repeating work attempt left number wire).result = .error (.aborted cause)) :
    P cause := by
  induction left generalizing number wire with
  | zero => exact h wire cause aborted
  | succ left ih =>
    unfold repeating at aborted
    split at aborted
    · next e wire' heq =>
      split at aborted
      · exact ih aborted
      · cases aborted
    · next result wire' _ heq => exact h wire cause (by rw [heq]; exact aborted)

theorem of_settle_aborted {d : DurableStore} {a : Attempted (α × Table)}
    {failure : DatabaseError → Failure} {cause : Abort}
    (h : (d.settle a failure).outcome = .aborted cause) : a.result = .error (.aborted cause) := by
  unfold settle at h
  split at h
  · cases h
  · cases h
  · next heq =>
    cases h
    exact heq

theorem read_outcome_ne_aborted {d : DurableStore} {texts : List String} {value : α}
    {cause : Abort} : (d.read texts value).outcome ≠ .aborted cause := by
  have never : Attempt.BreaksFor (fun _ => False)
      (do Attempt.send .select texts; pure (value, d.rows) : Attempt (α × Table)) :=
    breaksFor_bind (breaksFor_send _ _) fun _ => breaksFor_pure _
  exact fun h => never d.wire cause (of_settle_aborted h)

/-- **A durable store breaks off a presentation and nothing else.** -/
theorem breaks_of_aborted {d : DurableStore} {call : StoreCall} {cause : Abort}
    (h : (d.perform call).outcome = .aborted cause) : call.Breaks cause := by
  cases call with
  | consume hash clock policy =>
    exact of_repeating_aborted (breaksFor_consumeAttempt d.rows hash clock policy)
      (of_settle_aborted h)
  | insert token =>
    exact (breaksFor_insertAttempt d.rows token d.wire cause (of_settle_aborted h)).elim
  | link id successor =>
    exact (breaksFor_linkAttempt d.rows id successor d.wire cause (of_settle_aborted h)).elim
  | revokeFamily family now =>
    exact (of_repeating_aborted (breaksFor_revokeAttempt d.rows [] _ now)
      (of_settle_aborted h)).elim
  | revokeSubject subject now =>
    exact (of_repeating_aborted (breaksFor_revokeAttempt d.rows [subject] _ now)
      (of_settle_aborted h)).elim
  | getByHash hash | listFamily family =>
    exact (read_outcome_ne_aborted h).elim

end DurableStore

namespace MemoryStore

/-- Behind the lock of a store in memory a presentation is broken off and nothing else. -/
theorem breaks_of_work_aborted {m : MemoryStore} {call : StoreCall} {cause : Abort}
    (h : (m.work call).outcome = .aborted cause) : call.Breaks cause := by
  cases call with
  | insert token =>
    change (m.add token).outcome = _ at h
    unfold add at h
    split at h <;> cases h
  | consume hash clock policy =>
    change (m.consume hash clock policy).outcome = _ at h
    unfold consume at h
    split at h
    · next now shown =>
      unfold consumeAt at h
      split at h
      · cases h
      · next row _ =>
        split at h
        · cases h
        · cases h
        · cases h
        · cases h
        · next verdict =>
          cases h
          exact StoreCall.breaks_of_judge shown verdict
    · next unread =>
      cases h
      exact .inl unread
  | revokeFamily | revokeSubject | link | getByHash | listFamily => cases h

/-- Before a poisoned lock all is broken off that gets there. -/
theorem breaks_of_aborted {m : MemoryStore} {call : StoreCall} {cause : Abort}
    (h : (m.perform call).outcome = .aborted cause) :
    call.Breaks cause ∨ (cause = .poisoned ∧ m.poisoned) := by
  cases due : m.collides call with
  | true =>
    rw [perform_of_collides due] at h
    cases h
  | false =>
    rw [perform_of_not_collides due] at h
    cases poisoned : m.poisoned with
    | true =>
      rw [locked_of_poisoned poisoned] at h
      cases h
      exact .inr ⟨rfl, rfl⟩
    | false =>
      rw [locked_of_sound poisoned] at h
      exact .inl (breaks_of_work_aborted h)

end MemoryStore

namespace AnyStore

/-- Work was broken off behind the lock of the store; a database has none. -/
def isPoisoned : AnyStore → Bool
  | .memory m => m.poisoned
  | .durable _ => false

@[simp] theorem isPoisoned_withFaults (faults : List Fault) (s : AnyStore) :
    (s.withFaults faults).isPoisoned = s.isPoisoned := by
  cases s <;> rfl

theorem isPoisoned_of_isReachable {s : AnyStore} (reachable : s.isReachable) :
    s.isPoisoned = false := by
  cases s with
  | memory m => exact isReachable_memory.mp reachable
  | durable d => rfl

/-- **A store breaks off a presentation and nothing else**: over a clock that cannot be read, or
    over a grace window that the calendar does not hold. Only where its lock is poisoned, every call
    may be broken off. -/
theorem breaks_of_aborted {s : AnyStore} {call : StoreCall} {cause : Abort}
    (h : (s.perform call).outcome = .aborted cause) :
    call.Breaks cause ∨ (cause = .poisoned ∧ s.isPoisoned) := by
  cases s with
  | memory m => exact MemoryStore.breaks_of_aborted h
  | durable d => exact .inl (DurableStore.breaks_of_aborted h)

/-- A call that is not broken off poisons no lock. -/
theorem isPoisoned_of_perform {s : AnyStore} {call : StoreCall}
    (whole : (s.perform call).outcome.isAborted = false)
    (h : (s.perform call).store.isPoisoned) : s.isPoisoned := by
  cases s with
  | memory m =>
    have poisons : (m.perform call).store.poisoned = true := h
    have whole : (m.perform call).outcome.isAborted = false := whole
    rw [m.poisoned_perform, whole, Bool.or_false] at poisons
    exact poisons
  | durable d => exact h

end AnyStore

/-! ## 2. What a program is broken off for -/

namespace Program

variable {α β : Type} {P : Abort → Prop} {p : Program α} {f : α → Program β}

/-- **The program is broken off for such causes only**, on every store and with any faults; or for a
    lock that was poisoned before. -/
def BreaksFor (P : Abort → Prop) (p : Program α) : Prop :=
  ∀ (w : World AnyStore) (cause : Abort), (p.run w).1 = .aborted cause →
    P cause ∨ (cause = .poisoned ∧ w.store.isPoisoned)

/-- A program that ends in a value found the lock as it left it. -/
theorem isPoisoned_of_run {w w' : World AnyStore} {a : α} (h : p.run w = (.done a, w'))
    (poisoned : w'.store.isPoisoned) : w.store.isPoisoned := by
  induction p generalizing w with
  | finish outcome =>
    cases h
    exact poisoned
  | request r next ih =>
    simp only [run] at h
    rcases hanswer : answer w r with ⟨cause | reply, w₁⟩ <;> rw [hanswer] at h
    · cases h
    have first := ih reply h
    cases r with
    | secret | uuid | log =>
      cases hanswer
      exact first
    | store call =>
      have hperform : TokenStore.perform w.store call = w.store.perform call := rfl
      simp only [answer, hperform] at hanswer
      cases houtcome : (w.store.perform call).outcome <;> rw [houtcome] at hanswer <;>
        cases hanswer <;>
        exact AnyStore.isPoisoned_of_perform (by rw [houtcome]; rfl) first

theorem breaksFor_finish {outcome : Outcome α} (h : ∀ cause, outcome = .aborted cause → P cause) :
    (finish outcome).BreaksFor P := fun _ cause aborted => .inl (h cause aborted)

theorem breaksFor_pure (a : α) : (pure a : Program α).BreaksFor P := breaksFor_finish nofun

theorem breaksFor_fail (e : Failure) : (fail e : Program α).BreaksFor P := breaksFor_finish nofun

theorem breaksFor_bind (hp : p.BreaksFor P) (hf : ∀ a, (f a).BreaksFor P) :
    (p >>= f).BreaksFor P := by
  intro w cause h
  rw [run_bind] at h
  rcases hrun : p.run w with ⟨a | e | cause', w'⟩ <;> rw [hrun] at h
  · exact (hf a w' cause h).imp_right (And.imp_right (isPoisoned_of_run hrun))
  · cases h
  · cases h
    exact hp w cause (by rw [hrun])

/-- A call is broken off for what it breaks off, and otherwise the program goes on with the
    reply. -/
theorem breaksFor_call {call : StoreCall} {next : Except Failure call.Answer → Program α}
    (breaks : ∀ cause, call.Breaks cause → P cause) (hnext : ∀ reply, (next reply).BreaksFor P) :
    (request (.store call) next).BreaksFor P := by
  intro w cause h
  have hperform : TokenStore.perform w.store call = w.store.perform call := rfl
  simp only [run, answer, hperform] at h
  cases houtcome : (w.store.perform call).outcome with
  | done | failed =>
    rw [houtcome] at h
    exact (hnext _ _ _ h).imp_right
      (And.imp_right (AnyStore.isPoisoned_of_perform (by rw [houtcome]; rfl)))
  | aborted cause' =>
    rw [houtcome] at h
    cases h
    exact (AnyStore.breaks_of_aborted houtcome).imp_left (breaks cause)

theorem breaksFor_secret_bind {f : Secret → Program β} (hf : ∀ s, (f s).BreaksFor P) :
    (secret >>= f).BreaksFor P :=
  fun w cause h => hf w.draws.secret.1 { w with draws := w.draws.secret.2 } cause h

theorem breaksFor_uuid_bind {f : Uuid → Program β} (hf : ∀ u, (f u).BreaksFor P) :
    (uuid >>= f).BreaksFor P :=
  fun w cause h => hf w.draws.uuid.1 { w with draws := w.draws.uuid.2 } cause h

theorem breaksFor_log_bind {event : Event} {f : Unit → Program β} (hf : (f ()).BreaksFor P) :
    (log event >>= f).BreaksFor P :=
  fun w cause h => hf { w with log := w.log ++ [event] } cause h

theorem breaksFor_store {call : StoreCall} (breaks : ∀ cause, call.Breaks cause → P cause) :
    (store call).BreaksFor P :=
  breaksFor_call breaks fun reply => by
    cases reply with
    | ok answer => exact breaksFor_pure _
    | error e => exact breaksFor_fail _

theorem now_fixed_bind (t : Instant) (f : Instant → Program β) : (now (.fixed t) >>= f) = f t := rfl

theorem breaksFor_ofDate?_bind {date : Option Instant} {f : Instant → Program β}
    (missing : date = none → P .overflow) (hf : ∀ t, date = some t → (f t).BreaksFor P) :
    (ofDate? date >>= f).BreaksFor P := by
  cases date with
  | none =>
    rintro w _ ⟨⟩
    exact .inl (missing rfl)
  | some t => exact hf t rfl

end Program

namespace Service

open Program

variable {policy : Policy} {now : Instant} {P : Abort → Prop}

/-- Issuing is broken off over the expiry alone. -/
theorem breaksFor_issueWithin {subject : String} {family : Uuid} {left number : Nat}
    (missing : policy.expiresAt? now = none → P .overflow) :
    (issueWithin policy subject family now left number).BreaksFor P := by
  induction left generalizing number with
  | zero => exact breaksFor_fail _
  | succ left ih =>
    refine breaksFor_secret_bind fun secret => breaksFor_uuid_bind fun id =>
      breaksFor_ofDate?_bind missing fun expiresAt _ => breaksFor_call nofun fun reply => ?_
    match reply with
    | .ok row => exact breaksFor_log_bind (breaksFor_pure _)
    | .error .hashCollision => exact breaksFor_log_bind ih
    | .error (.database _) | .error (.invalidInput _) | .error .notFound | .error (.refused _) =>
      exact breaksFor_fail _

theorem breaksFor_issue {subject : String} {given : Option Uuid}
    (missing : policy.expiresAt? now = none → P .overflow) :
    (issue policy subject given now).BreaksFor P := by
  refine breaksFor_log_bind ?_
  split
  · exact breaksFor_fail _
  · cases given with
    | some family => exact breaksFor_issueWithin missing
    | none => exact breaksFor_uuid_bind fun family => breaksFor_issueWithin missing

/-- Consuming is broken off over the grace window alone. -/
theorem breaksFor_consume {token : String}
    (missing : policy.graceExpiresAt? now = none → P .overflow) :
    (consume policy token (.fixed now)).BreaksFor P := by
  refine breaksFor_log_bind (breaksFor_bind (breaksFor_store fun cause h => ?_) fun outcome => ?_)
  · rcases h with unread | ⟨rfl, t, shown, closes⟩
    · cases unread
    · cases shown
      exact missing closes
  · cases outcome with
    | accepted => exact breaksFor_log_bind (breaksFor_pure _)
    | unknown | rejected | reused => exact breaksFor_log_bind (breaksFor_fail _)

/-- Rotating is broken off over one of the two. -/
theorem breaksFor_rotate {token : String}
    (closes : policy.graceExpiresAt? now = none → P .overflow)
    (expires : policy.expiresAt? now = none → P .overflow) :
    (rotate policy token (.fixed now)).BreaksFor P := by
  refine breaksFor_bind (breaksFor_consume closes) fun consumed => ?_
  rw [now_fixed_bind]
  refine breaksFor_bind (breaksFor_issue expires) fun issued => ?_
  refine breaksFor_bind (breaksFor_store nofun) fun linked => ?_
  split
  · exact breaksFor_pure _
  · exact breaksFor_log_bind (breaksFor_pure _)

/-- **Issuing is broken off before the store is asked.** -/
theorem run_issue_of_overflow {subject : String} {given : Option Uuid}
    (blank : Text.isBlank subject = false) (missing : policy.expiresAt? now = none)
    (w : World AnyStore) :
    ((issue policy subject given now).run w).1 = .aborted .overflow ∧
      ((issue policy subject given now).run w).2.store = w.store := by
  have within (family : Uuid) (w : World AnyStore) :
      ((issueWithin policy subject family now maxIssueAttempts 1).run w).1 = .aborted .overflow ∧
        ((issueWithin policy subject family now maxIssueAttempts 1).run w).2.store = w.store := by
    rw [maxIssueAttempts, issueWithin, missing]
    exact ⟨rfl, rfl⟩
  rw [issue, run_log_bind, if_neg (by simp [blank])]
  cases given with
  | some family => exact within family _
  | none =>
    exact within w.draws.uuid.1
      { w with draws := w.draws.uuid.2, log := w.log ++ [.entered (.issue none now)] }

/-- A rotation is broken off where its presentation was. -/
theorem run_rotate_of_aborted {token : String} {w : World AnyStore} {cause : Abort}
    (aborted : ((consume policy token (.fixed now)).run w).1 = .aborted cause) :
    (rotate policy token (.fixed now)).run w =
      (.aborted cause, ((consume policy token (.fixed now)).run w).2) := by
  rw [rotate, run_bind]
  generalize (consume policy token (.fixed now)).run w = ended at aborted ⊢
  obtain ⟨outcome, w'⟩ := ended
  cases aborted
  rfl

/-- **A rotation whose token was taken is broken off after that**, with what was taken. -/
theorem run_rotate_of_overflow {token : String} {w : World AnyStore} {consumed : ConsumedToken}
    (taken : ((consume policy token (.fixed now)).run w).1 = .done consumed)
    (blank : Text.isBlank consumed.subject = false) (missing : policy.expiresAt? now = none) :
    ((rotate policy token (.fixed now)).run w).1 = .aborted .overflow ∧
      ((rotate policy token (.fixed now)).run w).2.store =
        ((consume policy token (.fixed now)).run w).2.store := by
  rw [rotate, run_bind]
  generalize (consume policy token (.fixed now)).run w = ended at taken ⊢
  obtain ⟨outcome, w'⟩ := ended
  cases taken
  obtain ⟨hrun, hstore⟩ :=
    @run_issue_of_overflow policy now consumed.subject (some consumed.family) blank missing w'
  simp only [now_fixed_bind, run_bind]
  generalize (issue policy consumed.subject (some consumed.family) now).run w' = ended
    at hrun hstore ⊢
  obtain ⟨outcome, w''⟩ := ended
  cases hrun
  exact ⟨rfl, hstore⟩

end Service

/-! ## 3. Which sums the calendar holds -/

/-- The end of the year 9999, the last year of four digits. -/
def Instant.endOfYears : Instant := ofParts 253402300799 999999999

/-- The instant lies in a year from 1970 to 9999. -/
def Instant.InYears (t : Instant) : Prop := epoch ≤ t ∧ t ≤ endOfYears

instance (t : Instant) : Decidable t.InYears := inferInstanceAs (Decidable (_ ∧ _))

/-- A sum with a duration that is not negative is missing when it lies after the end of the
    calendar. -/
theorem Instant.add?_eq_none_iff_last_lt {t : Instant} {d : Duration} (years : t.InYears)
    (forward : 0 ≤ d.nanos) : t.add? d = none ↔ last < ⟨t.nanos + d.nanos⟩ := by
  have early : first ≤ ⟨t.nanos + d.nanos⟩ := by
    have := years.1
    simp only [le_def, epoch, first, ofParts, nanosPerSecond] at this ⊢
    omega
  rw [add?_eq_none_iff, InCalendar]
  simp only [early, true_and, le_def, lt_def]
  omega

/-- **The longest duration that the calendar holds from every day of those years on.** -/
theorem Instant.forall_add?_ne_none_iff {d : Duration} (forward : 0 ≤ d.nanos) :
    (∀ t : Instant, t.InYears → t.add? d ≠ none) ↔ d.nanos ≤ (Duration.ofDays 92093340).nanos := by
  have held (t : Instant) (years : t.InYears) :
      t.add? d ≠ none ↔ t.nanos + d.nanos ≤ last.nanos := by
    rw [ne_eq, add?_eq_none_iff_last_lt years forward, not_lt]
    rfl
  constructor
  · intro h
    have ending : endOfYears.InYears := ⟨by decide, Int.le_refl _⟩
    have last_held := (held endOfYears ending).mp (h endOfYears ending)
    simp only [endOfYears, last, ofParts, Duration.ofDays, Duration.ofSeconds, Duration.ofParts,
      nanosPerSecond] at last_held ⊢
    omega
  · intro h t years
    rw [held t years]
    have := years.2
    simp only [le_def, endOfYears, last, ofParts, Duration.ofDays, Duration.ofSeconds,
      Duration.ofParts, nanosPerSecond] at this h ⊢
    omega

/-- The durations of settings that are read. -/
theorem Settings.Configures.forward {env : Settings.Environment} {s : Settings}
    (h : Settings.Configures env s) : 0 ≤ s.tokenTtl.nanos ∧ 0 ≤ s.tokenGrace.nanos := by
  obtain ⟨days, -, least, -, lifetime⟩ := h.lifetime
  obtain ⟨seconds, -, least', -, grace⟩ := h.grace
  simp only [Settings.policy] at lifetime grace
  omega

/-! ## 4. Sessions -/

theorem Outcome.map_eq_aborted_iff {α β : Type} {f : α → β} {outcome : Outcome α} {cause : Abort} :
    outcome.map f = .aborted cause ↔ outcome = .aborted cause := by
  cases outcome <;> simp [map]

namespace Session

/-- What a piece of work comes to at an instant, with any faults: its outcome, and the table it
    leaves. -/
def ending (s : Session) (work : Work) (now : Instant) (faults : List Fault) :
    Outcome Value × Table :=
  let taken := s.take { command := .work work, clock := .fixed now, faults }
  (taken.1.outcome, taken.2.store.rows)

/-- What the programs of a step meet where such faults wait, whatever it asks for. -/
def facing (s : Session) (faults : List Fault) : Program.World AnyStore :=
  { store := s.store.withFaults faults, draws := s.draws }

theorem ending_eq (s : Session) (work : Work) (now : Instant) (faults : List Fault) :
    s.ending work now faults =
      (((work.program s.settings (.fixed now)).run (s.facing faults)).1,
        ((work.program s.settings (.fixed now)).run (s.facing faults)).2.store.rows) := rfl

/-- **Where the calendar ends for a service.** A store whose lock is poisoned breaks off on its own
    account. -/
structure Dates (s : Session) : Prop where
  /-- The two dates of the policy are missing where they lie after the end of the calendar. -/
  missing : ∀ now : Instant, now.InYears →
    (s.settings.policy.expiresAt? now = none ↔
      Instant.last < ⟨now.nanos + s.settings.tokenTtl.nanos⟩) ∧
    (s.settings.policy.graceExpiresAt? now = none ↔
      Instant.last < ⟨now.nanos + s.settings.tokenGrace.nanos⟩)
  /-- A lifetime is held from every day on up to 92093340 days, which is less than is taken in. -/
  lifetime : (∀ now : Instant, now.InYears → s.settings.policy.expiresAt? now ≠ none) ↔
    s.settings.tokenTtl.nanos ≤ (Duration.ofDays 92093340).nanos
  /-- And so is a grace window of as many seconds. -/
  grace : (∀ now : Instant, now.InYears → s.settings.policy.graceExpiresAt? now ≠ none) ↔
    s.settings.tokenGrace.nanos ≤ (Duration.ofSeconds 7956864576000).nanos
  /-- Issuing is broken off where the expiry is missing and over nothing else, with the table as it
      was. -/
  issue : ∀ (subject : String) (given : Option Uuid) (now : Instant) (faults : List Fault),
    let issued := s.ending (.issue subject given) now faults
    (issued.1 = .aborted .overflow ↔
      Text.isBlank subject = false ∧ s.settings.policy.expiresAt? now = none) ∧
    (issued.1 = .aborted .overflow → issued.2 = s.store.rows) ∧
    ∀ cause, issued.1 = .aborted cause →
      cause = .overflow ∨ (cause = .poisoned ∧ s.store.isPoisoned)
  /-- Consuming is broken off over the end of the grace window alone. -/
  consume : ∀ (token : String) (now : Instant) (faults : List Fault) (cause : Abort),
    (s.ending (.consume token) now faults).1 = .aborted cause →
      (cause = .overflow ∧ s.settings.policy.graceExpiresAt? now = none) ∨
        (cause = .poisoned ∧ s.store.isPoisoned)
  /-- Rotating is broken off where one of the two is missing, and over nothing else. -/
  rotate : ∀ (token : String) (now : Instant) (faults : List Fault) (cause : Abort),
    (s.ending (.rotate token) now faults).1 = .aborted cause →
      (cause = .overflow ∧ (s.settings.policy.graceExpiresAt? now = none ∨
        s.settings.policy.expiresAt? now = none)) ∨ (cause = .poisoned ∧ s.store.isPoisoned)
  /-- The first use of a token in time is broken off where the end of its grace window is missing,
      with the table as it was. Its rotation is broken off as well where the expiry of its successor
      is missing; then the first use stays in the table. -/
  first : s.store.isReachable → ∀ (token : String) (now : Instant) (row : Row),
    s.store.rows.byHash? (hashOf token) = some row → row.revokedAt = none → row.consumedAt = none →
    now ≤ row.expiresAt → Text.isBlank row.subject = false →
    let consumed := s.ending (.consume token) now []
    let rotated := s.ending (.rotate token) now []
    if s.settings.policy.graceExpiresAt? now = none then
      consumed = (.aborted .overflow, s.store.rows) ∧ rotated = (.aborted .overflow, s.store.rows)
    else
      consumed.1.isAborted = false ∧
      (rotated.1.isAborted ↔ s.settings.policy.expiresAt? now = none) ∧
      (rotated.1.isAborted → rotated.2 = consumed.2 ∧
        ∃ used, rotated.2.byHash? (hashOf token) = some used ∧ used.consumedAt.isSome ∧
          used.replacedBy = row.replacedBy)

section Ending

variable {s : Session} {subject token : String} {given : Option Uuid} {now : Instant}
  {faults : List Fault} {cause : Abort}

theorem ending_issue : s.ending (.issue subject given) now faults =
    let ended := (Service.issue s.settings.policy subject given now).run (s.facing faults)
    (ended.1.map .issued, ended.2.store.rows) := by
  simp only [ending_eq, Work.program, Program.now_fixed_bind, Program.run_map]

theorem ending_consume : s.ending (.consume token) now faults =
    let ended := (Service.consume s.settings.policy token (.fixed now)).run (s.facing faults)
    (ended.1.map .consumed, ended.2.store.rows) := by
  simp only [ending_eq, Work.program, Program.run_map]

theorem ending_rotate : s.ending (.rotate token) now faults =
    let ended := (Service.rotate s.settings.policy token (.fixed now)).run (s.facing faults)
    (ended.1.map .rotated, ended.2.store.rows) := by
  simp only [ending_eq, Work.program, Program.run_map]

theorem ending_issue_of_overflow (blank : Text.isBlank subject = false)
    (missing : s.settings.policy.expiresAt? now = none) :
    s.ending (.issue subject given) now faults = (.aborted .overflow, s.store.rows) := by
  obtain ⟨hrun, hstore⟩ := @Service.run_issue_of_overflow s.settings.policy now subject given blank
    missing (s.facing faults)
  rw [ending_issue]
  simp only [hrun, hstore]
  exact congrArg (Prod.mk _) (AnyStore.rows_withFaults faults s.store)

/-- A program that a session runs is broken off for what it may be, or for a lock that was poisoned
    before the step. -/
theorem breaks_facing {α : Type} {p : Program α} {P : Abort → Prop} (h : p.BreaksFor P)
    (aborted : (p.run (s.facing faults)).1 = .aborted cause) :
    P cause ∨ (cause = .poisoned ∧ s.store.isPoisoned) := by
  have breaks := h _ cause aborted
  rwa [facing, AnyStore.isPoisoned_withFaults] at breaks

theorem ending_issue_breaks (aborted : (s.ending (.issue subject given) now faults).1 =
    .aborted cause) :
    (cause = .overflow ∧ Text.isBlank subject = false ∧
      s.settings.policy.expiresAt? now = none) ∨ (cause = .poisoned ∧ s.store.isPoisoned) := by
  rw [ending_issue] at aborted
  have aborted := Outcome.map_eq_aborted_iff.mp aborted
  have breaks := breaks_facing (P := fun cause =>
      cause = .overflow ∧ s.settings.policy.expiresAt? now = none)
    (Service.breaksFor_issue fun missing => ⟨rfl, missing⟩) aborted
  refine breaks.imp_left fun ⟨overflow, missing⟩ => ⟨overflow, ?_, missing⟩
  by_contra blank
  rw [Service.issue, Program.run_log_bind, if_pos (by simpa using blank)] at aborted
  cases aborted

theorem ending_consume_breaks
    (aborted : (s.ending (.consume token) now faults).1 = .aborted cause) :
    (cause = .overflow ∧ s.settings.policy.graceExpiresAt? now = none) ∨
      (cause = .poisoned ∧ s.store.isPoisoned) := by
  rw [ending_consume] at aborted
  exact breaks_facing (P := fun cause =>
      cause = .overflow ∧ s.settings.policy.graceExpiresAt? now = none)
    (Service.breaksFor_consume fun missing => ⟨rfl, missing⟩)
    (Outcome.map_eq_aborted_iff.mp aborted)

theorem ending_rotate_breaks (aborted : (s.ending (.rotate token) now faults).1 = .aborted cause) :
    (cause = .overflow ∧
      (s.settings.policy.graceExpiresAt? now = none ∨ s.settings.policy.expiresAt? now = none)) ∨
      (cause = .poisoned ∧ s.store.isPoisoned) := by
  rw [ending_rotate] at aborted
  exact breaks_facing (P := fun cause => cause = .overflow ∧
      (s.settings.policy.graceExpiresAt? now = none ∨ s.settings.policy.expiresAt? now = none))
    (Service.breaksFor_rotate (fun closes => ⟨rfl, .inl closes⟩)
      fun expires => ⟨rfl, .inr expires⟩) (Outcome.map_eq_aborted_iff.mp aborted)

/-- What consuming a token comes to without faults is what its presentation comes to, before the
    caller is told of it. -/
theorem run_consume_facing (reachable : s.store.isReachable) :
    let presented := s.store.kind.present s.store.rows (hashOf token) now s.settings.policy
    let ended := (Service.consume s.settings.policy token (.fixed now)).run (s.facing [])
    ended.1 = presented.1.told ∧ ended.2.store.rows = presented.2 := by
  intro presented ended
  obtain ⟨houtcome, hrows⟩ := responds_consuming reachable token now
  obtain ⟨hrun, hstore⟩ :=
    Service.run_consume_eq s.settings.policy token (.fixed now) (s.facing [])
  exact ⟨hrun.trans (congrArg Outcome.told houtcome), (congrArg AnyStore.rows hstore).trans hrows⟩

theorem ending_of_first_missing (reachable : s.store.isReachable) {row : Row}
    (found : s.store.rows.byHash? (hashOf token) = some row)
    (verdict : row.judge now s.settings.policy = .overflow) :
    s.ending (.consume token) now [] = (.aborted .overflow, s.store.rows) ∧
      s.ending (.rotate token) now [] = (.aborted .overflow, s.store.rows) := by
  obtain ⟨hrun, hrows⟩ := @run_consume_facing s token now reachable
  simp only [StoreKind.present, found, verdict, StoreKind.obey] at hrun hrows
  rw [ending_consume, ending_rotate, Service.run_rotate_of_aborted hrun]
  simp only [hrun, hrows]
  exact ⟨rfl, rfl⟩

/-- A first use whose grace window the calendar holds is told, and stays in the table. -/
theorem run_consume_of_first (reachable : s.store.isReachable) {row : Row} {c g : Instant}
    (found : s.store.rows.byHash? (hashOf token) = some row)
    (verdict : row.judge now s.settings.policy = .firstUse c g) :
    let ended := (Service.consume s.settings.policy token (.fixed now)).run (s.facing [])
    (∃ consumed, ended.1 = .done consumed ∧ consumed.subject = row.subject) ∧
      ended.2.store.rows.byHash? (hashOf token) =
        some (row.stamp (s.store.kind.keep c) (s.store.kind.keep g)) := by
  intro ended
  obtain ⟨hrun, hrows⟩ := @run_consume_facing s token now reachable
  simp only [StoreKind.present, found, verdict, StoreKind.obey] at hrun hrows
  refine ⟨⟨_, hrun, (row.evolves_stamp c g).subject⟩, ?_⟩
  rw [hrows]
  exact s.store.kind.byHash?_change_presented (fun r => (r.evolves_stamp _ _).hash) found

theorem ending_of_first_held (reachable : s.store.isReachable) {row : Row} {c g : Instant}
    (found : s.store.rows.byHash? (hashOf token) = some row)
    (verdict : row.judge now s.settings.policy = .firstUse c g)
    (named : Text.isBlank row.subject = false) (missing : s.settings.policy.expiresAt? now = none) :
    s.ending (.rotate token) now [] =
      (.aborted .overflow, (s.ending (.consume token) now []).2) := by
  obtain ⟨⟨consumed, hrun, hsubject⟩, -⟩ := run_consume_of_first reachable found verdict
  obtain ⟨hrotate, hstore⟩ :=
    Service.run_rotate_of_overflow hrun (by rw [hsubject, named]) missing
  rw [ending_rotate, ending_consume]
  simp only [hrotate, hstore]
  rfl

end Ending

/-- **Where the calendar ends for every service under settings that were read.** -/
theorem dates {env : Settings.Environment} {s : Session}
    (accepted : Settings.read env = .ok s.settings) : s.Dates := by
  obtain ⟨lives, waits⟩ := (Settings.read_eq_ok_iff.mp accepted).forward
  refine
    { missing := fun now years => ⟨Instant.add?_eq_none_iff_last_lt years lives,
        Instant.add?_eq_none_iff_last_lt years waits⟩
      lifetime := Instant.forall_add?_ne_none_iff lives
      grace := Instant.forall_add?_ne_none_iff waits
      issue := fun subject given now faults => ?_
      consume := fun token now faults cause => ending_consume_breaks
      rotate := fun token now faults cause => ending_rotate_breaks
      first := fun reachable token now row found live unused intime named => ?_ }
  · have overflows (aborted : (s.ending (.issue subject given) now faults).1 =
        .aborted .overflow) :
        Text.isBlank subject = false ∧ s.settings.policy.expiresAt? now = none :=
      ((ending_issue_breaks aborted).resolve_right nofun).2
    refine ⟨⟨overflows, fun ⟨blank, missing⟩ => ?_⟩, fun aborted => ?_, fun cause aborted =>
      (ending_issue_breaks aborted).imp_left And.left⟩
    · rw [ending_issue_of_overflow blank missing]
    · obtain ⟨blank, missing⟩ := overflows aborted
      rw [ending_issue_of_overflow blank missing]
  · split
    · next missing =>
      exact ending_of_first_missing reachable found
        (Row.judge_eq_overflow_iff.mpr ⟨live, intime, unused, missing⟩)
    · next held =>
      obtain ⟨deadline, closes⟩ := Option.ne_none_iff_exists'.mp held
      have verdict : row.judge now s.settings.policy = .firstUse now deadline :=
        Row.judge_eq_firstUse_iff.mpr ⟨live, intime, unused, rfl, closes⟩
      have broken (missing : s.settings.policy.expiresAt? now = none) :=
        ending_of_first_held reachable found verdict named missing
      obtain ⟨⟨consumed, hrun, -⟩, kept⟩ := run_consume_of_first reachable found verdict
      have expires (aborted : (s.ending (.rotate token) now []).1.isAborted) :
          s.settings.policy.expiresAt? now = none := by
        obtain ⟨cause, aborted⟩ := Outcome.isAborted_iff.mp aborted
        rcases ending_rotate_breaks aborted with ⟨-, missing⟩ | ⟨-, poisoned⟩
        · exact missing.resolve_left held
        · rw [AnyStore.isPoisoned_of_isReachable reachable] at poisoned
          cases poisoned
      refine ⟨?_, ⟨expires, fun missing => ?_⟩, fun aborted => ?_⟩
      · rw [ending_consume]
        simp only [hrun]
        rfl
      · rw [broken missing]
        rfl
      · rw [broken (expires aborted)]
        refine ⟨rfl, _, (congrArg (Table.byHash? · _) ?_).trans kept, ?_, ?_⟩
        · rw [ending_consume]
        · simp [Row.stamp, unused]
        · simp [Row.stamp, unused]

/-- A lifetime of one day more than the calendar holds is taken in. A token issued in 2025 lives for
    it; rotated in the last moment of the year 9999 it is consumed and has no successor. -/
theorem dates_of_long_life :
    let env : Settings.Environment := fun v =>
      if v = .databaseUrl then some []
      else if v = .tokenTtlDays then some [57, 50, 48, 57, 51, 51, 52, 49]
      else none
    let settings : Settings :=
      { databaseUrl := "", databaseMaxConnections := 5, bindAddr := .v4 Settings.localHost 3001
        corsOrigin := (Settings.trial .default).corsOrigin
        tokenTtl := .ofDays 92093341, tokenGrace := .ofSeconds 10 }
    let fresh : Session := { store := .memoryOf [], draws := .ofLists [] [], settings }
    let s := fresh.after [{ command := .work (.issue "alice" none), clock := .fixed sampleInstant }]
    let token := (Draws.ofLists [] []).secret.1.token
    let rotated := s.ending (.rotate token) .endOfYears []
    (Settings.read env = .ok s.settings ∧ Instant.endOfYears.InYears) ∧ s.Dates ∧
      s.store.rows.length = 1 ∧ rotated.1 = .aborted .overflow ∧
        rotated.2.map (fun r => (r.consumedAt, r.replacedBy)) = [(some .endOfYears, none)] := by
  intro env settings fresh s token rotated
  have facts : (Settings.read env = .ok s.settings ∧ Instant.endOfYears.InYears) ∧
      s.store.rows.length = 1 ∧ rotated.1 = .aborted .overflow ∧
        rotated.2.map (fun r => (r.consumedAt, r.replacedBy)) = [(some .endOfYears, none)] := by
    decide +kernel
  exact ⟨facts.1, dates facts.1.1, facts.2⟩

end Session

end TokenRotation

import TokenRotation.Proofs.Deeds

/-!
# How programs end

What is true at the end of every run of a program on a store of one kind that begins with one table:
with any faults, any chance and any clock. The end is looked at as the deeds of the run, its
outcome, and the table it leaves.

* `Program.Ends` -- a statement about the end of every run;
* `Program.ends_bind`, `Program.ends_store_bind` -- how such statements are put together;
* `Session.take_ends` -- the end of a step is the end of its program.
-/

namespace TokenRotation

namespace Program

variable {α β : Type}

/-- **Every run of the program** from that table ends as `post` says. -/
def Ends (k : StoreKind) (rows : Table) (post : List Deed → Outcome α → Table → Prop)
    (p : Program α) : Prop :=
  ∀ (actor : Nat) (w : World AnyStore), w.store.kind = k → w.store.rows = rows →
    post (p.deeds actor w) (p.run w).1 (p.run w).2.store.rows

variable {k : StoreKind} {rows : Table} {p : Program α}
  {post post' : List Deed → Outcome α → Table → Prop}

theorem Ends.imp (h : p.Ends k rows post)
    (himp : ∀ deeds outcome after, post deeds outcome after → post' deeds outcome after) :
    p.Ends k rows post' :=
  fun actor w hk hrows => himp _ _ _ (h actor w hk hrows)

/-- Nothing is claimed of how the program ends. -/
theorem ends_any (p : Program α) : p.Ends k rows fun _ _ _ => True := fun _ _ _ _ => trivial

theorem ends_finish {outcome : Outcome α} (h : post [] outcome rows) :
    (finish outcome).Ends k rows post := by
  rintro actor w - rfl
  exact h

/-- What has to be true at the end of a program that `f` goes on from. -/
def Ends.then (k : StoreKind) (f : α → Program β)
    (post : List Deed → Outcome β → Table → Prop) (deeds : List Deed) : Outcome α → Table → Prop
  | .done a, after => (f a).Ends k after fun more => post (deeds ++ more)
  | .failed e, after => post deeds (.failed e) after
  | .aborted cause, after => post deeds (.aborted cause) after

theorem ends_bind {f : α → Program β} {post : List Deed → Outcome β → Table → Prop}
    (h : p.Ends k rows (Ends.then k f post)) : (p >>= f).Ends k rows post := by
  intro actor w hk hrows
  have hfirst := h actor w hk hrows
  have hkind := (history actor p w).2.trans hk
  rw [deeds_bind, run_bind]
  rcases hrun : p.run w with ⟨outcome, w'⟩
  rw [hrun] at hfirst hkind
  cases outcome with
  | done a => exact hfirst actor w' hkind rfl
  | failed e => simpa [Ends.then] using hfirst
  | aborted cause => simpa [Ends.then] using hfirst

/-- A program that only makes a value of the value before it. -/
theorem Ends.then_pure {f : α → β} {post : List Deed → Outcome β → Table → Prop}
    {deeds : List Deed} {a : α} {after : Table} (h : post deeds (.done (f a)) after) :
    Ends.then k (fun a => pure (f a)) post deeds (.done a) after := by
  change Ends k after (fun more => post (deeds ++ more)) (finish (.done (f a)))
  refine ends_finish ?_
  rw [List.append_nil]
  exact h

/-- **A value that a program makes of its own**: the program ended in a value it was made of. -/
theorem ends_map_done (h : p.Ends k rows post) (f : α → β) :
    (p >>= fun a => pure (f a)).Ends k rows fun deeds outcome after =>
      ∀ b, outcome = .done b → ∃ a, f a = b ∧ post deeds (.done a) after := by
  refine ends_bind (h.imp fun deeds outcome after hend => ?_)
  cases outcome with
  | failed | aborted => exact fun _ => nofun
  | done a =>
    refine Ends.then_pure fun b hb => ?_
    cases hb
    exact ⟨a, rfl, hend⟩

/-- A program that asks for a secret goes on with it, from the same table. -/
theorem ends_secret {next : Secret → Program α} (h : ∀ s, (next s).Ends k rows post) :
    (request .secret next).Ends k rows post :=
  fun actor w hk hrows => h _ actor { w with draws := w.draws.secret.2 } hk hrows

theorem ends_uuid {next : Uuid → Program α} (h : ∀ u, (next u).Ends k rows post) :
    (request .uuid next).Ends k rows post :=
  fun actor w hk hrows => h _ actor { w with draws := w.draws.uuid.2 } hk hrows

theorem ends_log {event : Event} {next : Unit → Program α} (h : (next ()).Ends k rows post) :
    (request (.log event) next).Ends k rows post :=
  fun actor w hk hrows => h actor { w with log := w.log ++ [event] } hk hrows

/-- A program that calls the store goes on with the reply, from the table the call leaves. -/
theorem ends_call {call : StoreCall} {next : Except Failure call.Answer → Program α}
    (done : ∀ actor answer after, Carried k rows call answer after →
      (next (.ok answer)).Ends k after fun more =>
        post (⟨actor, rows, call, .done answer, after⟩ :: more))
    (failed : ∀ actor e, (∀ reason, e ≠ .refused reason) →
      (next (.error e)).Ends k rows fun more =>
        post (⟨actor, rows, call, .failed e, rows⟩ :: more))
    (aborted : ∀ actor cause,
      post [⟨actor, rows, call, .aborted cause, rows⟩] (.aborted cause) rows) :
    (request (.store call) next).Ends k rows post := by
  rintro actor w rfl rfl
  have lawful := w.store.perform_settled call
  have hkind := w.store.kind_perform call
  have hperform : TokenStore.perform w.store call = w.store.perform call := rfl
  simp only [deeds, run, observed, answer, hperform]
  generalize w.store.perform call = performed at lawful hkind ⊢
  obtain ⟨outcome, events, store⟩ := performed
  cases outcome with
  | done a => exact done actor a store.rows lawful.carried_of_done actor _ hkind rfl
  | failed e =>
    have hrows : store.rows = w.store.rows := lawful.eq_of_not_done fun _ => by simp
    change post (⟨actor, w.store.rows, call, .failed e, store.rows⟩ :: _) _ _
    rw [hrows]
    exact failed actor e lawful.failed_ne_refused actor _ hkind hrows
  | aborted cause =>
    have hrows : store.rows = w.store.rows := lawful.eq_of_not_done fun _ => by simp
    change post [⟨actor, w.store.rows, call, .aborted cause, store.rows⟩] (.aborted cause)
      store.rows
    rw [hrows]
    exact aborted actor cause

/-- The same where a failure of the store ends the program. -/
theorem ends_store_bind {call : StoreCall} {f : call.Answer → Program α}
    (done : ∀ actor answer after, Carried k rows call answer after →
      (f answer).Ends k after fun more =>
        post (⟨actor, rows, call, .done answer, after⟩ :: more))
    (failed : ∀ actor e, (∀ reason, e ≠ .refused reason) →
      post [⟨actor, rows, call, .failed e, rows⟩] (.failed e) rows)
    (aborted : ∀ actor cause,
      post [⟨actor, rows, call, .aborted cause, rows⟩] (.aborted cause) rows) :
    (store call >>= f).Ends k rows post :=
  ends_call done (fun actor e hun => ends_finish (failed actor e hun)) aborted

theorem ends_now_bind {clock : Clock} {f : Instant → Program α}
    (read : ∀ t, clock.now = .ok t → (f t).Ends k rows post)
    (unread : ∀ cause, clock.now = .error cause → post [] (.aborted cause) rows) :
    (now clock >>= f).Ends k rows post := by
  cases shown : clock.now with
  | ok t =>
    have heq : (now clock >>= f) = f t := by simp only [now, shown, pure_bind]
    rw [heq]
    exact read t shown
  | error cause =>
    have heq : (now clock >>= f) = finish (.aborted cause) := by
      simp only [now, shown]
      rfl
    rw [heq]
    exact ends_finish (unread cause shown)

end Program

/-- **The end of a step is the end of its program.** -/
theorem Session.take_ends {s : Session} {step : Step} {work : Work}
    {post : List Deed → Outcome Value → Table → Prop} (asked : step.command = .work work)
    (h : (work.program s.settings step.clock).Ends s.store.kind s.store.rows post) (actor : Nat) :
    post (s.stepDeeds actor step) (s.take step).1.outcome (s.take step).2.store.rows := by
  have hend := h actor (s.world step) (AnyStore.kind_withFaults _ _) (AnyStore.rows_withFaults _ _)
  unfold stepDeeds take carryOut
  rw [asked]
  exact hend

end TokenRotation

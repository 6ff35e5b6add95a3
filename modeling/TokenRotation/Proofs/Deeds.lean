import TokenRotation.Proofs.Carried
import TokenRotation.Session.Basic
import TokenRotation.Session.Sample

/-!
# Deeds

A run is looked at through what it does to the table: one deed for each unit of work of the store,
with the table before and after it and the operation that asked for it. Everything else that a
program does leaves the table alone.

* `History` -- deeds that follow one another, each of them settled by a store of one kind;
* `Program.history`, `Session.history` -- the deeds of a program, and of the steps of a session, are
  a history from the table at the beginning to the table at the end;
* `History.evolves`, `History.hashesDistinct` -- what every history keeps.
-/

namespace TokenRotation

/-! ## 1. Deeds and histories -/

/-- One unit of work of a store as it was done. -/
structure Deed where
  /-- The number of the operation that asked for it. -/
  actor : Nat
  before : Table
  call : StoreCall
  outcome : Outcome call.Answer
  after : Table

namespace Deed

/-- The deed is what a store of the kind does. -/
def Lawful (k : StoreKind) (d : Deed) : Prop := Settled k d.before d.call d.outcome d.after

/-- The hash that was presented in the deed. -/
def presented? : Deed → Option String
  | ⟨_, _, .consume hash _ _, _, _⟩ => some hash
  | _ => none

/-- The row that was accepted in the deed, as the store answered it. -/
def accepted? : Deed → Option (Row × ConsumeKind)
  | ⟨_, _, .consume .., .done (.accepted row kind), _⟩ => some (row, kind)
  | _ => none

/-- The row that was added in the deed. -/
def inserted? : Deed → Option Row
  | ⟨_, _, .insert _, .done row, _⟩ => some row
  | _ => none

/-- The instant that the deed went by when it judged a row. -/
def judgedAt? : Deed → Option Instant
  | ⟨_, _, .consume _ clock _, _, _⟩ => clock.now.toOption
  | _ => none

/-- A deed adds one row under a free hash, or lets the rows evolve in their places. -/
theorem Lawful.adds_or_evolves {k : StoreKind} {d : Deed} (lawful : d.Lawful k) :
    (∃ token : NewToken, d.call = .insert token ∧ d.inserted? = some (k.keepRow token.row) ∧
      d.before.hasHash token.hash = false ∧ d.after = d.before ++ [k.keepRow token.row]) ∨
      d.inserted? = none ∧ List.Forall₂ Row.Evolves d.before d.after := by
  obtain ⟨actor, before, call, outcome, after⟩ := d
  change Settled k before call outcome after at lawful
  have same : List.Forall₂ Row.Evolves before before :=
    List.forall₂_same.mpr fun r _ => Row.Evolves.refl r
  cases lawful with
  | kept hnot =>
    refine .inr ⟨?_, same⟩
    unfold inserted?
    split
    · next heq =>
      cases heq
      exact absurd rfl (hnot _)
    · rfl
  | carried h =>
    rcases h.adds_or_evolves with ⟨token, rfl, fresh, rfl⟩ | hrows
    · cases h with
      | insert => exact .inl ⟨token, rfl, rfl, fresh, rfl⟩
    · cases h with
      | insert => simpa using hrows.length_eq
      | _ => exact .inr ⟨rfl, hrows⟩

end Deed

/-- **Deeds that follow one another**, from one table to another. -/
inductive History (k : StoreKind) : Table → List Deed → Table → Prop
  | nil (rows : Table) : History k rows [] rows
  | cons {d : Deed} {deeds : List Deed} {after : Table} (lawful : d.Lawful k)
    (rest : History k d.after deeds after) : History k d.before (d :: deeds) after

namespace History

variable {k : StoreKind} {rows mid after : Table} {deeds more : List Deed} {d : Deed}

theorem append (h : History k rows deeds mid) (h' : History k mid more after) :
    History k rows (deeds ++ more) after := by
  induction h with
  | nil => exact h'
  | cons lawful _ ih => exact .cons lawful (ih h')

theorem split (h : History k rows (deeds ++ more) after) :
    ∃ mid, History k rows deeds mid ∧ History k mid more after := by
  induction deeds generalizing rows with
  | nil => exact ⟨rows, .nil rows, h⟩
  | cons d deeds ih =>
    cases h with
    | cons lawful rest =>
      obtain ⟨mid, hfront, hback⟩ := ih rest
      exact ⟨mid, .cons lawful hfront, hback⟩

/-- What comes before a deed leads to the table before it, what comes after leads on from the table
    after it. -/
theorem split_cons (h : History k rows (deeds ++ d :: more) after) :
    History k rows deeds d.before ∧ d.Lawful k ∧ History k d.after more after := by
  obtain ⟨mid, hfront, hback⟩ := h.split
  cases hback with
  | cons lawful rest => exact ⟨hfront, lawful, rest⟩

/-- What every deed keeps, a history keeps. -/
theorem keeps {P : Table → Prop} (step : ∀ d : Deed, d.Lawful k → P d.before → P d.after)
    (h : History k rows deeds after) (start : P rows) : P after := by
  induction h with
  | nil => exact start
  | cons lawful _ ih => exact ih (step _ lawful start)

theorem evolves (h : History k rows deeds after) : rows.Evolves after := by
  refine h.keeps (P := fun later => rows.Evolves later) (fun d lawful hrows => ?_)
    (Table.Evolves.refl rows)
  exact hrows.trans lawful.evolves

theorem hashesDistinct (h : History k rows deeds after) (distinct : rows.HashesDistinct) :
    after.HashesDistinct :=
  h.keeps (fun _ lawful => lawful.hashesDistinct) distinct

theorem lawful_of_mem (h : History k rows deeds after) (hd : d ∈ deeds) : d.Lawful k := by
  obtain ⟨front, back, rfl⟩ := List.append_of_mem hd
  exact h.split_cons.2.1

theorem hashesDistinct_of_mem (h : History k rows deeds after) (distinct : rows.HashesDistinct)
    (hd : d ∈ deeds) : d.before.HashesDistinct ∧ d.after.HashesDistinct := by
  obtain ⟨front, back, rfl⟩ := List.append_of_mem hd
  obtain ⟨hfront, lawful, -⟩ := h.split_cons
  have hbefore := hfront.hashesDistinct distinct
  exact ⟨hbefore, lawful.hashesDistinct hbefore⟩

end History

/-! ## 2. Programs -/

namespace Program

variable {α β σ : Type} [TokenStore σ]

/-- The deed behind a request, if it is a request to the store. -/
def observed (actor : Nat) (w : World σ) : Request → List Deed
  | .store call =>
    [{ actor, before := TokenStore.rows w.store, call
       outcome := (TokenStore.perform w.store call).outcome
       after := TokenStore.rows (TokenStore.perform w.store call).store }]
  | _ => []

/-- The deeds of a program on its run. -/
def deeds (actor : Nat) : Program α → World σ → List Deed
  | .finish _, _ => []
  | .request r next, w =>
    observed actor w r ++
      match answer w r with
      | (.ok reply, w) => (next reply).deeds actor w
      | (.error _, _) => []

theorem deeds_bind (actor : Nat) (p : Program α) (f : α → Program β) (w : World σ) :
    (p >>= f).deeds actor w = p.deeds actor w ++
      match p.run w with
      | (.done a, w) => (f a).deeds actor w
      | _ => [] := by
  induction p generalizing w with
  | finish outcome => cases outcome <;> rfl
  | request r next ih =>
    show ((request r next).bind f).deeds actor w = _
    rcases hanswer : answer w r with ⟨reply, w'⟩
    simp only [bind, deeds, run, hanswer, List.append_assoc]
    cases reply with
    | ok reply => exact congrArg _ (ih reply w')
    | error cause => rfl

theorem deeds_attempt (actor : Nat) (p : Program α) (w : World σ) :
    p.attempt.deeds actor w = p.deeds actor w := by
  induction p generalizing w with
  | finish outcome => cases outcome <;> rfl
  | request r next ih =>
    rcases hanswer : answer w r with ⟨cause | reply, w'⟩
    · simp only [attempt, deeds, hanswer]
    · simp only [attempt, deeds, hanswer, ih]

theorem actor_of_mem_observed {actor : Nat} {w : World σ} {r : Request} {d : Deed}
    (h : d ∈ observed actor w r) : d.actor = actor := by
  cases r with
  | store call =>
    rw [List.mem_singleton.mp h]
  | _ => cases h

theorem actor_of_mem_deeds {actor : Nat} {p : Program α} {w : World σ} {d : Deed}
    (h : d ∈ p.deeds actor w) : d.actor = actor := by
  induction p generalizing w with
  | finish outcome => cases h
  | request r next ih =>
    unfold deeds at h
    rcases List.mem_append.mp h with hfirst | hrest
    · exact actor_of_mem_observed hfirst
    · split at hrest
      · exact ih _ hrest
      · cases hrest

/-- A call leaves the store as the store itself does. -/
theorem store_answer (w : World AnyStore) (call : StoreCall) :
    (answer w (.store call)).2.store = (w.store.perform call).store := by
  simp only [answer]
  split <;> rfl

/-- One request leads from the table before it to the table after it. -/
theorem history_answer (actor : Nat) (w : World AnyStore) (r : Request) :
    History w.store.kind w.store.rows (observed actor w r) (answer w r).2.store.rows ∧
      (answer w r).2.store.kind = w.store.kind := by
  cases r with
  | store call =>
    rw [store_answer, AnyStore.kind_perform]
    let d : Deed := ⟨actor, w.store.rows, call, (w.store.perform call).outcome,
      (w.store.perform call).store.rows⟩
    have lawful : d.Lawful w.store.kind := w.store.perform_settled call
    exact ⟨.cons lawful (.nil _), rfl⟩
  | secret | uuid | log => exact ⟨.nil _, rfl⟩

/-- **The deeds of a program are a history** from the table at its beginning to that at its end. -/
theorem history (actor : Nat) (p : Program α) (w : World AnyStore) :
    History w.store.kind w.store.rows (p.deeds actor w) (p.run w).2.store.rows ∧
      (p.run w).2.store.kind = w.store.kind := by
  induction p generalizing w with
  | finish outcome => exact ⟨.nil _, rfl⟩
  | request r next ih =>
    obtain ⟨hfirst, hkind⟩ := history_answer actor w r
    rcases hanswer : answer w r with ⟨reply, w'⟩
    rw [hanswer] at hfirst hkind
    simp only [deeds, run, hanswer]
    cases reply with
    | ok reply =>
      obtain ⟨hrest, hkind'⟩ := ih reply w'
      exact ⟨hfirst.append (hkind ▸ hrest), hkind'.trans hkind⟩
    | error cause => exact ⟨by simpa using hfirst, hkind⟩

end Program

/-! ## 3. Sessions -/

namespace Session

/-- What the programs of a step meet. -/
def world (s : Session) (step : Step) : Program.World AnyStore :=
  { store := s.store.withFaults step.faults, draws := s.draws }

/-- The deeds of one step. -/
def stepDeeds (s : Session) (actor : Nat) (step : Step) : List Deed :=
  match step.command with
  | .work work => (work.program s.settings step.clock).deeds actor (s.world step)
  | _ => []

/-- The session after some steps, each of them taken whether or not one before it was broken off. -/
def after : Session → List Step → Session
  | s, [] => s
  | s, step :: rest => (s.take step).2.after rest

/-- The deeds of some steps, each of them under the number of its step. -/
def deeds : Session → (number : Nat) → List Step → List Deed
  | _, _, [] => []
  | s, number, step :: rest => s.stepDeeds number step ++ (s.take step).2.deeds (number + 1) rest

/-- A session of trial that begins with some rows in memory. -/
def trial (rows : Table) : Session where
  store := .memoryOf rows
  draws := .ofLists [] []
  settings := .trial .default

/-- A step that goes by an instant, so many seconds after the samples. -/
def Step.at (seconds : Int) (work : Work) : Step where
  command := .work work
  clock := .fixed ⟨sampleInstant.nanos + (Duration.ofSeconds seconds).nanos⟩

theorem after_append (s : Session) (steps more : List Step) :
    s.after (steps ++ more) = (s.after steps).after more := by
  induction steps generalizing s with
  | nil => rfl
  | cons step rest ih => exact ih _

theorem deeds_append (s : Session) (number : Nat) (steps more : List Step) :
    s.deeds number (steps ++ more) =
      s.deeds number steps ++ (s.after steps).deeds (number + steps.length) more := by
  induction steps generalizing s number with
  | nil => rfl
  | cons step rest ih =>
    simp only [List.cons_append, deeds, after, ih, List.append_assoc, List.length_cons,
      Nat.add_assoc, Nat.add_comm 1]

theorem history_take (s : Session) (actor : Nat) (step : Step) :
    History s.store.kind s.store.rows (s.stepDeeds actor step) (s.take step).2.store.rows ∧
      (s.take step).2.store.kind = s.store.kind := by
  have hrows : (s.world step).store.rows = s.store.rows := AnyStore.rows_withFaults _ _
  have hkind : (s.world step).store.kind = s.store.kind := AnyStore.kind_withFaults _ _
  unfold stepDeeds take carryOut
  rw [← hrows, ← hkind]
  cases step.command with
  | work work => exact Program.history actor _ _
  | isEmpty => exact ⟨.nil _, rfl⟩
  | failInserts count =>
    have hsame := AnyStore.rows_failInserts count (s.world step).store
    exact ⟨hsame.symm ▸ .nil _, AnyStore.kind_failInserts count _⟩

@[simp] theorem settings_after (s : Session) (steps : List Step) :
    (s.after steps).settings = s.settings := by
  induction steps generalizing s with
  | nil => rfl
  | cons step rest ih => exact ih _

@[simp] theorem kind_after (s : Session) (steps : List Step) :
    (s.after steps).store.kind = s.store.kind := by
  induction steps generalizing s with
  | nil => rfl
  | cons step rest ih => exact (ih _).trans (s.history_take 0 step).2

/-- **The deeds of a session are a history** from the table at its beginning to that at its end. -/
theorem history (s : Session) (number : Nat) (steps : List Step) :
    History s.store.kind s.store.rows (s.deeds number steps) (s.after steps).store.rows := by
  induction steps generalizing s number with
  | nil => exact .nil _
  | cons step rest ih =>
    obtain ⟨hstep, hkind⟩ := s.history_take number step
    exact hstep.append (hkind ▸ ih _ _)

/-- Whatever more is done, the rows go on from where they were. -/
theorem evolves_after (s : Session) (steps more : List Step) :
    (s.after steps).store.rows.Evolves (s.after (steps ++ more)).store.rows := by
  rw [after_append]
  exact ((s.after steps).history 0 more).evolves

end Session

end TokenRotation

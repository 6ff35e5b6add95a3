import TokenRotation.Proofs.Succession

/-!
# Calls among each other

Any number of calls are under way at once. They share one world, and a schedule says whose request
is answered next; between two requests of a call any number of requests of others may be answered.
What the store does at one request stays one step for all of them.

* `Pool.history` -- the deeds of a schedule follow one another, whoever they belong to;
* `Pool.inherited` -- calls that are heirs stay heirs under every schedule.
-/

namespace TokenRotation

open Program Session

/-- A world and the calls that are under way in it, each as what is left of it. -/
structure Pool where
  world : World AnyStore
  calls : List (Program Value)

namespace Pool

/-! ## 1. Steps -/

/-- The calls of some pieces of work, none of them begun. -/
def begin (settings : Settings) (world : World AnyStore) (jobs : List (Work × Clock)) : Pool where
  world
  calls := jobs.map fun job => job.1.program settings job.2

/-- Has one request of the call with a number answered. A call that has ended stays as it is. -/
def step (p : Pool) (i : Nat) : Pool :=
  match p.calls[i]? with
  | some call =>
    let advanced := call.advance p.world
    { world := advanced.2, calls := p.calls.set i advanced.1 }
  | none => p

/-- The deed of a step, if its request is one to the store. -/
def stepDeeds (p : Pool) (i : Nat) : List Deed :=
  match p.calls[i]? with
  | some (.request r _) => observed i p.world r
  | _ => []

/-- Follows a schedule. -/
def run (p : Pool) (schedule : List Nat) : Pool := schedule.foldl step p

/-- The deeds of a schedule. -/
def deeds : Pool → List Nat → List Deed
  | _, [] => []
  | p, i :: rest => p.stepDeeds i ++ (p.step i).deeds rest

/-- The table of the pool. -/
def rows (p : Pool) : Table := p.world.store.rows

/-! ## 2. Histories -/

theorem history_step (p : Pool) (i : Nat) :
    History p.world.store.kind p.rows (p.stepDeeds i) (p.step i).rows ∧
      (p.step i).world.store.kind = p.world.store.kind := by
  unfold stepDeeds step
  cases p.calls[i]? with
  | none => exact ⟨.nil _, rfl⟩
  | some call =>
    cases call with
    | finish outcome => exact ⟨.nil _, rfl⟩
    | request r next =>
      have hone := history_answer i p.world r
      have hworld : ((request r next).advance p.world).2 = (answer p.world r).2 := by
        rcases hanswer : answer p.world r with ⟨cause | reply, w⟩ <;> simp only [advance, hanswer]
      simp only [rows, hworld]
      exact hone

/-- **The deeds of a schedule are a history.** -/
theorem history (p : Pool) (schedule : List Nat) :
    History p.world.store.kind p.rows (p.deeds schedule) (p.run schedule).rows := by
  induction schedule generalizing p with
  | nil => exact .nil _
  | cons i rest ih =>
    obtain ⟨hstep, hkind⟩ := p.history_step i
    exact hstep.append (hkind ▸ ih _)

/-! ## 3. Heirs -/

/-- Every call is an heir to what it was told in the past. -/
def Heirs (past : List Deed) (p : Pool) : Prop :=
  ∀ (i : Nat) (call : Program Value), p.calls[i]? = some call →
    call.Heir (fun _ _ => True) (acceptedBy i past)

theorem heirs_begin (settings : Settings) (world : World AnyStore) {jobs : List (Work × Clock)}
    (h : ∀ job ∈ jobs, job.1.succeedsOnly) :
    (begin settings world jobs).Heirs [] := by
  intro i call hcall
  obtain ⟨job, hjob, rfl⟩ := List.mem_map.mp (List.mem_of_getElem? hcall)
  exact Work.heir (h job hjob) settings job.2 _

theorem actor_of_mem_stepDeeds {p : Pool} {i : Nat} {d : Deed} (h : d ∈ p.stepDeeds i) :
    d.actor = i := by
  unfold stepDeeds at h
  split at h
  · exact actor_of_mem_observed h
  · cases h

/-- One step keeps the calls heirs. -/
theorem Heirs.step {past : List Deed} {p : Pool} (h : p.Heirs past) (i : Nat) :
    (p.step i).Heirs (past ++ p.stepDeeds i) := by
  intro j call hcall
  rw [acceptedBy_append]
  by_cases hji : j = i
  · subst hji
    unfold Pool.step at hcall
    cases hj : p.calls[j]? with
    | none => simp [hj] at hcall
    | some before =>
      have hbefore := h j before hj
      have hlt : j < p.calls.length := (List.getElem?_eq_some_iff.mp hj).1
      simp only [hj, List.getElem?_set_self hlt, Option.some.injEq] at hcall
      subst hcall
      cases before with
      | finish outcome => exact trivial
      | request r next =>
        simp only [stepDeeds, hj, advance]
        split
        · next reply w' hanswer =>
          rw [acceptedBy_observed hanswer]
          exact hbefore.2 reply
        · exact trivial
  · -- another call is told nothing by this step
    have hothers : acceptedBy j (p.stepDeeds i) = [] := by
      refine acceptedBy_of_others fun d hd => ?_
      rw [actor_of_mem_stepDeeds hd]
      exact Ne.symm hji
    rw [hothers, List.append_nil]
    refine h j call ?_
    unfold Pool.step at hcall
    split at hcall
    · rwa [List.getElem?_set_ne (Ne.symm hji)] at hcall
    · exact hcall

theorem Heirs.inherited_step {past : List Deed} {p : Pool} (h : p.Heirs past) (i : Nat) :
    Inherited past (p.stepDeeds i) := by
  unfold stepDeeds
  split
  · next r next hcall =>
    cases r with
    | store call => exact ⟨(h i _ hcall).1, trivial⟩
    | secret | uuid | log => exact trivial
  · exact trivial

/-- **Under every schedule the deeds of heirs are inherited.** -/
theorem inherited {past : List Deed} {p : Pool} (h : p.Heirs past) (schedule : List Nat) :
    Inherited past (p.deeds schedule) := by
  induction schedule generalizing past p with
  | nil => exact trivial
  | cons i rest ih => exact (h.inherited_step i).append (ih (h.step i))

end Pool

end TokenRotation

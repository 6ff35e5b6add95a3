import TokenRotation.Session.Work
import TokenRotation.Store.Any

/-!
# Sessions

A session is a service with its store, its settings and its chance, and a list of steps that it is
asked to take one after the other. Each step is reported with what it ended in, what it logged and
what it changed in the table. A step that is broken off ends the session.

* `length_run_le` -- there are at most as many reports as steps;
* `take_changed_nil` -- a step that leaves the table as it was is reported without changes.
-/

namespace TokenRotation

/-- A service between two steps. -/
structure Session where
  store : AnyStore
  draws : Draws
  settings : Settings

namespace Session

/-! ## 1. Steps and reports -/

/-- What a step asks for. -/
inductive Command
  | work (w : Work)
  /-- Whether the table has no row. -/
  | isEmpty
  /-- To let the next insertions, that many, end in a collision. -/
  | failInserts (count : Nat)
deriving DecidableEq, Repr

/-- A step: a command, the clock it goes by, and the faults that wait on the wire to a database. -/
structure Step where
  command : Command
  clock : Clock
  faults : List Store.Fault := []
deriving DecidableEq, Repr

/-- What is told about a step. -/
structure Report where
  outcome : Outcome Value
  log : List Event
  /-- How many rows the table has. -/
  rows : Nat
  /-- The rows that are new or different, by their identifiers. -/
  changed : Table
deriving DecidableEq, Repr

/-- The rows that a table shows: of those with one identifier the oldest entry. -/
def shown : Table → Table
  | [] => []
  | r :: rest => r :: (shown rest).filter fun s => s.id ≠ r.id

/-- The rows that a table shows and another one does not, by their identifiers. -/
def changes (before after : Table) : Table :=
  Table.sorted (fun a b => a.id ≤ b.id) ((shown after).filter fun r => !(shown before).contains r)

/-! ## 2. Taking steps -/

/-- Carries out a command by a clock. -/
def carryOut (s : Session) (clock : Clock) (w : Program.World AnyStore) :
    Command → Outcome Value × Program.World AnyStore
  | .work work => (work.program s.settings clock).run w
  | .isEmpty => (w.store.isEmpty.map .flag, w)
  | .failInserts count => (.done .nothing, { w with store := w.store.failInserts count })

/-- Takes one step. -/
def take (s : Session) (step : Step) : Report × Session :=
  let world : Program.World AnyStore :=
    { store := s.store.withFaults step.faults, draws := s.draws }
  let (outcome, world) := s.carryOut step.clock world step.command
  ({ outcome
     log := world.log
     rows := world.store.rows.length
     changed := changes s.store.rows world.store.rows },
    { s with store := world.store, draws := world.draws })

/-- Takes the steps one after the other, up to the first that is broken off. -/
def run : Session → List Step → List Report
  | _, [] => []
  | s, step :: rest =>
    let (report, s) := s.take step
    if report.outcome.isAborted then [report] else report :: s.run rest

/-! ## 3. Laws -/

/-- There are at most as many reports as steps. -/
theorem length_run_le (s : Session) (steps : List Step) : (s.run steps).length ≤ steps.length := by
  induction steps generalizing s with
  | nil => exact Nat.le_refl 0
  | cons step rest ih =>
    simp only [run]
    split
    · simp only [List.length_cons, List.length_nil]
      omega
    · simpa only [List.length_cons] using Nat.succ_le_succ (ih _)

/-- A table that did not change has no changes. -/
theorem changes_self (rows : Table) : changes rows rows = [] := by
  have none_left : ((shown rows).filter fun r => !(shown rows).contains r) = [] := by
    rw [List.filter_eq_nil_iff]
    intro r hr
    simp [hr]
  rw [changes, none_left, Table.sorted, List.mergeSort_nil]

/-- A step that leaves the table as it was is reported without changes. -/
theorem take_changed_nil (s : Session) (step : Step)
    (same : (s.take step).2.store.rows = s.store.rows) : (s.take step).1.changed = [] := by
  simp only [take] at same ⊢
  rw [same]
  exact changes_self _

end Session

end TokenRotation

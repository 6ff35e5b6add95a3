import TokenRotation.Store.Durable
import TokenRotation.Store.Memory

/-!
# A store of either kind

The operations do not know where the rows are kept. This is the store of a session that may have
either.

* `rows_durableOf` -- a durable store is begun with the rows as a database keeps them.
-/

namespace TokenRotation

open Store

/-- A store in memory or a durable one. -/
inductive AnyStore
  | memory (m : MemoryStore)
  | durable (d : DurableStore)

namespace AnyStore

/-- The table of the store. -/
def rows : AnyStore → Table
  | .memory m => m.rows
  | .durable d => d.rows

/-- Whether the store has no row. -/
def isEmpty : AnyStore → Outcome Bool
  | .memory m => m.isEmpty
  | .durable d => .done d.rows.isEmpty

/-- Answers a call. -/
def perform : AnyStore → (call : StoreCall) → Performed AnyStore call.Answer
  | .memory m, call =>
    let done := m.perform call
    { outcome := done.outcome, events := done.events, store := .memory done.store }
  | .durable d, call =>
    let done := d.perform call
    { outcome := done.outcome, events := done.events, store := .durable done.store }

instance : TokenStore AnyStore where
  rows := AnyStore.rows
  perform := AnyStore.perform

/-- A store in memory that begins with some rows. -/
def memoryOf (rows : Table) : AnyStore := .memory { rows }

/-- A durable store that begins with some rows, behind a wire. -/
def durableOf (rows : Table) (wire : Wire) : AnyStore :=
  .durable { rows := rows.map Row.stored, wire }

/-- The store with a new queue of faults on its wire; a store in memory has no wire. -/
def withFaults (faults : List Fault) : AnyStore → AnyStore
  | .memory m => .memory m
  | .durable d => .durable { d with wire := { d.wire with faults } }

/-- The store with the next insertions, that many, bound to end in a collision; only a store in
    memory can be asked for it. -/
def failInserts (count : Nat) : AnyStore → AnyStore
  | .memory m => .memory (m.failInserts count)
  | .durable d => .durable d

/-- A durable store is begun with the rows as a database keeps them. -/
theorem rows_durableOf (rows : Table) (wire : Wire) :
    (durableOf rows wire).rows = rows.map Row.stored := rfl

@[simp] theorem rows_withFaults (faults : List Fault) (s : AnyStore) :
    (s.withFaults faults).rows = s.rows := by
  cases s <;> rfl

@[simp] theorem rows_failInserts (count : Nat) (s : AnyStore) :
    (s.failInserts count).rows = s.rows := by
  cases s <;> rfl

end AnyStore

end TokenRotation

import TokenRotation.Store.Call
import TokenRotation.Store.Durable.Precision
import TokenRotation.Store.Durable.Wire
import TokenRotation.Token.Verdict

/-!
# The durable store

The table stands in a database behind a wire. Each call is one statement or one transaction; the
table changes only when all of it went through. Consuming and revoking are run again, up to five
times in all, while the database ends them in a lock conflict.

* `perform_rows_of_failed` -- a call that fails leaves the table as it was.
-/

namespace TokenRotation

open Store

/-- A table in a database, and the wire to it. -/
structure DurableStore where
  rows : Table := []
  wire : Wire

namespace DurableStore

/-! ## 1. Statements and transactions, as attempts -/

/-- Adds a row: the length of its hash is checked first, then its identifier and its hash against
    those of the table. -/
def insertAttempt (rows : Table) (token : NewToken) : Attempt (Row × Table) := do
  let texts := [token.subject, token.hash]
  Attempt.send .insert texts
  if token.hash.length ≠ 64 then
    Attempt.refuse Violation.check.state (some hashLengthConstraint) .insert texts
  else if rows.hasId token.id then
    Attempt.refuse Violation.unique.state (some idConstraint) .insert texts
  else if rows.hasHash token.hash then
    Attempt.refuse Violation.unique.state (some hashConstraint) .insert texts
  else
    let row := token.row.stored
    pure (row, rows ++ [row])

/-- One transaction: the row of the hash is read under a lock and judged by the clock, what the
    verdict says is written, and all of it is committed. The clock is read once the row is found,
    and not for an unknown hash. The accepted row is answered as it was computed, finer than it is
    kept. -/
def consumeAttempt (rows : Table) (hash : String) (clock : Clock) (policy : Policy) :
    Attempt (ConsumeOutcome × Table) := do
  Attempt.send .begin
  Attempt.send .select [hash]
  match rows.byHash? hash with
  | none =>
    Attempt.send .rollback
    pure (.unknown, rows)
  | some row =>
    let now ← Attempt.now clock
    match row.judge now policy with
    | .refuse reason =>
      Attempt.send .commit
      pure (.rejected reason, rows)
    | .firstUse consumedAt graceExpiresAt =>
      Attempt.send .update
      Attempt.send .commit
      pure (.accepted (row.stamp consumedAt graceExpiresAt) .first,
        rows.changeAll (fun r => r.id = row.id) fun r =>
          r.stamp consumedAt.stored graceExpiresAt.stored)
    | .withinGrace =>
      Attempt.send .commit
      pure (.accepted row .grace, rows)
    | .reuse =>
      let sibling (r : Row) : Bool := r.family = row.family
      Attempt.send .update
      Attempt.send .commit
      pure (.reused row (rows.sweepCount sibling), rows.sweep sibling now.stored)
    | .overflow => Attempt.giveUp (.aborted .overflow)

/-- Revokes the chosen rows and counts those that were not revoked before. -/
def revokeAttempt (rows : Table) (texts : List String) (chosen : Row → Bool) (now : Instant) :
    Attempt (Nat × Table) := do
  Attempt.send .update texts
  pure (rows.sweepCount chosen, rows.sweep chosen now.stored)

/-- Links a successor, which has to be a row of the table, to the row with the identifier unless it
    has one. -/
def linkAttempt (rows : Table) (id successor : Uuid) : Attempt (Bool × Table) := do
  let unlinked (r : Row) : Bool := r.id = id && r.replacedBy.isNone
  Attempt.send .update
  if rows.any unlinked then
    if rows.hasId successor then
      pure (true, rows.changeAll unlinked fun r => { r with replacedBy := some successor })
    else Attempt.refuse Violation.foreignKey.state (some successorConstraint) .update
  else pure (false, rows)

/-- The rows of a family by their creation; of rows created together the lesser identifier is
    first. -/
def lineage (rows : Table) (family : Uuid) : Table :=
  (rows.familyRows family).sorted fun a b =>
    a.createdAt < b.createdAt || (a.createdAt = b.createdAt && a.id ≤ b.id)

/-! ## 2. Repetition after a lock conflict -/

/-- How often a unit of work is tried. -/
def maxAttempts : Nat := 5

/-- The outcome of attempts, with the events logged between them. -/
structure Attempted (α : Type) where
  result : Except Trouble α
  events : List Event
  wire : Wire

/-- Repeats an attempt that ends in a lock conflict, at most `left` times more; `number` counts the
    attempts from 1. -/
def repeating {α : Type} (work : LockedWork) (attempt : Attempt α) :
    (left number : Nat) → Wire → Attempted α
  | 0, _, wire =>
    let (result, wire) := attempt wire
    { result, events := [], wire }
  | left + 1, number, wire =>
    match attempt wire with
    | (.error (.database e), wire) =>
      if e.isLockConflict then
        let rest := repeating work attempt left (number + 1) wire
        { rest with events := .lockConflict work number e.notice.sentence :: rest.events }
      else { result := .error (.database e), events := [], wire }
    | (result, wire) => { result, events := [], wire }

/-- Tries a unit of work as often as it may be tried. -/
def retried {α : Type} (work : LockedWork) (attempt : Attempt α) (wire : Wire) : Attempted α :=
  repeating work attempt (maxAttempts - 1) 1 wire

/-- Tries a unit of work once. -/
def once {α : Type} (attempt : Attempt α) (wire : Wire) : Attempted α :=
  let (result, wire) := attempt wire
  { result, events := [], wire }

/-! ## 3. Calls -/

/-- Takes over the table of an attempt that went through; otherwise keeps the table and tells the
    failure. -/
def settle {α : Type} (d : DurableStore) (a : Attempted (α × Table))
    (failure : DatabaseError → Failure) : Performed DurableStore α :=
  match a.result with
  | .ok (value, rows) =>
    { outcome := .done value, events := a.events, store := { rows, wire := a.wire } }
  | .error (.database e) =>
    { outcome := .failed (failure e)
      events := a.events ++ e.events
      store := { d with wire := a.wire } }
  | .error (.aborted cause) =>
    { outcome := .aborted cause, events := a.events, store := { d with wire := a.wire } }

/-- Reads from the table with one statement. -/
def read {α : Type} (d : DurableStore) (texts : List String) (value : α) :
    Performed DurableStore α :=
  d.settle (once (do Attempt.send .select texts; pure (value, d.rows)) d.wire)
    DatabaseError.failure

/-- Answers a call. -/
def perform (d : DurableStore) : (call : StoreCall) → Performed DurableStore call.Answer
  | .insert token =>
    d.settle (once (insertAttempt d.rows token) d.wire) DatabaseError.insertFailure
  | .consume hash clock policy =>
    d.settle (retried .consume (consumeAttempt d.rows hash clock policy) d.wire)
      DatabaseError.failure
  | .revokeFamily family now =>
    d.settle
      (retried .revokeFamily (revokeAttempt d.rows [] (fun r => r.family = family) now) d.wire)
      DatabaseError.failure
  | .revokeSubject subject now =>
    d.settle
      (retried .revokeSubject
        (revokeAttempt d.rows [subject] (fun r => r.subject = subject) now) d.wire)
      DatabaseError.failure
  | .link id successor =>
    d.settle (once (linkAttempt d.rows id successor) d.wire) DatabaseError.failure
  | .getByHash hash => d.read [hash] (d.rows.byHash? hash)
  | .listFamily family => d.read [] (lineage d.rows family)

instance : TokenStore DurableStore where
  rows := DurableStore.rows
  perform := DurableStore.perform

/-- The table changes only under an outcome that is done. -/
theorem settle_rows {α : Type} (d : DurableStore) (a : Attempted (α × Table))
    (failure : DatabaseError → Failure) (h : ∀ v, (d.settle a failure).outcome ≠ .done v) :
    (d.settle a failure).store.rows = d.rows := by
  unfold settle at h ⊢
  split
  · next value rows heq =>
    rw [heq] at h
    exact absurd rfl (h value)
  · rfl
  · rfl

/-- A call that does not end in an answer leaves the table as it was. -/
theorem perform_rows_of_failed (d : DurableStore) (call : StoreCall)
    (h : ∀ v, (d.perform call).outcome ≠ .done v) : (d.perform call).store.rows = d.rows := by
  cases call <;> exact settle_rows d _ _ h

end DurableStore

end TokenRotation

import TokenRotation.Store.Call
import TokenRotation.Token.Verdict

/-!
# The store in memory

The table is all there is: nothing is rounded, nothing fails on its own account, and equal hashes
or identifiers are told apart by their order alone. Collisions can be asked for in advance.

The table stands behind a lock, which every call takes; only a collision that is due is answered
before it. Work that is broken off behind the lock poisons it, and whoever comes later is broken off
there.

* `locked_of_sound`, `locked_of_poisoned` -- what becomes of work behind the lock;
* `poisoned_perform` -- a call poisons the lock where it is broken off, and no call mends it.
-/

namespace TokenRotation

/-- A table in memory behind a lock, and the number of insertions that will be answered with a
    collision. -/
structure MemoryStore where
  rows : Table := []
  forcedCollisions : Nat := 0
  /-- Work was broken off behind the lock. -/
  poisoned : Bool := false
deriving DecidableEq, Repr

namespace MemoryStore

/-! ## 1. The lock -/

variable {α : Type}

/-- Does work behind the lock. Nobody gets past a poisoned lock, and work that is broken off leaves
    it poisoned. -/
def locked (m : MemoryStore) (work : Performed MemoryStore α) : Performed MemoryStore α :=
  if m.poisoned then { outcome := .aborted .poisoned, store := m }
  else { work with store := { work.store with poisoned := work.outcome.isAborted } }

/-! ## 2. What is done behind it -/

/-- Adds a row at the end, unless the hash is taken. -/
def add (m : MemoryStore) (token : NewToken) : Performed MemoryStore Row :=
  if m.rows.hasHash token.hash then { outcome := .failed .hashCollision, store := m }
  else { outcome := .done token.row, store := { m with rows := m.rows ++ [token.row] } }

/-- Judges the first row with the hash at `now` and does what the verdict says. -/
def consumeAt (m : MemoryStore) (hash : String) (now : Instant) (policy : Policy) :
    Performed MemoryStore ConsumeOutcome :=
  match m.rows.byHash? hash with
  | none => { outcome := .done .unknown, store := m }
  | some row =>
    match row.judge now policy with
    | .refuse reason => { outcome := .done (.rejected reason), store := m }
    | .firstUse consumedAt graceExpiresAt =>
      { outcome := .done (.accepted (row.stamp consumedAt graceExpiresAt) .first)
        store := { m with
          rows := m.rows.changeFirst (fun r => r.hash = hash) fun r =>
            r.stamp consumedAt graceExpiresAt } }
    | .withinGrace => { outcome := .done (.accepted row .grace), store := m }
    | .reuse =>
      let sibling (r : Row) : Bool := r.family = row.family
      { outcome := .done (.reused row (m.rows.sweepCount sibling))
        store := { m with rows := m.rows.sweep sibling now } }
    | .overflow => { outcome := .aborted .overflow, store := m }

/-- Reads the clock first, whether or not a row has the hash, and consumes at what it shows. -/
def consume (m : MemoryStore) (hash : String) (clock : Clock) (policy : Policy) :
    Performed MemoryStore ConsumeOutcome :=
  match clock.now with
  | .ok now => m.consumeAt hash now policy
  | .error cause => { outcome := .aborted cause, store := m }

/-- Revokes the chosen rows and counts those that were not revoked before. -/
def revoke (m : MemoryStore) (chosen : Row → Bool) (now : Instant) : Performed MemoryStore Nat :=
  { outcome := .done (m.rows.sweepCount chosen)
    store := { m with rows := m.rows.sweep chosen now } }

/-- Links a successor to the first row with the identifier that has none. -/
def link (m : MemoryStore) (id successor : Uuid) : Performed MemoryStore Bool :=
  let unlinked (r : Row) : Bool := r.id = id && r.replacedBy.isNone
  { outcome := .done (m.rows.any unlinked)
    store := { m with
      rows := m.rows.changeFirst unlinked fun r => { r with replacedBy := some successor } } }

/-- The rows of a family by their creation; of rows created together the older entry is first. -/
def lineage (m : MemoryStore) (family : Uuid) : Table :=
  (m.rows.familyRows family).sorted fun a b => a.createdAt ≤ b.createdAt

/-- What a call comes to behind the lock. -/
def work (m : MemoryStore) : (call : StoreCall) → Performed MemoryStore call.Answer
  | .insert token => m.add token
  | .consume hash clock policy => m.consume hash clock policy
  | .revokeFamily family now => m.revoke (fun r => r.family = family) now
  | .revokeSubject subject now => m.revoke (fun r => r.subject = subject) now
  | .link id successor => m.link id successor
  | .getByHash hash => { outcome := .done (m.rows.byHash? hash), store := m }
  | .listFamily family => { outcome := .done (m.lineage family), store := m }

/-! ## 3. Calls -/

/-- Makes the next insertions, that many, end in a collision. -/
def failInserts (m : MemoryStore) (count : Nat) : MemoryStore :=
  { m with forcedCollisions := count }

/-- Whether the store has no row, which is seen behind the lock. -/
def isEmpty (m : MemoryStore) : Outcome Bool :=
  (m.locked { outcome := .done m.rows.isEmpty, store := m }).outcome

/-- The call would add a row, and a collision is due. -/
def collides (m : MemoryStore) : StoreCall → Bool
  | .insert _ => 0 < m.forcedCollisions
  | _ => false

/-- Answers a call: behind the lock, unless it collides. -/
def perform (m : MemoryStore) (call : StoreCall) : Performed MemoryStore call.Answer :=
  if m.collides call then
    { outcome := .failed .hashCollision
      store := { m with forcedCollisions := m.forcedCollisions - 1 } }
  else m.locked (m.work call)

instance : TokenStore MemoryStore where
  rows := MemoryStore.rows
  perform := MemoryStore.perform

variable {m : MemoryStore} {call : StoreCall}

theorem collides_of_undue (undue : m.forcedCollisions = 0) (call : StoreCall) :
    m.collides call = false := by
  cases call <;> simp [collides, undue]

theorem perform_of_collides (due : m.collides call = true) :
    m.perform call =
      { outcome := .failed .hashCollision
        store := { m with forcedCollisions := m.forcedCollisions - 1 } } :=
  if_pos due

theorem perform_of_not_collides (undue : m.collides call = false) :
    m.perform call = m.locked (m.work call) :=
  if_neg (Bool.eq_false_iff.mp undue)

theorem locked_of_sound (sound : m.poisoned = false) (work : Performed MemoryStore α) :
    m.locked work = { work with store := { work.store with poisoned := work.outcome.isAborted } } :=
  if_neg (Bool.eq_false_iff.mp sound)

theorem locked_of_poisoned (poisoned : m.poisoned = true) (work : Performed MemoryStore α) :
    m.locked work = { outcome := .aborted .poisoned, store := m } :=
  if_pos poisoned

/-- A call with no collision due does its work behind a lock that is not poisoned. -/
theorem perform_of_sound (undue : m.collides call = false) (sound : m.poisoned = false) :
    m.perform call =
      { m.work call with
        store := { (m.work call).store with poisoned := (m.work call).outcome.isAborted } } :=
  (perform_of_not_collides undue).trans (locked_of_sound sound _)

/-- **A call poisons the lock where it is broken off**, and no call mends it. -/
theorem poisoned_perform (m : MemoryStore) (call : StoreCall) :
    (m.perform call).store.poisoned = (m.poisoned || (m.perform call).outcome.isAborted) := by
  cases due : m.collides call with
  | true => simp [perform_of_collides due, Outcome.isAborted]
  | false =>
    rw [perform_of_not_collides due]
    cases poisoned : m.poisoned with
    | true => rw [locked_of_poisoned poisoned, poisoned, Bool.true_or]
    | false => rw [locked_of_sound poisoned, Bool.false_or]

end MemoryStore

end TokenRotation

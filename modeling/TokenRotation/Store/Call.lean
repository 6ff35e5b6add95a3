import TokenRotation.Clock
import TokenRotation.Event
import TokenRotation.Policy
import TokenRotation.Table

/-!
# Calls of a store

A store carries out seven units of work on its table. Each is one step for everybody else: nobody
sees the table between its beginning and its end. A call names the unit of work and its arguments;
`TokenStore` is what answers calls.
-/

namespace TokenRotation

/-- What a store answers to the presentation of a hash. -/
inductive ConsumeOutcome
  /-- No row has the hash. -/
  | unknown
  /-- The row is revoked or expired; nothing changed. -/
  | rejected (reason : Refusal)
  /-- The row was presented for the first time or inside its grace window, and this is the row
      after the call. -/
  | accepted (row : Row) (kind : ConsumeKind)
  /-- The row was presented after its grace window, and this is the row before its family was
      revoked. -/
  | reused (row : Row) (revokedRows : Nat)
deriving DecidableEq, Repr

/-- One unit of work of a store. -/
inductive StoreCall
  /-- Adds the row of a new token; a taken hash is answered with `Failure.hashCollision`. -/
  | insert (token : NewToken)
  /-- Finds the row of a hash, judges it by a clock and does what the verdict says. -/
  | consume (hash : String) (clock : Clock) (policy : Policy)
  /-- Revokes the unrevoked rows of a family and counts them. -/
  | revokeFamily (family : Uuid) (now : Instant)
  /-- Revokes the unrevoked rows of a subject and counts them. -/
  | revokeSubject (subject : String) (now : Instant)
  /-- Links a successor to a row that has none; answers whether it did. -/
  | link (id successor : Uuid)
  /-- Reads the row of a hash. -/
  | getByHash (hash : String)
  /-- Reads the rows of a family, oldest first. -/
  | listFamily (family : Uuid)
deriving DecidableEq, Repr

/-- The type of a store's answer to a call. -/
abbrev StoreCall.Answer : StoreCall → Type
  | .insert _ => Row
  | .consume .. => ConsumeOutcome
  | .revokeFamily .. => Nat
  | .revokeSubject .. => Nat
  | .link .. => Bool
  | .getByHash _ => Option Row
  | .listFamily _ => Table

/-- What remains of a unit of work: how it ended, what it logged, and the store after it. -/
structure Performed (σ α : Type) where
  outcome : Outcome α
  events : List Event := []
  store : σ

/-- A store of tokens: it answers every call, and its table can be looked at. -/
class TokenStore (σ : Type) where
  rows : σ → Table
  perform : σ → (call : StoreCall) → Performed σ call.Answer

end TokenRotation

import TokenRotation.Token.Row

/-!
# Statuses

Where a row stands in its life at an instant. A status is read off the row and never kept.
-/

namespace TokenRotation

/-- The place of a row in its life. -/
inductive Status
  | active
  /-- Consumed, and no successor linked yet. -/
  | consumed
  /-- A successor is linked. -/
  | replaced
  | expired
  | revoked
deriving DecidableEq, Repr

/-- A status as a word. -/
def Status.text : Status → String
  | .active => "active"
  | .consumed => "consumed"
  | .replaced => "replaced"
  | .expired => "expired"
  | .revoked => "revoked"

/-- The status of a row at `now`: of all that apply, the latest in its life. -/
def Row.status (r : Row) (now : Instant) : Status :=
  if r.revokedAt.isSome then .revoked
  else if r.expiresAt < now then .expired
  else if r.replacedBy.isSome then .replaced
  else if r.consumedAt.isSome then .consumed
  else .active

end TokenRotation

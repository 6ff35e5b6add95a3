import TokenRotation.Time
import TokenRotation.Uuid

/-!
# Rows

What is kept of an issued token. The text of the token is never a part of it, only its hash.
-/

namespace TokenRotation

/-- The row of one token. -/
structure Row where
  id : Uuid
  /-- Whom the token was issued to. -/
  subject : String
  /-- The login that the token descends from. -/
  family : Uuid
  hash : String
  createdAt : Instant
  expiresAt : Instant
  /-- When the token was first consumed. -/
  consumedAt : Option Instant := none
  /-- Until when a duplicate presentation is answered. -/
  graceExpiresAt : Option Instant := none
  /-- The row of the first successor linked to this one. -/
  replacedBy : Option Uuid := none
  revokedAt : Option Instant := none
deriving DecidableEq, Repr

/-- What is decided about a row before a store takes it in. -/
structure NewToken where
  id : Uuid
  subject : String
  family : Uuid
  hash : String
  createdAt : Instant
  expiresAt : Instant
deriving DecidableEq, Repr

/-- The row of a token that nobody has presented, linked or revoked yet. -/
def NewToken.row (t : NewToken) : Row :=
  { id := t.id, subject := t.subject, family := t.family, hash := t.hash, createdAt := t.createdAt,
    expiresAt := t.expiresAt }

namespace Row

/-- Stamps a row as consumed. A row that is consumed already keeps its stamps. -/
def stamp (r : Row) (consumedAt graceExpiresAt : Instant) : Row :=
  if r.consumedAt.isNone then
    { r with consumedAt := some consumedAt, graceExpiresAt := some graceExpiresAt }
  else r

/-- The row revoked at `now`; a row that is revoked already keeps its instant. -/
def revoke (r : Row) (now : Instant) : Row :=
  if r.revokedAt.isNone then { r with revokedAt := some now } else r

theorem isNone_revokedAt_revoke (r : Row) (t : Instant) :
    (r.revoke t).revokedAt.isNone = false := by
  cases h : r.revokedAt <;> simp [revoke, h]

theorem revoke_revoke (r : Row) (t u : Instant) : (r.revoke t).revoke u = r.revoke t := by
  unfold revoke
  split <;> simp_all

end Row

end TokenRotation

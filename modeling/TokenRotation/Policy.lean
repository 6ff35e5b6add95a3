import TokenRotation.Time

/-!
# Policies

Two durations rule every token: how long it lives after its issue, and how long after its first
presentation a duplicate of it is still answered.
-/

namespace TokenRotation

/-- The lifetime of a token and its grace window. -/
structure Policy where
  lifetime : Duration
  grace : Duration
deriving DecidableEq, Repr

namespace Policy

/-- Seven days of life and ten seconds of grace. -/
def default : Policy := ⟨Duration.ofDays 7, Duration.ofSeconds 10⟩

/-- When a token issued at `issuedAt` expires, if the calendar reaches that far. -/
def expiresAt? (p : Policy) (issuedAt : Instant) : Option Instant := issuedAt.add? p.lifetime

/-- When the grace window of a token first consumed at `consumedAt` closes, if the calendar reaches
    that far. -/
def graceExpiresAt? (p : Policy) (consumedAt : Instant) : Option Instant := consumedAt.add? p.grace

end Policy

end TokenRotation

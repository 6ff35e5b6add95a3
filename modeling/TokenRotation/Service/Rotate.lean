import TokenRotation.Service.Consume
import TokenRotation.Service.Issue

/-!
# Rotating tokens

A presented token is consumed, a successor in its family is issued, and the successor is linked to
it. These are three units of work and not one: a rotation that stops in between leaves the token
consumed, and it can be presented again inside its grace window.
-/

namespace TokenRotation.Service

/-- A successor, and what it succeeds. -/
structure RotatedToken where
  issued : IssuedToken
  subject : String
  previousId : Uuid
deriving DecidableEq, Repr

/-- Links a successor to a row. The first successor stays linked: a later one is told `false`. -/
def link (id successor : Uuid) : Program Bool := Program.store (.link id successor)

/-- Rotates a presented token by a clock. -/
def rotate (policy : Policy) (token : String) (clock : Clock) : Program RotatedToken := do
  let consumed ← consume policy token clock
  let now ← Program.now clock
  let issued ← issue policy consumed.subject (some consumed.family) now
  let linked ← link consumed.id issued.id
  if linked then pure ()
  else Program.log (.alreadyLinked consumed.id issued.id)
  pure { issued, subject := consumed.subject, previousId := consumed.id }

end TokenRotation.Service

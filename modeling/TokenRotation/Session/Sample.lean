import TokenRotation.Draws
import TokenRotation.Policy
import TokenRotation.Token.Row

/-!
# Sample rows

A row for trials: issued at noon of the first day of 2025 under the default policy, and never
presented.

* `expiresAt?_sampleInstant` -- a sample expires when a token of the default policy does.
-/

namespace TokenRotation.Session

/-- The instant that sample rows are issued at, 2025-01-01T12:00:00 UTC. -/
def sampleInstant : Instant := .ofParts 1735732800 0

/-- The subject of a sample row unless another is asked for. -/
def sampleSubject : String := "user@example.com"

/-- When a sample row expires. -/
def sampleExpiry : Instant := ⟨sampleInstant.nanos + Policy.default.lifetime.nanos⟩

/-- A sample expires when a token of the default policy does. -/
theorem expiresAt?_sampleInstant :
    Policy.default.expiresAt? sampleInstant = some sampleExpiry := by
  decide

/-- The sample row of a token. Its identifier is drawn first, then its family. -/
def sampleRow (token subject : String) (draws : Draws) : Row × Draws :=
  let (id, draws) := draws.uuid
  let (family, draws) := draws.uuid
  ({ id, subject, family, hash := hashOf token, createdAt := sampleInstant
     expiresAt := sampleExpiry },
    draws)

end TokenRotation.Session

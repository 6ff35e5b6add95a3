import TokenRotation.Secret
import TokenRotation.Uuid

/-!
# Draws of chance

Two unending streams, one of secrets and one of identifiers, and how far each has been drawn.
Equal streams give equal draws, so an operation that draws is a function of them.
-/

namespace TokenRotation

/-- Two streams, numbered from 1, and the number of draws taken from each. -/
structure Draws where
  secretAt : Nat → Secret
  chanceAt : Nat → BitVec 128
  secretsDrawn : Nat := 0
  uuidsDrawn : Nat := 0

namespace Draws

/-- The next secret. -/
def secret (d : Draws) : Secret × Draws :=
  (d.secretAt (d.secretsDrawn + 1), { d with secretsDrawn := d.secretsDrawn + 1 })

/-- The next random identifier. -/
def uuid (d : Draws) : Uuid × Draws :=
  (Uuid.random (d.chanceAt (d.uuidsDrawn + 1)), { d with uuidsDrawn := d.uuidsDrawn + 1 })

/-- Streams that begin with the given values; from there on draw number `k` writes the number
    `k`. -/
def ofLists (secrets : List Secret) (chances : List (BitVec 128)) : Draws where
  secretAt k := secrets[k - 1]?.getD (Secret.ofNat k)
  chanceAt k := chances[k - 1]?.getD (BitVec.ofNat 128 k)

end Draws

end TokenRotation

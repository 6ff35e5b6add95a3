import TokenRotation.Program

/-!
# Looking tokens up

Reading without consuming.
-/

namespace TokenRotation.Service

/-- The row of a presented token. -/
def find (token : String) : Program (Option Row) := Program.store (.getByHash (hashOf token))

/-- All rows of a family, oldest first. -/
def lineage (family : Uuid) : Program Table := Program.store (.listFamily family)

end TokenRotation.Service

import TokenRotation.Program

/-!
# Revoking tokens

A family or all tokens of a subject are revoked by one sweep of the store. Both can be repeated
without harm.
-/

namespace TokenRotation.Service

/-- Revokes every token of a family; the answer is the number of tokens that were not revoked
    before. -/
def revokeFamily (family : Uuid) (now : Instant) : Program Nat := do
  Program.log (.entered (.revokeFamily family now))
  let revokedRows ← Program.store (.revokeFamily family now)
  Program.log (.familyRevoked family revokedRows)
  pure revokedRows

/-- Revokes every token of a subject, in all families; the answer is the number of tokens that were
    not revoked before. -/
def revokeSubject (subject : String) (now : Instant) : Program Nat := do
  Program.log (.entered .revokeSubject)
  let revokedRows ← Program.store (.revokeSubject subject now)
  Program.log (.subjectRevoked revokedRows)
  pure revokedRows

end TokenRotation.Service

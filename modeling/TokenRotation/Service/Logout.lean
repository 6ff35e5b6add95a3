import TokenRotation.Service.Lookup
import TokenRotation.Service.Revoke
import TokenRotation.Token.Status

/-!
# Logging out

Whoever presents a token that is neither revoked nor expired may end its family, or everything its
subject holds. The token is not consumed by it.
-/

namespace TokenRotation.Service

/-- The row of a presented token, if it entitles to a logout at `now`. -/
def authenticate (token : String) (now : Instant) : Program Row := do
  let found ← find token
  match found with
  | none => Program.fail (.refused .unknown)
  | some row =>
    match row.status now with
    | .revoked => Program.fail (.refused .revoked)
    | .expired => Program.fail (.refused .expired)
    | status => do
      Program.log (.logoutAccepted row.family row.id status)
      pure row

/-- Ends the family of a presented token. -/
def logout (token : String) (now : Instant) : Program Nat := do
  let row ← authenticate token now
  revokeFamily row.family now

/-- Ends every family of the subject of a presented token. -/
def logoutEverywhere (token : String) (now : Instant) : Program Nat := do
  let row ← authenticate token now
  revokeSubject row.subject now

end TokenRotation.Service

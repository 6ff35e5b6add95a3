import TokenRotation.Program
import TokenRotation.Text.Blank

/-!
# Issuing tokens

A token is issued to a subject, either as the beginning of a new family or as a further member of a
family. When the hash of the fresh secret is taken, a new secret is drawn, up to three in all.
-/

namespace TokenRotation.Service

/-- A token that was just issued. Its text exists nowhere else. -/
structure IssuedToken where
  token : String
  id : Uuid
  family : Uuid
  expiresAt : Instant
deriving DecidableEq, Repr

/-- How many secrets are tried for one token. -/
def maxIssueAttempts : Nat := 3

/-- Why a blank subject is turned away. -/
def blankSubject : Failure := .invalidInput "Subject must not be empty"

/-- What a store is given for a secret and an identifier. -/
def newToken (subject : String) (family : Uuid) (now expiresAt : Instant) (secret : Secret)
    (id : Uuid) : NewToken :=
  { id, subject, family, hash := hashOf secret.token, createdAt := now, expiresAt }

/-- Tries to issue with at most `left` secrets; `number` counts the tries from 1. -/
def issueWithin (policy : Policy) (subject : String) (family : Uuid) (now : Instant) :
    (left number : Nat) → Program IssuedToken
  | 0, _ => Program.fail .hashCollision
  | left + 1, number => do
    let secret ← Program.secret
    let id ← Program.uuid
    let expiresAt ← Program.ofDate? (policy.expiresAt? now)
    let reply ← Program.tryStore (.insert (newToken subject family now expiresAt secret id))
    match reply with
    | .ok row =>
      Program.log (.issued row.family row.id)
      pure { token := secret.token, id := row.id, family := row.family, expiresAt := row.expiresAt }
    | .error .hashCollision =>
      Program.log (.issueCollided number)
      issueWithin policy subject family now left (number + 1)
    | .error failure => Program.fail failure

/-- The given family, or a new one. -/
def familyOrNew : Option Uuid → Program Uuid
  | some family => pure family
  | none => Program.uuid

/-- Issues a token to a subject at `now`. Nothing is drawn for a blank subject. -/
def issue (policy : Policy) (subject : String) (family? : Option Uuid) (now : Instant) :
    Program IssuedToken := do
  Program.log (.entered (.issue family? now))
  if Text.isBlank subject then Program.fail blankSubject
  else
    let family ← familyOrNew family?
    issueWithin policy subject family now maxIssueAttempts 1

end TokenRotation.Service

import TokenRotation.Program

/-!
# Consuming tokens

A presented token is looked up by its hash and consumed in one unit of work of the store. What the
store answers is logged, and told to the caller as a value or as a refusal.
-/

namespace TokenRotation.Service

/-- A token that was just accepted. -/
structure ConsumedToken where
  id : Uuid
  subject : String
  family : Uuid
  kind : ConsumeKind
deriving DecidableEq, Repr

/-- Logs what the store answered and tells it to the caller. -/
def concludeConsume : ConsumeOutcome → Program ConsumedToken
  | .unknown => do
    Program.log .unknownPresented
    Program.fail (.refused .unknown)
  | .rejected reason => do
    Program.log (.refused reason)
    Program.fail (.refused reason)
  | .accepted row kind => do
    Program.log (.consumed row.family row.id kind)
    pure { id := row.id, subject := row.subject, family := row.family, kind }
  | .reused row revokedRows => do
    Program.log (.reuseDetected row.family row.id revokedRows)
    Program.fail (.refused .reused)

/-- Consumes a presented token by a clock, which the store reads. -/
def consume (policy : Policy) (token : String) (clock : Clock) : Program ConsumedToken := do
  Program.log (.entered (.consume clock))
  let outcome ← Program.store (.consume (hashOf token) clock policy)
  concludeConsume outcome

end TokenRotation.Service

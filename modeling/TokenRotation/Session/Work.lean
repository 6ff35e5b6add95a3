import TokenRotation.Http.Serve

/-!
# Work of a session

Everything a session can have done by programs, each with the value it ends in.
-/

namespace TokenRotation.Session

/-! ## 1. What can be asked for -/

/-- One piece of work. -/
inductive Work
  | issue (subject : String) (family : Option Uuid)
  | consume (token : String)
  | rotate (token : String)
  | revokeFamily (family : Uuid)
  | revokeSubject (subject : String)
  | link (id successor : Uuid)
  | find (token : String)
  /-- To list a family, with the status of its rows at an instant if one is given. -/
  | lineage (family : Uuid) (statusAt : Option Instant)
  | logout (token : String)
  | logoutEverywhere (token : String)
  /-- To call the store, past the services. -/
  | call (c : StoreCall)
  | policy
  | settings
  | serve (request : Http.Request)
deriving DecidableEq, Repr

/-! ## 2. What it ends in -/

/-- What a piece of work ends in. -/
inductive Value
  | issued (token : Service.IssuedToken)
  | consumed (token : Service.ConsumedToken)
  | rotated (token : Service.RotatedToken)
  | count (n : Nat)
  | flag (b : Bool)
  | row (r : Option Row)
  | lineage (members : List (Uuid × Option Status))
  | outcome (o : ConsumeOutcome)
  | policy (p : Policy)
  | settings (s : Settings)
  | response (r : Http.Response)
  | nothing
deriving DecidableEq, Repr

/-- The members of a family by their identifiers, with their status at an instant if one is
    given. -/
def members (statusAt : Option Instant) (rows : Table) : List (Uuid × Option Status) :=
  rows.map fun r => (r.id, statusAt.map r.status)

/-- The answer of a store as a value. -/
def ofAnswer : (call : StoreCall) → call.Answer → Value
  | .insert _, row => .row (some row)
  | .consume .., outcome => .outcome outcome
  | .revokeFamily .., revokedRows => .count revokedRows
  | .revokeSubject .., revokedRows => .count revokedRows
  | .link .., linked => .flag linked
  | .getByHash _, row => .row row
  | .listFamily _, rows => .lineage (members none rows)

/-- The program of a piece of work under the settings of the service. What goes by a clock reads it
    before all else, but for consuming and rotating, where the store reads it. -/
def Work.program (settings : Settings) (clock : Clock) : Work → Program Value
  | .issue subject family => do
    let now ← Program.now clock
    let token ← Service.issue settings.policy subject family now
    pure (.issued token)
  | .consume token => do
    let token ← Service.consume settings.policy token clock
    pure (.consumed token)
  | .rotate token => do
    let token ← Service.rotate settings.policy token clock
    pure (.rotated token)
  | .revokeFamily family => do
    let now ← Program.now clock
    let revokedRows ← Service.revokeFamily family now
    pure (.count revokedRows)
  | .revokeSubject subject => do
    let now ← Program.now clock
    let revokedRows ← Service.revokeSubject subject now
    pure (.count revokedRows)
  | .link id successor => do
    let linked ← Service.link id successor
    pure (.flag linked)
  | .find token => do
    let row ← Service.find token
    pure (.row row)
  | .lineage family statusAt => do
    let rows ← Service.lineage family
    pure (.lineage (members statusAt rows))
  | .logout token => do
    let now ← Program.now clock
    let revokedRows ← Service.logout token now
    pure (.count revokedRows)
  | .logoutEverywhere token => do
    let now ← Program.now clock
    let revokedRows ← Service.logoutEverywhere token now
    pure (.count revokedRows)
  | .call c => do
    let answer ← Program.store c
    pure (ofAnswer c answer)
  | .policy => pure (.policy settings.policy)
  | .settings => pure (.settings settings)
  | .serve request => do
    let response ← Http.serve settings request clock
    pure (.response response)

end TokenRotation.Session

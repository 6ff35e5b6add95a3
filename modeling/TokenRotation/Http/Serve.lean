import TokenRotation.Http.Payload
import TokenRotation.Http.Response
import TokenRotation.Service.Logout
import TokenRotation.Service.Rotate
import TokenRotation.Settings.Basic

/-!
# Serving requests

A request is answered from outside to inside: a browser's question about methods first, then the
path, the method, the type of the body, its size, its form, and last the token in it. Only the last
reaches the store.

* `run_handled` -- a failure becomes its response, and an event of the log.
-/

namespace TokenRotation.Http

/-- The greatest number of bytes of a body. -/
def maxBodyBytes : Nat := 2097152

/-- The status that answers a body without a token. -/
def PayloadError.status : PayloadError → Nat
  | .malformed => 400
  | .unsuitable => 422

/-- The token that a request presents, or the response to a request that presents none. -/
def presentedToken (r : Request) : Except Response String :=
  if !r.bodyIsJson then .error (.rejection 415)
  else if maxBodyBytes < r.body.length then .error (.rejection 413)
  else
    match Payload.token r.body with
    | .ok token => .ok token
    | .error e => .error (.rejection e.status)

/-- What an endpoint does with a presented token, by a clock. A logout reads the clock before it
    looks the token up. -/
def Endpoint.handle (e : Endpoint) (policy : Policy) (token : String) (clock : Clock) :
    Program Response :=
  match e with
  | .refresh => do
    let rotated ← Service.rotate policy token clock
    let expiresIn := policy.lifetime.wholeSeconds
    pure (.withContent 200 (.token rotated.issued.token expiresIn rotated.subject))
  | .logout => do
    let now ← Program.now clock
    let _ ← Service.logout token now
    pure .noContent
  | .logoutEverywhere => do
    let now ← Program.now clock
    let _ ← Service.logoutEverywhere token now
    pure .noContent

/-- The program with its failure logged and made a response. -/
def handled (p : Program Response) : Program Response := do
  let result ← p.attempt
  match result with
  | .ok response => pure response
  | .error failure => do
    Program.log (failureEvent failure)
    pure (.ofFailure failure)

/-- Answers a request that is no question about methods. -/
def respond (policy : Policy) (r : Request) (clock : Clock) : Program Response :=
  match Endpoint.ofPath? r.path with
  | none => pure .unknownPath
  | some endpoint =>
    if r.method ≠ "POST" then pure .wrongMethod
    else
      match presentedToken r with
      | .ok token => handled (endpoint.handle policy token clock)
      | .error response => pure response

/-- The response to a question about methods, which is answered for every path. -/
def preflight (r : Request) : Response where
  status := 200
  headers :=
    Response.preflightHeaders ++
      if (Endpoint.ofPath? r.path).isSome then [Response.allowPost] else []

/-- Answers a request under the settings of the service. -/
def serve (settings : Settings) (r : Request) (clock : Clock) : Program Response := do
  let response ← if r.method = "OPTIONS" then pure (preflight r)
    else respond settings.policy r clock
  pure (response.guarded settings.corsOrigin)

/-- A failure becomes its response, and an event at the end of the log. -/
theorem run_handled {σ : Type} [TokenStore σ] (p : Program Response) (w : Program.World σ) :
    (handled p).run w =
      match p.run w with
      | (.done response, w) => (.done response, w)
      | (.failed failure, w) =>
        (.done (.ofFailure failure), { w with log := w.log ++ [failureEvent failure] })
      | (.aborted cause, w) => (.aborted cause, w) := by
  rw [handled, Program.run_bind, Program.run_attempt]
  rcases p.run w with ⟨outcome, w'⟩
  cases outcome <;> rfl

end TokenRotation.Http

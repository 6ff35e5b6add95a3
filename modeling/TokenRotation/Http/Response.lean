import TokenRotation.Event
import TokenRotation.Http.Request
import TokenRotation.Settings.HeaderValue

/-!
# Responses

A response is a status, the headers that its cause calls for, and its content. Every response of the
service carries some more headers, which keep it out of caches and frames and name the one origin
whose pages may read it.

* `ofFailure_refused` -- all refusals look the same to the client.
-/

namespace TokenRotation.Http

/-! ## 1. Error codes -/

/-- What a client is told about a failure. -/
inductive ErrorCode
  | databaseError
  | invalidCredentials
  | invalidInput
  | notFound
  | internalError
deriving DecidableEq, Repr

namespace ErrorCode

/-- An error code as a word. -/
def text : ErrorCode → String
  | .databaseError => "DATABASE_ERROR"
  | .invalidCredentials => "INVALID_CREDENTIALS"
  | .invalidInput => "INVALID_INPUT"
  | .notFound => "NOT_FOUND"
  | .internalError => "INTERNAL_ERROR"

/-- All error codes. -/
def all : List ErrorCode :=
  [.databaseError, .invalidCredentials, .invalidInput, .notFound, .internalError]

theorem mem_all (c : ErrorCode) : c ∈ all := by
  cases c <;> decide

end ErrorCode

/-! ## 2. Responses -/

/-- The content of a response. -/
inductive Content
  | empty
  /-- A sentence for a reader; its wording is free. -/
  | explanation
  /-- A JSON object with the code, and the message if there is one. -/
  | error (code : ErrorCode) (message : Option String)
  /-- A JSON object with a fresh token, its lifetime in whole seconds and its subject. -/
  | token (refreshToken : String) (expiresIn : Int) (subject : String)
deriving DecidableEq, Repr

/-- The media type of a content. -/
def Content.type? : Content → Option String
  | .empty => none
  | .explanation => some "text/plain; charset=utf-8"
  | .error .. | .token .. => some "application/json"

/-- The kind of the tokens that are handed out. -/
def tokenType : String := "Refresh"

/-- The value of a member of a JSON object. -/
inductive MemberValue
  | text (value : String)
  | number (value : Int)
deriving DecidableEq, Repr

/-- The members of the JSON object that a content is, if it is one. -/
def Content.members? : Content → Option (List (String × MemberValue))
  | .empty | .explanation => none
  | .error code message =>
    some (("code", .text code.text) :: (message.map fun text => ("message", .text text)).toList)
  | .token refreshToken expiresIn subject =>
    some
      [("refresh_token", .text refreshToken), ("token_type", .text tokenType),
        ("expires_in", .number expiresIn), ("subject", .text subject)]

/-- A response to a request. -/
structure Response where
  status : Nat
  headers : List Header := []
  content : Content := .empty
deriving DecidableEq, Repr

namespace Response

/-- A response whose header tells the type of its content. -/
def withContent (status : Nat) (content : Content) : Response where
  status
  headers := content.type?.toList.map fun type => ("content-type", type)
  content

/-- The response to a request that the service cannot read. -/
def rejection (status : Nat) : Response := withContent status .explanation

/-- The response to a request for nothing that exists. -/
def unknownPath : Response := { status := 404 }

/-- The header that tells which methods a path allows. -/
def allowPost : Header := ("allow", "POST")

/-- The response to a request with a method that the path does not allow. -/
def wrongMethod : Response := { status := 405, headers := [allowPost] }

/-- The response to work that has nothing to tell. -/
def noContent : Response := { status := 204 }

/-- The response to a failure. Why a token was refused is not told. -/
def ofFailure : Failure → Response
  | .database _ => withContent 500 (.error .databaseError none)
  | .refused _ => withContent 401 (.error .invalidCredentials none)
  | .invalidInput detail => withContent 400 (.error .invalidInput (some detail))
  | .notFound => withContent 404 (.error .notFound none)
  | .hashCollision => withContent 500 (.error .internalError none)

/-- All refusals look the same to the client. -/
theorem ofFailure_refused (reason other : Refusal) :
    ofFailure (.refused reason) = ofFailure (.refused other) := rfl

/-! ## 3. Headers of every response -/

/-- The headers that tell a browser which pages may read a response: those of one origin. -/
def sharingHeaders (origin : Settings.HeaderValue) : List Header :=
  [("access-control-allow-credentials", "true"),
    ("access-control-allow-origin", origin.text),
    ("vary", "origin, access-control-request-method, access-control-request-headers")]

/-- The headers that answer a browser's question what a page may send. -/
def preflightHeaders : List Header :=
  [("access-control-allow-headers", "content-type"), ("access-control-allow-methods", "POST")]

/-- The headers that keep a response out of caches, out of frames, and read as what it says it
    is. -/
def guardHeaders : List Header :=
  [("cache-control", "no-store"), ("x-content-type-options", "nosniff"),
    ("x-frame-options", "DENY")]

/-- A response with the headers of every response. -/
def guarded (origin : Settings.HeaderValue) (r : Response) : Response :=
  { r with headers := r.headers ++ sharingHeaders origin ++ guardHeaders }

/-- The headers by name. -/
def sortedHeaders (r : Response) : List Header := r.headers.mergeSort fun a b => a.1 ≤ b.1

end Response

/-! ## 4. What the log tells of a failure -/

/-- The event of a request that ends in a failure: a refusal is the client's affair, anything else
    is the service's. -/
def failureEvent : Failure → Event
  | .refused reason => .requestRefused reason
  | failure => .requestFailed failure

end TokenRotation.Http

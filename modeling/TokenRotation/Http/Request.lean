import TokenRotation.Http.MediaType

/-!
# Requests

What of a request decides its response: the method, the path that its target names, the first header
of a name, and the bytes of its body. The service has three endpoints, all of them for `POST`.

* `ofPath?_path` -- no two endpoints share a path.
-/

namespace TokenRotation.Http

/-! ## 1. Requests -/

/-- The name and the value of a header. -/
abbrev Header := String × String

/-- A request as it was received. -/
structure Request where
  method : String
  /-- What the request line names: a path with a query, or a whole address. -/
  target : String
  headers : List Header
  body : List UInt8
deriving DecidableEq, Repr

namespace Request

/-- What follows the scheme of an address, beginning with its host; nothing where there is no
    scheme. -/
def behindScheme? : List Char → Option (List Char)
  | ':' :: '/' :: '/' :: rest => some rest
  | c :: rest => if c = '/' then none else behindScheme? rest
  | [] => none

/-- The path of the target: without scheme and host, and without what follows a question mark or a
    number sign. -/
def path (r : Request) : String :=
  let target := r.target.toList.takeWhile fun c => c ≠ '?' && c ≠ '#'
  match behindScheme? target with
  | some rest =>
    match rest.dropWhile fun c => c ≠ '/' with
    | [] => "/"
    | path => String.ofList path
  | none => String.ofList target

/-- The value of the first header of a name given in lower case; the case of header names does not
    matter. -/
def header? (r : Request) (name : String) : Option String :=
  (r.headers.find? fun h => h.1.toLower = name).map (·.2)

/-- The first header that tells the type of the body tells it to be JSON. -/
def bodyIsJson (r : Request) : Bool :=
  match (r.header? "content-type").bind MediaType.ofText? with
  | some type => type.isJson
  | none => false

end Request

/-! ## 2. Endpoints -/

/-- What the service can be asked to do with a token. -/
inductive Endpoint
  /-- To rotate it. -/
  | refresh
  /-- To end its family. -/
  | logout
  /-- To end everything its subject holds. -/
  | logoutEverywhere
deriving DecidableEq, Repr

namespace Endpoint

/-- The path of an endpoint. -/
def path : Endpoint → String
  | .refresh => "/api/auth/refresh"
  | .logout => "/api/auth/logout"
  | .logoutEverywhere => "/api/auth/logout-all"

/-- All endpoints. -/
def all : List Endpoint := [.refresh, .logout, .logoutEverywhere]

/-- The endpoint of a path. -/
def ofPath? (path : String) : Option Endpoint := all.find? fun e => e.path = path

/-- An endpoint is found by its path, so no two share one. -/
theorem ofPath?_path (e : Endpoint) : ofPath? e.path = some e := by
  cases e <;> decide

end Endpoint

end TokenRotation.Http

import TokenRotation.Json.Skip

/-!
# The token in the body of a request

A body is a JSON object with the member `refresh_token`, or a list with the token alone. It is read
from the left and the first fault decides: a fault of form is one of the JSON text, a fault of kind
is a value that does not fit although the text is well formed up to there. Members with other names
are skipped.
-/

namespace TokenRotation.Http

open Json

/-- What can be wrong with a body. -/
inductive PayloadError
  /-- The bytes are no JSON text. -/
  | malformed
  /-- The text does not have the token in it, or has it twice, or has something else in its
      place. -/
  | unsuitable
deriving DecidableEq, Repr

namespace Payload

/-- The name of the member that holds the token. -/
def tokenKey : String := "refresh_token"

/-- The fault of a text that has something else in place of a string: a list, an object or a whole
    value does not fit, and anything else is malformed. -/
def mismatch (bytes : List UInt8) : PayloadError :=
  let numberFault (bytes : List UInt8) : PayloadError :=
    match Number.read? bytes with
    | some (n, _) => if n.isTooLarge then .malformed else .unsuitable
    | none => .malformed
  match bytes with
  | openList :: _ | openObject :: _ => .unsuitable
  | quote :: rest => if (Text.read? rest).isSome then .unsuitable else .malformed
  | minus :: rest => numberFault rest
  | bytes =>
    if bytes.head?.any Number.isDigit then numberFault bytes
    else if (literal? wordNull bytes <|> literal? wordTrue bytes
        <|> literal? wordFalse bytes).isSome then .unsuitable
    else .malformed

/-- Reads a string, and what follows it. -/
def string (bytes : List UInt8) : Except PayloadError (String × List UInt8) :=
  match skipSpace bytes with
  | quote :: rest =>
    match Text.read? rest with
    | some read => .ok read
    | none => .error .malformed
  | other => .error (mismatch other)

/-- The beginning of the next key behind its quote: the first one follows the brace, a later one a
    comma. -/
def nextKey? (first : Bool) : List UInt8 → Option (List UInt8)
  | quote :: rest => if first then some rest else none
  | comma :: rest =>
    if first then none
    else
      match skipSpace rest with
      | quote :: rest => some rest
      | _ => none
  | _ => none

/-- Takes a colon. -/
def afterColon? (bytes : List UInt8) : Option (List UInt8) :=
  match skipSpace bytes with
  | colon :: rest => some rest
  | _ => none

/-- Reads members up to the closing brace, in at most `steps` steps, and answers with the token and
    what follows the brace. -/
def members : (steps : Nat) → (first : Bool) → (found : Option String) → List UInt8 →
    Except PayloadError (String × List UInt8)
  | 0, _, _, _ => .error .malformed
  | steps + 1, first, found, bytes =>
    match skipSpace bytes with
    | closeObject :: rest =>
      match found with
      | some token => .ok (token, rest)
      | none => .error .unsuitable
    | bytes =>
      match (nextKey? first bytes).bind Text.read? with
      | none => .error .malformed
      | some (key, rest) =>
        if key = tokenKey then
          if found.isSome then .error .unsuitable
          else
            match afterColon? rest with
            | none => .error .malformed
            | some rest =>
              match string rest with
              | .ok (token, rest) => members steps false (some token) rest
              | .error e => .error e
        else
          match (afterColon? rest).bind skipValue? with
          | some rest => members steps false found rest
          | none => .error .malformed

/-- Reads the only element of a list and its closing bracket. -/
def onlyElement (bytes : List UInt8) : Except PayloadError (String × List UInt8) :=
  match skipSpace bytes with
  | closeList :: _ => .error .unsuitable
  | bytes =>
    match string bytes with
    | .error e => .error e
    | .ok (token, rest) =>
      match skipSpace rest with
      | closeList :: rest => .ok (token, rest)
      | _ => .error .malformed

/-- Reads the token of a body. Nothing but blanks may follow the object or the list. -/
def token (body : List UInt8) : Except PayloadError String :=
  let read : Except PayloadError (String × List UInt8) :=
    match skipSpace body with
    | openObject :: rest => members (rest.length + 1) true none rest
    | openList :: rest => onlyElement rest
    | other => .error (mismatch other)
  match read with
  | .ok (token, rest) => if (skipSpace rest).isEmpty then .ok token else .error .malformed
  | .error e => .error e

end Payload

end TokenRotation.Http

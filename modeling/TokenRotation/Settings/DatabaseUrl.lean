import TokenRotation.Url.Basic
import TokenRotation.Url.Percent

/-!
# The address of a database

The address of a database is a URL whose user, password and path can be read as text. Its query may
hold options, of which four have a value that is checked; what else it holds does not matter, and
neither does the scheme.

* `isUsable_eq_false_of_ofText?` -- text that is no URL is no address of a database.
-/

namespace TokenRotation.Settings.DatabaseUrl

open Url

/-! ## 1. Options -/

/-- How a connection may be secured. -/
def sslModes : List String := ["disable", "allow", "prefer", "require", "verify-ca", "verify-full"]

/-- The text is a host of four bytes or of eight groups. -/
def isNumericHost (text : String) : Bool :=
  let fills {α : Type} : Option (α × List Char) → Bool
    | some (_, []) => true
    | _ => false
  fills (Reader.ipv4 text.toList) || fills (Reader.ipv6 text.toList)

/-- The greatest number of 64 bits without a sign. -/
def greatestUnsigned64 : Nat := 18446744073709551615

/-- The value of an option is one that it can have. -/
def isOption (name value : String) : Bool :=
  if name ∈ ["sslmode", "ssl-mode"] then sslModes.contains value.toLower
  else if name = "statement-cache-capacity" then
    (Decimal.unsigned? greatestUnsigned64 value).isSome
  else if name = "hostaddr" then isNumericHost value
  else if name = "port" then (Decimal.unsigned? greatestPort value).isSome
  else true

/-- What a query stands for: pairs between ampersands, the name before the first equals sign. A
    text that is not UTF-8 is kept as nothing. -/
def pairs (query : List Char) : List (Option String × Option String) :=
  let parts := (query.splitOn '&').filter (· ≠ [])
  parts.map fun part =>
    let (name, value) := part.span (· ≠ '=')
    (Percent.queryText? name, Percent.queryText? (value.drop 1))

/-- The pair is an option with a value it can have, or none that is checked. -/
def isPair : Option String × Option String → Bool
  | (some name, some value) => isOption name value
  | (some name, none) => isOption name "\ufffd"
  | (none, _) => true

/-! ## 2. Addresses -/

/-- The part of an address stands for a text. -/
def isReadable (part : List Char) : Bool := (Percent.text? part).isSome

/-- The host stands for the path of a socket: it begins with a slash in disguise. -/
def isSocketPath (host : List Char) : Bool :=
  (String.ofList (host.take 3)).toLower = "%2f"

/-- A database can be looked for at the address. -/
def isUsable (text : String) : Bool :=
  match Url.ofText? text with
  | none => false
  | some url =>
    isReadable url.user && isReadable url.password && url.path.all isReadable &&
      (!isSocketPath url.host || isReadable url.host) && (pairs url.query).all isPair

/-- Text that is no URL is no address of a database. -/
theorem isUsable_eq_false_of_ofText? {text : String} (h : Url.ofText? text = none) :
    isUsable text = false := by
  simp only [isUsable, h]

end TokenRotation.Settings.DatabaseUrl

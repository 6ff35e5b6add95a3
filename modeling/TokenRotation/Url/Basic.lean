import TokenRotation.Settings.SocketAddress
import TokenRotation.Url.Domain

/-!
# Addresses

A URL begins with a scheme. Two slashes behind it begin an authority: a user and a password before
an at sign, a host, and a port behind a colon. A path follows, a query behind a question mark and a
fragment behind a number sign. Spaces and control characters around a URL do not belong to it, and
neither do tabs and line ends inside it.

Some schemes are special: their hosts are domains, and a backslash is a slash for them.

* `port?_le` -- a port has 16 bits;
* `resolve_of_plain` -- a path without dots stays as it is.
-/

namespace TokenRotation

/-- The parts of an address, as they are written. -/
structure Url where
  user : List Char := []
  password : List Char := []
  host : List Char := []
  port : Option Nat := none
  /-- The segments of the path between slashes. -/
  path : List (List Char) := []
  query : List Char := []
deriving DecidableEq, Repr

namespace Url

/-! ## 1. Schemes -/

/-- How the rest of an address is read, as its scheme tells. -/
inductive Kind
  /-- A scheme of the web: two slashes, or however many, and a host. -/
  | web
  /-- Files, whose host may be left out. -/
  | file
  /-- Every other scheme. -/
  | plain
deriving DecidableEq, Repr

/-- The kind of a scheme in lower case. -/
def Kind.ofScheme (scheme : String) : Kind :=
  if scheme ∈ ["http", "https", "ws", "wss", "ftp"] then .web
  else if scheme = "file" then .file
  else .plain

/-- The scheme has a backslash read as a slash. -/
def Kind.isSpecial (k : Kind) : Bool := k ≠ .plain

/-- The character may stand in a scheme, other than at its beginning. -/
def isSchemeChar (c : Char) : Bool := c.isAlphanum || c = '+' || c = '-' || c = '.'

/-- The kind of the scheme at the front, and what stands behind its colon. -/
def scheme? (text : List Char) : Option (Kind × List Char) :=
  let (scheme, rest) := text.span isSchemeChar
  match scheme, rest with
  | c :: _, ':' :: rest =>
    if c.isAlpha then some (Kind.ofScheme (String.ofList scheme).toLower, rest) else none
  | _, _ => none

/-! ## 2. Hosts and ports -/

/-- The character may not stand in a host that is no domain. -/
def isBarred (c : Char) : Bool := "\x00\t\n\r #/:<>?@[\\]^|".toList.contains c

/-- The text in brackets is a host of eight groups. -/
def isBracketed (host : List Char) : Bool :=
  match Settings.Reader.ipv6 (host.drop 1).dropLast with
  | some (_, []) => host.getLast? = some ']'
  | _ => false

/-- The host is well written: brackets hold eight groups, and other text is a domain for a special
    scheme and has no barred character for another. -/
def isHost (kind : Kind) (host : List Char) : Bool :=
  if host.head? = some '[' then isBracketed host
  else if kind.isSpecial then Domain.isDomain host
  else !host.any isBarred

/-- The host at the front, up to the first colon outside of brackets, and what follows it. -/
def takeHost : (inBrackets : Bool) → List Char → List Char × List Char
  | _, [] => ([], [])
  | inBrackets, c :: rest =>
    if c = ':' && !inBrackets then ([], c :: rest)
    else
      let (host, after) := takeHost (c = '[' || (inBrackets && c ≠ ']')) rest
      (c :: host, after)

/-- The greatest port. -/
def greatestPort : Nat := 65535

/-- The port that digits write; no digits write none. -/
def port? (digits : List Char) : Option (Option Nat) :=
  if digits = [] then some none
  else
    match Settings.Decimal.natural? digits with
    | some n => if n ≤ greatestPort then some (some n) else none
    | none => none

/-! ## 3. Authorities -/

/-- The text is the letter of a drive. -/
def isDrive : List Char → Bool
  | [letter, mark] => letter.isAlpha && (mark = ':' || mark = '|')
  | _ => false

/-- What stands before the last at sign, and what stands behind it. -/
def userInfo? (text : List Char) : Option (List Char × List Char) :=
  let (host, before) := text.reverse.span (· ≠ '@')
  match before with
  | [] => none
  | _ :: before => some (before.reverse, host.reverse)

/-- Reads the authority of a file: a host alone, which may be left out. The letter of a drive in its
    place is none and begins the path. -/
def ofFileAuthority? (text : List Char) : Option (Url × List Char) :=
  if isDrive text then some ({}, text)
  else if text = [] || isHost .file text then some ({ host := text }, [])
  else none

/-- Reads an authority; `ends` tells that nothing follows it. A host may be left out only where
    nothing depends on it: neither a user nor a port, and no path behind a bare at sign. A backslash
    ends the port, and with it begins the path. -/
def ofAuthority? (kind : Kind) (text : List Char) (ends : Bool) : Option (Url × List Char) := do
  let (info?, hostPort) :=
    match userInfo? text with
    | some (info, hostPort) => (some info, hostPort)
    | none => (none, text)
  let (host, rest) := takeHost false hostPort
  let (user, password) := (info?.getD []).span (· ≠ ':')
  let needed :=
    kind.isSpecial || rest ≠ [] || user ≠ [] || 1 < password.length ||
      (info? = some [] && !ends)
  if host = [] && needed then none
  else if !isHost kind host then none
  else
    let (digits, path) := (rest.drop 1).span (· ≠ '\\')
    let port ← port? digits
    some ({ user, password := password.drop 1, host, port }, path)

/-! ## 4. Paths -/

/-- The segment names the place it stands in. -/
def isDot (segment : List Char) : Bool :=
  (String.ofList segment).toLower ∈ [".", "%2e"]

/-- The segment names the place above. -/
def isDoubleDot (segment : List Char) : Bool :=
  (String.ofList segment).toLower ∈ ["..", ".%2e", "%2e.", "%2e%2e"]

/-- The segment stays when the place above is named: it begins with the letter of a drive. -/
def isFixed (segment : List Char) : Bool :=
  isDrive (segment.take 2) && (segment.drop 2).head?.all (· = '\\')

/-- The segments before the place above. -/
def leave (kept : List (List Char)) : List (List Char) :=
  if kept.getLast?.any isFixed then kept else kept.dropLast

/-- The segments of a path without those that name a place by dots; `kept` are those before. A path
    that ends in dots ends in a slash. -/
def resolve : (kept segments : List (List Char)) → List (List Char)
  | kept, [] => kept
  | kept, segment :: rest =>
    let final : List (List Char) := if rest = [] then [[]] else []
    if isDoubleDot segment then resolve (leave kept ++ final) rest
    else if isDot segment then resolve (kept ++ final) rest
    else resolve (kept ++ [segment]) rest

/-- The segments of a path, the first of them behind a slash if the path begins with one. -/
def segments (isSlash : Char → Bool) (path : List Char) : List (List Char) :=
  resolve [] ((if path.head?.any isSlash then path.drop 1 else path).splitOnP isSlash)

/-! ## 5. Addresses -/

/-- The text without what does not belong to an address. -/
def trimmed (text : List Char) : List Char :=
  let isOutside (c : Char) : Bool := c.toNat ≤ 0x20
  let inner := ((text.dropWhile isOutside).reverse.dropWhile isOutside).reverse
  inner.filter fun c => c ≠ '\t' && c ≠ '\n' && c ≠ '\r'

/-- The authority behind a scheme and what follows it; nothing where the path begins at once. -/
def authority? (kind : Kind) (isSlash : Char → Bool) (text : List Char) :
    Option (List Char × List Char) :=
  let isEnd (c : Char) : Bool := isSlash c || c = '?' || c = '#'
  match kind with
  | .web => some ((text.dropWhile isSlash).span fun c => !isEnd c)
  | .file | .plain =>
    match text with
    | a :: b :: rest => if isSlash a && isSlash b then some (rest.span fun c => !isEnd c) else none
    | _ => none

/-- Reads an address. -/
def ofText? (text : String) : Option Url := do
  let (kind, rest) ← scheme? (trimmed text.toList)
  let isSlash (c : Char) : Bool := c = '/' || (kind.isSpecial && c = '\\')
  let authority := authority? kind isSlash rest
  let (url, start) ←
    match kind, authority with
    | _, none => some ({}, [])
    | .file, some (text, _) => ofFileAuthority? text
    | _, some (text, after) => ofAuthority? kind text after.isEmpty
  let (path, tail) := (start ++ authority.elim rest (·.2)).span fun c => c ≠ '?' && c ≠ '#'
  let undivided := authority.isNone && kind = .plain && path.head? ≠ some '/'
  some
    { url with
      path := if undivided then [path] else segments isSlash path
      query := if tail.head? = some '?' then (tail.drop 1).takeWhile (· ≠ '#') else [] }

/-! ## 6. Laws -/

/-- A port has 16 bits. -/
theorem port?_le {digits : List Char} {n : Nat} (h : port? digits = some (some n)) :
    n ≤ greatestPort := by
  unfold port? at h
  grind

/-- A path without dots stays as it is. -/
theorem resolve_of_plain {kept segments : List (List Char)}
    (h : ∀ s ∈ segments, isDot s = false ∧ isDoubleDot s = false) :
    resolve kept segments = kept ++ segments := by
  induction segments generalizing kept with
  | nil => simp [resolve]
  | cons segment rest ih =>
    obtain ⟨dot, double⟩ := h segment (by simp)
    have tail := @ih (kept ++ [segment]) fun s hs => h s (by simp [hs])
    simp [resolve, dot, double, tail]

end Url

end TokenRotation

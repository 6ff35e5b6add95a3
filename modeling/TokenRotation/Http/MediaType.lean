/-!
# Media types

The value of a `content-type` header names a type, a subtype with at most one suffix behind its last
plus sign, and parameters. The letters are ASCII and their case does not matter. The parameters say
nothing about the content here, but a value whose parameters are not well formed names no media
type.
-/

namespace TokenRotation.Http

/-- A media type without its parameters, in lower case. -/
structure MediaType where
  type : List Char
  subtype : List Char
  /-- What stands behind the last plus sign of the subtype. -/
  suffix : Option (List Char)
deriving DecidableEq, Repr

namespace MediaType

/-! ## 1. Characters -/

/-- The character may stand in a header value that is read as text. -/
def isReadable (c : Char) : Bool := (' ' ≤ c && c ≤ '~') || c = '\t'

/-- The character may stand in a name or an unquoted value. -/
def isToken (c : Char) : Bool := c.isAlphanum || "!#$%&'*+-.^_\x60|~".toList.contains c

/-- The character may stand between quotes. -/
def isQuotable (c : Char) : Bool := ' ' ≤ c && c ≠ '\x7f'

/-! ## 2. Parameters -/

/-- Where a reader of parameters stands. -/
inductive Place
  /-- Before a name, behind a semicolon and blanks. -/
  | start
  | name
  /-- Behind the equals sign. -/
  | value
  | token
  /-- Behind the quote that opens a value. -/
  | openedQuote
  | quoted
  /-- Behind the quote that closes a value. -/
  | closedQuote
deriving DecidableEq, Repr

/-- The place behind one more character, if it may stand there. A quote right behind an opening
    quote is content. -/
def Place.step? : Place → Char → Option Place
  | .start, c => if c = ' ' then some .start else if isToken c then some .name else none
  | .name, c => if c = '=' then some .value else if isToken c then some .name else none
  | .value, c => if c = '"' then some .openedQuote else if isToken c then some .token else none
  | .token, c => if c = ';' then some .start else if isToken c then some .token else none
  | .openedQuote, c => if isQuotable c then some .quoted else none
  | .quoted, c =>
    if c = '"' then some .closedQuote else if isQuotable c then some .quoted else none
  | .closedQuote, c =>
    if c = ';' then some .start else if c = ' ' then some .closedQuote else none

/-- Parameters may end here. -/
def Place.isFinal : Place → Bool
  | .start | .value | .token | .closedQuote => true
  | .name | .openedQuote | .quoted => false

/-- What stands behind the semicolon of a media type is well formed, from a place on. -/
def areParameters : Place → List Char → Bool
  | place, [] => place.isFinal
  | place, c :: rest =>
    match place.step? c with
    | some place => areParameters place rest
    | none => false

/-! ## 3. Reading -/

/-- A media type of the given names. A plus sign in front of a subtype does not begin a suffix. -/
def ofNames (type subtype : List Char) : MediaType :=
  if subtype.tail.contains '+' then
    let behind := subtype.reverse.takeWhile fun c => c ≠ '+'
    { type := type.map Char.toLower
      subtype := (subtype.take (subtype.length - behind.length - 1)).map Char.toLower
      suffix := some (behind.reverse.map Char.toLower) }
  else { type := type.map Char.toLower, subtype := subtype.map Char.toLower, suffix := none }

/-- Reads a media type. -/
def ofChars? (value : List Char) : Option MediaType :=
  let type := value.takeWhile isToken
  match value.dropWhile isToken with
  | '/' :: rest =>
    let subtype := rest.takeWhile isToken
    if type.isEmpty then none
    else
      match rest.dropWhile isToken with
      | [] => some (ofNames type subtype)
      | ';' :: parameters =>
        if !subtype.isEmpty && areParameters .start parameters then some (ofNames type subtype)
        else none
      | _ => none
  | _ => none

/-- Reads the value of a header as a media type. -/
def ofText? (value : String) : Option MediaType :=
  if value.toList.all isReadable then ofChars? value.toList else none

/-- The name of the format whose media types are told apart from all others. -/
def json : List Char := ['j', 's', 'o', 'n']

/-- Content of this type is a JSON text. -/
def isJson (m : MediaType) : Bool :=
  m.type = "application".toList && (m.subtype = json || m.suffix = some json)

end MediaType

end TokenRotation.Http

import TokenRotation.Settings.Decimal

/-!
# Socket addresses

A host and a port. A host of four bytes is written as four decimal numbers between dots; one of
eight groups as hexadecimal numbers between colons, where one run of zero groups may be left out,
the last two groups may be written as four bytes, and a zone may follow after a percent sign. The
host of eight groups stands in brackets before its port.

A reader takes a piece off the front of a text and answers with what it read and the rest.
-/

namespace TokenRotation.Settings

/-- A host of four bytes. -/
structure Ipv4 where
  a : UInt8
  b : UInt8
  c : UInt8
  d : UInt8
deriving DecidableEq, Repr

/-- The two groups that four bytes fill. -/
def Ipv4.groups (host : Ipv4) : List UInt16 :=
  [host.a.toUInt16 <<< 8 ||| host.b.toUInt16, host.c.toUInt16 <<< 8 ||| host.d.toUInt16]

/-- A host of eight groups of 16 bits. -/
structure Ipv6 where
  groups : Vector UInt16 8
deriving DecidableEq, Repr

/-- A host and a port; a host of eight groups has a zone, zero when none is given. -/
inductive SocketAddress
  | v4 (host : Ipv4) (port : UInt16)
  | v6 (host : Ipv6) (zone : UInt32) (port : UInt16)
deriving DecidableEq, Repr

/-- Takes a piece off the front of a text. -/
abbrev Reader (α : Type) := List Char → Option (α × List Char)

namespace Reader

/-! ## 1. Numbers -/

/-- The value of a digit in a base up to sixteen. -/
def digit? (base : Nat) (c : Char) : Option Nat :=
  let value? : Option Nat :=
    if c.isDigit then some (c.toNat - 48)
    else if 'a' ≤ c ∧ c ≤ 'f' then some (c.toNat - 87)
    else if 'A' ≤ c ∧ c ≤ 'F' then some (c.toNat - 55)
    else none
  value?.filter (· < base)

/-- How a number has to be written. -/
structure NumberForm where
  base : Nat
  /-- The most digits it may have, if there is such a limit. -/
  maxDigits : Option Nat
  /-- A zero may stand before further digits. -/
  leadingZeros : Bool
  /-- All values are below this. -/
  bound : Nat

/-- Reads all digits at the front as one number. -/
def number (form : NumberForm) : Reader Nat := fun text =>
  let digits := text.takeWhile fun c => (digit? form.base c).isSome
  let value := digits.foldl (fun n c => n * form.base + (digit? form.base c).getD 0) 0
  if digits.isEmpty then none
  else if form.maxDigits.any (· < digits.length) then none
  else if !form.leadingZeros && digits.length ≠ 1 && digits.head? = some '0' then none
  else if value < form.bound then some (value, text.drop digits.length)
  else none

/-- Takes one given character. -/
def char (c : Char) : Reader Unit := fun text =>
  match text with
  | d :: rest => if d = c then some ((), rest) else none
  | [] => none

/-- A byte of a host of four bytes: up to three digits, no needless zero. -/
def byte : Reader UInt8 := fun text => do
  let (n, rest) ← number ⟨10, some 3, false, 256⟩ text
  some (UInt8.ofNat n, rest)

/-- A group of a host of eight: up to four hexadecimal digits. -/
def group : Reader UInt16 := fun text => do
  let (n, rest) ← number ⟨16, some 4, true, 65536⟩ text
  some (UInt16.ofNat n, rest)

/-! ## 2. Hosts -/

/-- Four bytes between dots. -/
def ipv4 : Reader Ipv4 := fun text => do
  let (a, rest) ← byte text
  let (_, rest) ← char '.' rest
  let (b, rest) ← byte rest
  let (_, rest) ← char '.' rest
  let (c, rest) ← byte rest
  let (_, rest) ← char '.' rest
  let (d, rest) ← byte rest
  some (⟨a, b, c, d⟩, rest)

/-- The piece after a colon, or the piece alone at the beginning of a row of groups. -/
def afterColon {α : Type} (first : Bool) (piece : Reader α) : Reader α := fun text =>
  if first then piece text
  else do
    let (_, rest) ← char ':' text
    piece rest

/-- A row of groups. -/
structure Groups where
  groups : List UInt16
  /-- The row ends in four bytes. -/
  endsInBytes : Bool
  rest : List Char

/-- Reads groups between colons, as far as there are any and at most `limit`; four bytes count for
    two groups and end the row. -/
def groups : (limit : Nat) → (first : Bool) → List Char → Groups
  | 0, _, text => ⟨[], false, text⟩
  | limit + 1, first, text =>
    match if limit = 0 then none else afterColon first ipv4 text with
    | some (host, rest) => ⟨host.groups, true, rest⟩
    | none =>
      match afterColon first group text with
      | some (g, rest) =>
        let row := groups limit false rest
        { row with groups := g :: row.groups }
      | none => ⟨[], false, text⟩

/-- Eight groups, or fewer around a double colon that stands for one zero group at least. -/
def ipv6 : Reader Ipv6 := fun text =>
  let head := groups 8 true text
  if head.groups.length = 8 then some (⟨Vector.ofFn fun i => head.groups.getD i 0⟩, head.rest)
  else if head.endsInBytes then none
  else do
    let (_, rest) ← char ':' head.rest
    let (_, rest) ← char ':' rest
    let tail := groups (7 - head.groups.length) true rest
    let zeros := List.replicate (8 - head.groups.length - tail.groups.length) 0
    let all := head.groups ++ zeros ++ tail.groups
    some (⟨Vector.ofFn fun i => all.getD i 0⟩, tail.rest)

/-! ## 3. Addresses -/

/-- A colon and a port; zeros may stand before it. -/
def port : Reader UInt16 := fun text => do
  let (_, rest) ← char ':' text
  let (n, rest) ← number ⟨10, none, true, 65536⟩ rest
  some (UInt16.ofNat n, rest)

/-- A percent sign and the number of a zone. -/
def zone : Reader UInt32 := fun text => do
  let (_, rest) ← char '%' text
  let (n, rest) ← number ⟨10, none, true, 4294967296⟩ rest
  some (UInt32.ofNat n, rest)

/-- Four bytes and a port. -/
def socketV4 : Reader SocketAddress := fun text => do
  let (host, rest) ← ipv4 text
  let (port, rest) ← port rest
  some (.v4 host port, rest)

/-- Eight groups in brackets, with a zone where one is given, and a port. -/
def socketV6 : Reader SocketAddress := fun text => do
  let (_, rest) ← char '[' text
  let (host, rest) ← ipv6 rest
  let (zone, rest) := (zone rest).getD (0, rest)
  let (_, rest) ← char ']' rest
  let (port, rest) ← port rest
  some (.v6 host zone port, rest)

end Reader

namespace SocketAddress

/-- Reads an address that fills the text. -/
def ofText? (text : String) : Option SocketAddress :=
  match Reader.socketV4 text.toList <|> Reader.socketV6 text.toList with
  | some (address, []) => some address
  | _ => none

/-! ## 4. The written form -/

/-- Decimal bytes between dots. -/
def ipv4Text (host : Ipv4) : String :=
  ".".intercalate ([host.a, host.b, host.c, host.d].map fun byte => toString byte.toNat)

/-- Lower-case hexadecimal groups between colons. -/
def groupsText (groups : List UInt16) : String :=
  ":".intercalate (groups.map fun g => String.ofList (Nat.toDigits 16 g.toNat))

/-- The number of zero groups from a place on. -/
def zerosFrom (groups : List UInt16) (start : Nat) : Nat :=
  ((groups.drop start).takeWhile (· = 0)).length

/-- The place of the longest run of zero groups, of equal runs the first. -/
def longestRun (groups : List UInt16) : Nat :=
  (List.range groups.length).foldl
    (fun best start => if zerosFrom groups best < zerosFrom groups start then start else best) 0

/-- A host of eight groups: its longest run of two zero groups or more is left out, and a host of
    four bytes inside it is written as such. -/
def ipv6Text (host : Ipv6) : String :=
  match host.groups.toList with
  | [0, 0, 0, 0, 0, 0xffff, high, low] =>
    "::ffff:" ++ ipv4Text
      ⟨(high >>> 8).toUInt8, high.toUInt8, (low >>> 8).toUInt8, low.toUInt8⟩
  | groups =>
    let start := longestRun groups
    let zeros := zerosFrom groups start
    if 1 < zeros then
      groupsText (groups.take start) ++ "::" ++ groupsText (groups.drop (start + zeros))
    else groupsText groups

/-- The written form of an address. -/
def text : SocketAddress → String
  | .v4 host port => ipv4Text host ++ ":" ++ toString port.toNat
  | .v6 host zone port =>
    let zoneText := if zone = 0 then "" else "%" ++ toString zone.toNat
    "[" ++ ipv6Text host ++ zoneText ++ "]:" ++ toString port.toNat

end SocketAddress

end TokenRotation.Settings

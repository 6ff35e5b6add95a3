/-!
# Strings of a JSON text

A JSON text is read from its bytes, from the front. A string is read after its opening quote: with
all its escapes resolved (`Text.read?`), or only up to its closing quote (`Text.skip?`), where
neither the escaped code points nor the encoding of the other bytes are looked at.
-/

namespace TokenRotation.Json

/-! ## 1. Bytes with a meaning -/

@[match_pattern] abbrev quote : UInt8 := 0x22
@[match_pattern] abbrev backslash : UInt8 := 0x5c
@[match_pattern] abbrev letterU : UInt8 := 0x75
@[match_pattern] abbrev minus : UInt8 := 0x2d
@[match_pattern] abbrev comma : UInt8 := 0x2c
@[match_pattern] abbrev colon : UInt8 := 0x3a
@[match_pattern] abbrev openList : UInt8 := 0x5b
@[match_pattern] abbrev closeList : UInt8 := 0x5d
@[match_pattern] abbrev openObject : UInt8 := 0x7b
@[match_pattern] abbrev closeObject : UInt8 := 0x7d

/-- The byte is a blank between the parts of a text: a space, a tab or a line end. -/
def isSpace (b : UInt8) : Bool := b = 0x20 || b = 0x09 || b = 0x0a || b = 0x0d

/-- The text behind its leading blanks. -/
def skipSpace (bytes : List UInt8) : List UInt8 := bytes.dropWhile isSpace

/-- The byte may stand in a string only as an escape. -/
def isControl (b : UInt8) : Bool := b < 0x20

namespace Text

/-! ## 2. Escapes -/

/-- The value of a hexadecimal digit of either case. -/
def hexDigit? (b : UInt8) : Option Nat :=
  if 0x30 ≤ b ∧ b ≤ 0x39 then some (b.toNat - 0x30)
  else if 0x61 ≤ b ∧ b ≤ 0x66 then some (b.toNat - 0x57)
  else if 0x41 ≤ b ∧ b ≤ 0x46 then some (b.toNat - 0x37)
  else none

/-- The value of four hexadecimal digits. -/
def hexUnit? (a b c d : UInt8) : Option Nat := do
  let a ← hexDigit? a
  let b ← hexDigit? b
  let c ← hexDigit? c
  let d ← hexDigit? d
  some (((a * 16 + b) * 16 + c) * 16 + d)

/-- The byte that a backslash and a letter stand for. -/
def simpleEscape? (b : UInt8) : Option UInt8 :=
  if b = quote ∨ b = backslash ∨ b = 0x2f then some b
  else if b = 0x62 then some 0x08
  else if b = 0x66 then some 0x0c
  else if b = 0x6e then some 0x0a
  else if b = 0x72 then some 0x0d
  else if b = 0x74 then some 0x09
  else none

/-- A unit is the first of a pair that writes one code point. -/
def isLeading (unit : Nat) : Bool := 0xd800 ≤ unit && unit < 0xdc00

/-- A unit is the second of a pair that writes one code point. -/
def isTrailing (unit : Nat) : Bool := 0xdc00 ≤ unit && unit < 0xe000

/-- The code point of a pair of units. -/
def paired (leading trailing : Nat) : Nat :=
  (leading - 0xd800) * 0x400 + (trailing - 0xdc00) + 0x10000

/-- The bytes of a code point, last byte first, before those read so far. -/
def pushCodePoint (code : Nat) (read : List UInt8) : List UInt8 :=
  (String.singleton (Char.ofNat code)).toUTF8.toList.foldl (fun bytes b => b :: bytes) read

/-! ## 3. Reading and skipping -/

/-- The bytes of a string up to its closing quote, escapes resolved, and the text behind it; `read`
    holds the bytes so far, last byte first. -/
def bytes? (read : List UInt8) : List UInt8 → Option (List UInt8 × List UInt8)
  | [] => none
  | quote :: rest => some (read.reverse, rest)
  | backslash :: letterU :: a :: b :: c :: d :: rest =>
    match hexUnit? a b c d with
    | none => none
    | some unit =>
      if isTrailing unit then none
      else if isLeading unit then
        match rest with
        | backslash :: letterU :: e :: f :: g :: h :: rest =>
          match hexUnit? e f g h with
          | none => none
          | some second =>
            if isTrailing second then bytes? (pushCodePoint (paired unit second) read) rest
            else none
        | _ => none
      else bytes? (pushCodePoint unit read) rest
  | backslash :: b :: rest =>
    match simpleEscape? b with
    | some byte => bytes? (byte :: read) rest
    | none => none
  | b :: rest => if isControl b || b = backslash then none else bytes? (b :: read) rest

/-- Reads a string behind its opening quote: its text, and what follows its closing quote. The bytes
    have to be UTF-8. -/
def read? (bytes : List UInt8) : Option (String × List UInt8) :=
  match bytes? [] bytes with
  | none => none
  | some (content, rest) =>
    match String.fromUTF8? ⟨content.toArray⟩ with
    | some text => some (text, rest)
    | none => none

/-- Skips a string behind its opening quote: what follows its closing quote. -/
def skip? : List UInt8 → Option (List UInt8)
  | [] => none
  | quote :: rest => some rest
  | backslash :: letterU :: a :: b :: c :: d :: rest =>
    match hexUnit? a b c d with
    | some _ => skip? rest
    | none => none
  | backslash :: b :: rest =>
    match simpleEscape? b with
    | some _ => skip? rest
    | none => none
  | b :: rest => if isControl b || b = backslash then none else skip? rest

end Text

end TokenRotation.Json

import TokenRotation.Bytes.Hex

/-!
# Percent signs in addresses

A percent sign and two hexadecimal digits of either case stand for one byte; every other byte of an
address, a percent sign without such digits included, stands for itself.

* `decodeWith_of_plain` -- without a percent sign nothing is decoded.
-/

namespace TokenRotation.Url.Percent

/-- The byte of a percent sign. -/
def sign : UInt8 := 0x25

/-- The number of a byte that is a hexadecimal digit. -/
def digit? (byte : UInt8) : Option Nat := Bytes.Hex.value? (Char.ofNat byte.toNat)

/-- The byte that two digits at the front stand for. -/
def byte? : List UInt8 → Option UInt8
  | high :: low :: _ => do
    let h ← digit? high
    let l ← digit? low
    some (UInt8.ofNat (16 * h + l))
  | _ => none

/-- The bytes that an address stands for, its plain bytes read by `plain`; `due` bytes at the front
    are the digits of a percent sign before them. -/
def decodeWith (plain : UInt8 → UInt8) : (due : Nat) → List UInt8 → List UInt8
  | _, [] => []
  | due + 1, _ :: rest => decodeWith plain due rest
  | 0, byte :: rest =>
    if byte = sign then
      match byte? rest with
      | some b => b :: decodeWith plain 2 rest
      | none => plain byte :: decodeWith plain 0 rest
    else plain byte :: decodeWith plain 0 rest

/-- The text that a part of an address stands for, if it is UTF-8. -/
def textWith? (plain : UInt8 → UInt8) (part : List Char) : Option String :=
  String.fromUTF8? ⟨(decodeWith plain 0 (String.ofList part).toUTF8.toList).toArray⟩

/-- The text that a part of an address stands for, if it is UTF-8. -/
def text? (part : List Char) : Option String := textWith? id part

/-- The text that a part of a query stands for, where a plus sign is a space. -/
def queryText? (part : List Char) : Option String :=
  textWith? (fun byte => if byte = 0x2b then 0x20 else byte) part

/-- Without a percent sign every byte is read as a plain one. -/
theorem decodeWith_of_plain {plain : UInt8 → UInt8} {bytes : List UInt8}
    (h : ∀ byte ∈ bytes, byte ≠ sign) : decodeWith plain 0 bytes = bytes.map plain := by
  induction bytes with
  | nil => rfl
  | cons byte rest ih =>
    rw [decodeWith, if_neg (h byte (by simp)), ih fun b hb => h b (by simp [hb]), List.map_cons]

end TokenRotation.Url.Percent

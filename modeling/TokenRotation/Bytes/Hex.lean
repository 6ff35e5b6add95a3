/-!
# Bytes as hexadecimal digits

Two digits a byte, the high half first. Written digits are lower case; both cases are read.

* `length_encode` -- twice as many digits as bytes;
* `decode_encode` -- reading gives the bytes back.
-/

namespace TokenRotation.Bytes.Hex

/-- The digit of a number below sixteen. -/
def digit (n : Nat) : Char :=
  if n < 10 then Char.ofNat (48 + n) else Char.ofNat (87 + n)

/-- The number of a digit. -/
def value? (c : Char) : Option Nat :=
  if '0' ≤ c ∧ c ≤ '9' then some (c.toNat - 48)
  else if 'a' ≤ c ∧ c ≤ 'f' then some (c.toNat - 87)
  else if 'A' ≤ c ∧ c ≤ 'F' then some (c.toNat - 55)
  else none

/-- The digits of bytes. -/
def encode : List UInt8 → List Char
  | [] => []
  | byte :: rest => digit (byte.toNat / 16) :: digit (byte.toNat % 16) :: encode rest

/-- The bytes of digits; refuses an odd digit and any other letter. -/
def decode : List Char → Option (List UInt8)
  | [] => some []
  | high :: low :: rest => do
    let h ← value? high
    let l ← value? low
    let bytes ← decode rest
    some (UInt8.ofNat (16 * h + l) :: bytes)
  | [_] => none

/-- The digits of bytes as text. -/
def text (bytes : List UInt8) : String := String.ofList (encode bytes)

@[simp] theorem length_encode (bytes : List UInt8) : (encode bytes).length = 2 * bytes.length := by
  induction bytes with
  | nil => rfl
  | cons byte rest ih => simp [encode, ih]; omega

theorem value?_digit {n : Nat} (h : n < 16) : value? (digit n) = some n := by
  have all : ∀ m : Fin 16, value? (digit m) = some m.val := by decide
  exact all ⟨n, h⟩

theorem decode_encode (bytes : List UInt8) : decode (encode bytes) = some bytes := by
  induction bytes with
  | nil => rfl
  | cons byte rest ih =>
    have hb := byte.toNat_lt
    have halves : UInt8.ofNat (16 * (byte.toNat / 16) + byte.toNat % 16) = byte := by
      rw [Nat.div_add_mod, UInt8.ofNat_toNat]
    simp only [encode, decode, value?_digit (show byte.toNat / 16 < 16 by omega),
      value?_digit (show byte.toNat % 16 < 16 by omega), ih, Option.bind_eq_bind, Option.bind_some,
      halves]

end TokenRotation.Bytes.Hex

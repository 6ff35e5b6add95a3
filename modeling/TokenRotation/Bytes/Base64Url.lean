/-!
# Bytes as base64url letters, without padding

Three bytes are four letters of six bits each; a last single byte is two letters and a last pair
three, their unused low bits zero.
-/

namespace TokenRotation.Bytes.Base64Url

/-- The letter of a number below 64: `A`-`Z`, `a`-`z`, `0`-`9`, `-`, `_`. -/
def letter (n : Nat) : Char :=
  if n < 26 then Char.ofNat (65 + n)
  else if n < 52 then Char.ofNat (71 + n)
  else if n < 62 then Char.ofNat (n - 4)
  else if n = 62 then '-'
  else '_'

/-- The letters of bytes. -/
def encode : List UInt8 → List Char
  | [] => []
  | [a] =>
    let n := a.toNat * 16
    [letter (n / 64), letter (n % 64)]
  | [a, b] =>
    let n := (a.toNat * 256 + b.toNat) * 4
    [letter (n / 4096), letter (n / 64 % 64), letter (n % 64)]
  | a :: b :: c :: rest =>
    let n := (a.toNat * 256 + b.toNat) * 256 + c.toNat
    letter (n / 262144) :: letter (n / 4096 % 64) :: letter (n / 64 % 64) :: letter (n % 64)
      :: encode rest

/-- The letters of bytes as text. -/
def text (bytes : List UInt8) : String := String.ofList (encode bytes)

/-- Four letters for every three bytes, and two or three for what is left over. -/
theorem length_encode (bytes : List UInt8) :
    (encode bytes).length = (4 * bytes.length + 2) / 3 := by
  fun_induction encode bytes with
  | case1 => rfl
  | case2 => simp
  | case3 => simp
  | case4 a b c rest n ih => simp [ih]; omega

end TokenRotation.Bytes.Base64Url

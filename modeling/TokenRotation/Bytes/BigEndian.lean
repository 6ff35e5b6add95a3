/-!
# Numbers as bytes, most significant first

* `length_ofNat` -- a number is written in exactly the width asked for;
* `toNat_ofNat` -- reading gives the number back, modulo the width.
-/

namespace TokenRotation.Bytes.BigEndian

/-- The number modulo `256 ^ width`, written in `width` bytes. -/
def ofNat : (width : Nat) → Nat → List UInt8
  | 0, _ => []
  | width + 1, n => ofNat width (n / 256) ++ [UInt8.ofNat n]

/-- The number that bytes write. -/
def toNat (bytes : List UInt8) : Nat :=
  bytes.foldl (fun n byte => n * 256 + byte.toNat) 0

@[simp] theorem length_ofNat (width n : Nat) : (ofNat width n).length = width := by
  induction width generalizing n with
  | zero => rfl
  | succ width ih => simp [ofNat, ih]

theorem toNat_append_singleton (bytes : List UInt8) (byte : UInt8) :
    toNat (bytes ++ [byte]) = toNat bytes * 256 + byte.toNat := by
  simp [toNat, List.foldl_append]

theorem toNat_ofNat (width n : Nat) : toNat (ofNat width n) = n % Nat.pow 256 width := by
  induction width generalizing n with
  | zero => exact (Nat.mod_one n).symm
  | succ width ih =>
    rw [ofNat, toNat_append_singleton, ih, UInt8.toNat_ofNat',
      show Nat.pow 256 (width + 1) = 256 * Nat.pow 256 width from Nat.mul_comm _ _, Nat.mod_mul]
    omega

end TokenRotation.Bytes.BigEndian

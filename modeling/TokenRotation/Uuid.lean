import TokenRotation.Bytes.BigEndian
import TokenRotation.Bytes.Hex

/-!
# Universally unique identifiers

Sixteen bytes as one number of 128 bits, so that the order of the bytes is the order of the
numbers.
-/

namespace TokenRotation

/-- The name of a row or of a family of rows. -/
structure Uuid where
  bits : BitVec 128
deriving DecidableEq, Repr

namespace Uuid

instance : LE Uuid := ⟨fun a b => a.bits.toNat ≤ b.bits.toNat⟩
instance (a b : Uuid) : Decidable (a ≤ b) :=
  inferInstanceAs (Decidable (a.bits.toNat ≤ b.bits.toNat))

theorem le_def {a b : Uuid} : a ≤ b ↔ a.bits.toNat ≤ b.bits.toNat := Iff.rfl

theorem le_antisymm {a b : Uuid} (hab : a ≤ b) (hba : b ≤ a) : a = b := by
  cases a; cases b
  simp only [le_def] at hab hba
  simp only [mk.injEq]
  exact BitVec.eq_of_toNat_eq (Nat.le_antisymm hab hba)

/-- The identifier whose sixteen bytes write a number. -/
def ofNat (n : Nat) : Uuid := ⟨BitVec.ofNat 128 n⟩

/-- The random identifier of 128 bits of chance: the version is set to 4 and the variant to the
    two bits `10`. -/
def random (chance : BitVec 128) : Uuid :=
  ⟨chance &&& 0xffffffffffff0fff3fffffffffffffff#128 ||| 0x00000000000040008000000000000000#128⟩

/-- The sixteen bytes of an identifier. -/
def bytes (u : Uuid) : List UInt8 := Bytes.BigEndian.ofNat 16 u.bits.toNat

/-- Lower-case digits in groups of 8, 4, 4, 4 and 12, joined by hyphens. -/
def text (u : Uuid) : String :=
  let digits := Bytes.Hex.encode u.bytes
  let group (start count : Nat) := (digits.drop start).take count
  String.ofList <| "-".toList.intercalate
    [group 0 8, group 8 4, group 12 4, group 16 4, group 20 12]

/-- Reads 32 digits, hyphens between them left out. -/
def ofText? (s : String) : Option Uuid :=
  match Bytes.Hex.decode (s.toList.filter (· ≠ '-')) with
  | some bytes => if bytes.length = 16 then some (ofNat (Bytes.BigEndian.toNat bytes)) else none
  | none => none

end Uuid

end TokenRotation

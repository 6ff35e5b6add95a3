/-!
# Decimal numbers in settings

A number is ASCII digits, after a sign where one is allowed, and nothing around them. Leading zeros
do not matter; a number outside its bounds is no number at all.

* `natural?_of_digits` -- digits read as their value;
* `signed?_lo_le`, `unsigned?_le` -- what is read is within the bounds.
-/

namespace TokenRotation.Settings.Decimal

/-- The value of ASCII digits. -/
def value (digits : List Char) : Nat :=
  digits.foldl (fun n c => n * 10 + (c.toNat - 48)) 0

/-- Reads one digit or more, and nothing else. -/
def natural? (text : List Char) : Option Nat :=
  if text ≠ [] ∧ text.all Char.isDigit then some (value text) else none

/-- Reads a number with an optional plus sign, up to a greatest value. -/
def unsigned? (greatest : Nat) (text : String) : Option Nat :=
  let digits :=
    match text.toList with
    | '+' :: rest => rest
    | all => all
  match natural? digits with
  | some n => if n ≤ greatest then some n else none
  | none => none

/-- Reads a number with an optional sign, from a least to a greatest value. -/
def signed? (least greatest : Int) (text : String) : Option Int :=
  let read : Option Int :=
    match text.toList with
    | '+' :: rest => (natural? rest).map Int.ofNat
    | '-' :: rest => (natural? rest).map fun n => -Int.ofNat n
    | all => (natural? all).map Int.ofNat
  match read with
  | some n => if least ≤ n ∧ n ≤ greatest then some n else none
  | none => none

theorem natural?_of_digits {text : List Char} (h : text ≠ []) (digits : text.all Char.isDigit) :
    natural? text = some (value text) := by
  simp only [natural?, h, digits, ne_eq, not_false_eq_true, and_self, if_true]

theorem unsigned?_le {greatest n : Nat} {text : String} (h : unsigned? greatest text = some n) :
    n ≤ greatest := by
  unfold unsigned? at h
  grind

theorem signed?_within {least greatest n : Int} {text : String}
    (h : signed? least greatest text = some n) : least ≤ n ∧ n ≤ greatest := by
  unfold signed? at h
  grind

end TokenRotation.Settings.Decimal

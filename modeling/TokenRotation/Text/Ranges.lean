/-!
# Ranges of characters

A property of characters is kept as a list of ranges of their codes, both ends included, and a
number that characters have as a list of ranges with that number.

* `holds_iff` -- a character has the property exactly when a range holds its code;
* `valueOf?_eq_none_iff` -- exactly the characters outside of all ranges have no number.
-/

namespace TokenRotation.Text

/-- One of the ranges holds the character. -/
def holds (ranges : List (Nat × Nat)) (c : Char) : Bool :=
  ranges.any fun range => range.1 ≤ c.toNat && c.toNat ≤ range.2

/-- The number of the first range that holds the character. -/
def valueOf? (table : List (Nat × Nat × Nat)) (c : Char) : Option Nat :=
  (table.find? fun row => row.1 ≤ c.toNat && c.toNat ≤ row.2.1).map fun row => row.2.2

theorem holds_iff {ranges : List (Nat × Nat)} {c : Char} :
    holds ranges c = true ↔ ∃ range ∈ ranges, range.1 ≤ c.toNat ∧ c.toNat ≤ range.2 := by
  simp [holds]

theorem valueOf?_eq_none_iff {table : List (Nat × Nat × Nat)} {c : Char} :
    valueOf? table c = none ↔ ∀ row ∈ table, row.1 ≤ c.toNat → row.2.1 < c.toNat := by
  simp [valueOf?]

end TokenRotation.Text

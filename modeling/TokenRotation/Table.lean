import TokenRotation.Token.Row

/-!
# Tables

The rows of a store in the order of their creation, and what is read off them or done to them. The
functions say nothing about where the rows are kept.

* `length_sweep`, `mem_sweep` -- a sweep keeps the rows and revokes the chosen ones;
* `sweepCount_sweep` -- a second sweep has nothing left to do.
-/

namespace TokenRotation

/-- Rows in the order of their creation. -/
abbrev Table := List Row

namespace Table

/-! ## 1. Reading -/

/-- The first row with a hash. -/
def byHash? (rows : Table) (hash : String) : Option Row := rows.find? fun r => r.hash = hash

/-- Some row has the hash. -/
def hasHash (rows : Table) (hash : String) : Bool := rows.any fun r => r.hash = hash

/-- Some row has the identifier. -/
def hasId (rows : Table) (id : Uuid) : Bool := rows.any fun r => r.id = id

/-- The rows of a family. -/
def familyRows (rows : Table) (family : Uuid) : Table := rows.filter fun r => r.family = family

/-- The rows in an order; rows that the order does not part keep their places. -/
def sorted (before : Row → Row → Bool) (rows : Table) : Table := List.mergeSort rows before

/-! ## 2. Changing rows -/

/-- Changes the first row that is chosen. -/
def changeFirst (chosen : Row → Bool) (change : Row → Row) : Table → Table
  | [] => []
  | r :: rest => if chosen r then change r :: rest else r :: changeFirst chosen change rest

/-- Changes every row that is chosen. -/
def changeAll (chosen : Row → Bool) (change : Row → Row) (rows : Table) : Table :=
  rows.map fun r => if chosen r then change r else r

/-! ## 3. Sweeps -/

/-- Revokes every chosen row that is not revoked yet. -/
def sweep (chosen : Row → Bool) (now : Instant) (rows : Table) : Table :=
  rows.changeAll chosen fun r => r.revoke now

/-- The number of rows a sweep changes: those chosen and not revoked yet. -/
def sweepCount (chosen : Row → Bool) (rows : Table) : Nat :=
  rows.countP fun r => chosen r && r.revokedAt.isNone

@[simp] theorem length_sweep (chosen : Row → Bool) (now : Instant) (rows : Table) :
    (rows.sweep chosen now).length = rows.length := by
  simp [sweep, changeAll]

theorem mem_sweep {chosen : Row → Bool} {now : Instant} {rows : Table} {r : Row} :
    r ∈ rows.sweep chosen now ↔ ∃ s ∈ rows, (if chosen s then s.revoke now else s) = r := by
  simp [sweep, changeAll]

/-- A second sweep finds nothing to do, whatever its instant. -/
theorem sweepCount_sweep (chosen : Row → Bool) (now : Instant) (rows : Table)
    (blind : ∀ r, chosen (r.revoke now) = chosen r) :
    (rows.sweep chosen now).sweepCount chosen = 0 := by
  simp only [sweepCount, List.countP_eq_zero, mem_sweep]
  rintro r ⟨s, _, rfl⟩
  by_cases hs : chosen s
  · simp [hs, blind, Row.isNone_revokedAt_revoke]
  · simp [hs]

end Table

end TokenRotation

import Mathlib.Data.List.Forall2
import Mathlib.Data.List.Nodup
import TokenRotation.Table

/-!
# How rows and tables evolve

A store writes each cell of a row at most once and never takes a row away. This file states that as
an order on rows and on tables, and shows that each way of changing a table moves it forward in that
order:

* `Row.Evolves` -- one row is another at a later time: the same identity, and what is written stays;
* `Table.Evolves` -- every row evolves in its place, and new rows come at the end;
* `Table.Evolves.byHash?` -- a hash goes on finding the row it found, however that row has evolved;
* `Table.forall₂_changeFirst`, `Table.forall₂_changeAll`, `Table.forall₂_sweep` -- the ways of
  changing a table, each of them a step forward.
-/

namespace TokenRotation

/-! ## 1. Rows -/

namespace Row

/-- **The row `s` is the row `r` at a later time.** -/
structure Evolves (r s : Row) : Prop where
  id : s.id = r.id
  subject : s.subject = r.subject
  family : s.family = r.family
  hash : s.hash = r.hash
  createdAt : s.createdAt = r.createdAt
  expiresAt : s.expiresAt = r.expiresAt
  consumed : r.consumedAt.isSome → s.consumedAt = r.consumedAt ∧ s.graceExpiresAt = r.graceExpiresAt
  replaced : r.replacedBy.isSome → s.replacedBy = r.replacedBy
  revoked : r.revokedAt.isSome → s.revokedAt = r.revokedAt

theorem Evolves.refl (r : Row) : r.Evolves r :=
  ⟨rfl, rfl, rfl, rfl, rfl, rfl, fun _ => ⟨rfl, rfl⟩, fun _ => rfl, fun _ => rfl⟩

theorem Evolves.isSome_consumedAt {r s : Row} (h : r.Evolves s) (hr : r.consumedAt.isSome) :
    s.consumedAt.isSome := by
  rw [(h.consumed hr).1]
  exact hr

theorem Evolves.isSome_replacedBy {r s : Row} (h : r.Evolves s) (hr : r.replacedBy.isSome) :
    s.replacedBy.isSome := by
  rw [h.replaced hr]
  exact hr

theorem Evolves.isSome_revokedAt {r s : Row} (h : r.Evolves s) (hr : r.revokedAt.isSome) :
    s.revokedAt.isSome := by
  rw [h.revoked hr]
  exact hr

theorem Evolves.trans {r s t : Row} (h : r.Evolves s) (h' : s.Evolves t) : r.Evolves t where
  id := h'.id.trans h.id
  subject := h'.subject.trans h.subject
  family := h'.family.trans h.family
  hash := h'.hash.trans h.hash
  createdAt := h'.createdAt.trans h.createdAt
  expiresAt := h'.expiresAt.trans h.expiresAt
  consumed hr := by
    obtain ⟨hc, hg⟩ := h.consumed hr
    obtain ⟨hc', hg'⟩ := h'.consumed (h.isSome_consumedAt hr)
    exact ⟨hc'.trans hc, hg'.trans hg⟩
  replaced hr := (h'.replaced (h.isSome_replacedBy hr)).trans (h.replaced hr)
  revoked hr := (h'.revoked (h.isSome_revokedAt hr)).trans (h.revoked hr)

theorem evolves_stamp (r : Row) (c g : Instant) : r.Evolves (r.stamp c g) := by
  unfold stamp
  split
  · next hnone =>
    refine ⟨rfl, rfl, rfl, rfl, rfl, rfl, fun hr => ?_, fun _ => rfl, fun _ => rfl⟩
    rw [Option.isNone_iff_eq_none.mp hnone] at hr
    cases hr
  · exact Evolves.refl r

theorem revokedAt_stamp (r : Row) (c g : Instant) : (r.stamp c g).revokedAt = r.revokedAt := by
  unfold stamp
  split <;> rfl

theorem evolves_revoke (r : Row) (t : Instant) : r.Evolves (r.revoke t) := by
  unfold revoke
  split
  · next hnone =>
    refine ⟨rfl, rfl, rfl, rfl, rfl, rfl, fun _ => ⟨rfl, rfl⟩, fun _ => rfl, fun hr => ?_⟩
    rw [Option.isNone_iff_eq_none.mp hnone] at hr
    cases hr
  · exact Evolves.refl r

theorem evolves_link {r : Row} (h : r.replacedBy = none) (successor : Uuid) :
    r.Evolves { r with replacedBy := some successor } := by
  refine ⟨rfl, rfl, rfl, rfl, rfl, rfl, fun _ => ⟨rfl, rfl⟩, fun hr => ?_, fun _ => rfl⟩
  rw [h] at hr
  cases hr

end Row

/-! ## 2. Tables -/

namespace Table

/-- **Every row evolves in its place, and new rows come at the end.** -/
def Evolves (rows later : Table) : Prop :=
  ∃ kept added, later = kept ++ added ∧ List.Forall₂ Row.Evolves rows kept

theorem Evolves.of_forall₂ {rows later : Table} (h : List.Forall₂ Row.Evolves rows later) :
    rows.Evolves later :=
  ⟨later, [], (List.append_nil later).symm, h⟩

theorem Evolves.refl (rows : Table) : rows.Evolves rows :=
  of_forall₂ (List.forall₂_same.mpr fun r _ => Row.Evolves.refl r)

theorem evolves_append (rows added : Table) : rows.Evolves (rows ++ added) :=
  ⟨rows, added, rfl, List.forall₂_same.mpr fun r _ => Row.Evolves.refl r⟩

theorem forall₂_trans : ∀ {a b c : Table}, List.Forall₂ Row.Evolves a b →
    List.Forall₂ Row.Evolves b c → List.Forall₂ Row.Evolves a c
  | [], [], [], .nil, .nil => .nil
  | _ :: _, _ :: _, _ :: _, .cons h hs, .cons h' hs' => .cons (h.trans h') (forall₂_trans hs hs')

theorem Evolves.trans {a b c : Table} (h : a.Evolves b) (h' : b.Evolves c) : a.Evolves c := by
  obtain ⟨kept, added, rfl, hk⟩ := h
  obtain ⟨kept', added', rfl, hk'⟩ := h'
  -- what the second step kept begins with what the first one kept
  have hfront := List.forall₂_take kept.length hk'
  rw [List.take_left] at hfront
  refine ⟨kept'.take kept.length, kept'.drop kept.length ++ added', ?_, forall₂_trans hk hfront⟩
  rw [← List.append_assoc, List.take_append_drop]

theorem Evolves.exists_mem {rows later : Table} (h : rows.Evolves later) {r : Row} (hr : r ∈ rows) :
    ∃ s ∈ later, r.Evolves s := by
  obtain ⟨kept, added, rfl, hk⟩ := h
  obtain ⟨i, hi, rfl⟩ := List.getElem_of_mem hr
  have hi' : i < kept.length := hk.length_eq ▸ hi
  exact ⟨kept[i], List.mem_append_left _ (List.getElem_mem hi'), hk.get hi hi'⟩

/-- Every row stays at its place. -/
theorem Evolves.getElem? {rows later : Table} (h : rows.Evolves later) {i : Nat} {r : Row}
    (hr : rows[i]? = some r) : ∃ s, later[i]? = some s ∧ r.Evolves s := by
  obtain ⟨kept, added, rfl, hk⟩ := h
  obtain ⟨hi, rfl⟩ := List.getElem?_eq_some_iff.mp hr
  have hi' : i < kept.length := hk.length_eq ▸ hi
  refine ⟨kept[i], ?_, hk.get hi hi'⟩
  rw [List.getElem?_append_left hi', List.getElem?_eq_getElem hi']

/-- What became of the rows came from a row. -/
theorem exists_mem_of_forall₂ {R : Row → Row → Prop} {rows kept : Table}
    (h : List.Forall₂ R rows kept) {s : Row} (hs : s ∈ kept) : ∃ r ∈ rows, R r s := by
  obtain ⟨i, hi, rfl⟩ := List.getElem_of_mem hs
  have hi' : i < rows.length := h.length_eq ▸ hi
  exact ⟨rows[i], List.getElem_mem hi', h.get hi' hi⟩

/-! ## 3. Hashes -/

/-- No two rows have the same hash. -/
def HashesDistinct (rows : Table) : Prop := (rows.map Row.hash).Nodup

instance (rows : Table) : Decidable rows.HashesDistinct :=
  inferInstanceAs (Decidable (rows.map Row.hash).Nodup)

theorem mem_of_byHash? {rows : Table} {hash : String} {r : Row} (h : rows.byHash? hash = some r) :
    r ∈ rows :=
  List.mem_of_find?_eq_some h

theorem hash_of_byHash? {rows : Table} {hash : String} {r : Row}
    (h : rows.byHash? hash = some r) : r.hash = hash := by
  have := List.find?_some h
  simpa using this

/-- Where hashes are distinct, every row is found by its own. -/
theorem byHash?_of_mem {rows : Table} (h : rows.HashesDistinct) {r : Row} (hr : r ∈ rows) :
    rows.byHash? r.hash = some r := by
  cases hfound : rows.byHash? r.hash with
  | none =>
    have := List.find?_eq_none.mp hfound r hr
    simp at this
  | some s =>
    have hs := mem_of_byHash? hfound
    rw [List.inj_on_of_nodup_map h hs hr (hash_of_byHash? hfound)]

theorem hasHash_eq_false_iff {rows : Table} {hash : String} :
    rows.hasHash hash = false ↔ ∀ r ∈ rows, r.hash ≠ hash := by
  simp [hasHash]

/-- A row at the end is found by its hash where no other row has it. -/
theorem byHash?_append_new {rows : Table} {hash : String} {new : Row}
    (fresh : rows.hasHash hash = false) (same : new.hash = hash) :
    byHash? (rows ++ [new]) hash = some new := by
  have absent : rows.find? (fun r => r.hash = hash) = none := by
    rw [List.find?_eq_none]
    intro r hr
    simpa using hasHash_eq_false_iff.mp fresh r hr
  rw [byHash?, List.find?_append, absent]
  simp [same]

theorem map_hash_of_forall₂ {rows kept : Table} (h : List.Forall₂ Row.Evolves rows kept) :
    kept.map Row.hash = rows.map Row.hash := by
  induction h with
  | nil => rfl
  | cons h _ ih => simp only [List.map_cons, h.hash, ih]

/-- Where every row keeps its hash, the row that is found is what became of the one found before. -/
theorem find?_of_forall₂ {R : Row → Row → Prop} (same : ∀ {r s}, R r s → s.hash = r.hash)
    {rows kept : Table} (h : List.Forall₂ R rows kept) {hash : String} {r : Row}
    (found : rows.byHash? hash = some r) : ∃ s, kept.byHash? hash = some s ∧ R r s := by
  induction h with
  | nil => simp [byHash?] at found
  | @cons a b as bs hab _ ih =>
    by_cases ha : a.hash = hash
    · have har : a = r := by simpa [byHash?, ha] using found
      subst har
      exact ⟨b, by simp [byHash?, same hab, ha], hab⟩
    · have hrest : byHash? as hash = some r := by simpa [byHash?, ha] using found
      obtain ⟨s, hs, hrs⟩ := ih hrest
      exact ⟨s, by simpa [byHash?, same hab, ha] using hs, hrs⟩

/-- A row that is found is found whatever is added at the end. -/
theorem byHash?_append {rows : Table} {hash : String} {r : Row} (found : rows.byHash? hash = some r)
    (added : Table) : byHash? (rows ++ added) hash = some r := by
  unfold byHash? at found ⊢
  rw [List.find?_append, found, Option.some_or]

/-- **A hash goes on finding the row it found.** -/
theorem Evolves.byHash? {rows later : Table} (h : rows.Evolves later) {hash : String} {r : Row}
    (found : rows.byHash? hash = some r) : ∃ s, later.byHash? hash = some s ∧ r.Evolves s := by
  obtain ⟨kept, added, rfl, hk⟩ := h
  obtain ⟨s, hs, hrs⟩ := find?_of_forall₂ Row.Evolves.hash hk found
  exact ⟨s, byHash?_append hs added, hrs⟩

/-! ## 4. Changing rows -/

section Changes

variable {R : Row → Row → Prop} {chosen : Row → Bool} {change : Row → Row}

/-- What holds between a chosen row and what becomes of it, and between a row and itself, holds
    along the table. -/
theorem forall₂_changeAll (refl : ∀ r, R r r) (h : ∀ r, chosen r → R r (change r)) (rows : Table) :
    List.Forall₂ R rows (rows.changeAll chosen change) := by
  induction rows with
  | nil => exact .nil
  | cons r rest ih =>
    refine .cons ?_ ih
    show R r (if chosen r then change r else r)
    split
    · next hr => exact h r hr
    · exact refl r

theorem forall₂_changeFirst (refl : ∀ r, R r r) (h : ∀ r, chosen r → R r (change r))
    (rows : Table) : List.Forall₂ R rows (rows.changeFirst chosen change) := by
  induction rows with
  | nil => exact .nil
  | cons r rest ih =>
    unfold changeFirst
    split
    · next hr => exact .cons (h r hr) (List.forall₂_same.mpr fun s _ => refl s)
    · exact .cons (refl r) ih

end Changes

theorem forall₂_sweep (chosen : Row → Bool) (now : Instant) (rows : Table) :
    List.Forall₂ Row.Evolves rows (rows.sweep chosen now) :=
  forall₂_changeAll Row.Evolves.refl (fun r _ => r.evolves_revoke now) rows

end Table

end TokenRotation

import TokenRotation.Proofs.Atomicity
import TokenRotation.Token.Status

/-!
# What rounding does to a table

A database keeps every instant of a row rounded. Whatever asks a row only which of its instants are
there cannot tell; whatever compares a deadline with an instant can, but only where the instant lies
between the deadline and what is kept of it. This file says what becomes of every reading and every
change of a table when its rows are rounded.

* `Row.Alike` -- an instant that does not lie between a deadline of the row and what is kept of it;
* `Row.Timely`, `Row.Timely.alike` -- which instants from 2000 on are of that sort;
* `Row.judge_stored`, `Row.status_stored` -- what is decided about a row at such an instant;
* `Table.sweep_map_stored`, `Table.changeAll_map_stored` -- changes of rounded rows;
* `Table.lineage_map_stored_perm`, `Table.lineage_map_stored` -- the members of a family, and their
  order where no two of them were created at one kept instant.
-/

namespace TokenRotation

/-! ## 1. Deadlines -/

/-- **An instant from 2000 on cannot tell a deadline from what is kept of it**, unless it is after
    what is kept and not after the deadline, or is the first of 2000 and what is kept of a deadline
    before it. -/
theorem Instant.stored_lt_iff_lt {deadline now : Instant} (since : databaseEpoch ≤ now)
    (early : ¬ (deadline.stored < now ∧ now ≤ deadline))
    (turn : ¬ (now = databaseEpoch ∧ deadline < now ∧ deadline.stored = now)) :
    deadline.stored < now ↔ deadline < now := by
  by_cases late : databaseEpoch ≤ deadline
  · have hkept := (stored_le late).1
    simp only [le_def, lt_def] at early hkept ⊢
    omega
  · -- what is kept of a deadline before 2000 is not before it, and not after the first of 2000
    have hlate : deadline < databaseEpoch := Int.not_le.1 late
    have hkept : deadline ≤ deadline.stored := by
      rw [le_def, nanos_stored_of_lt hlate]
      exact Int.le_add_of_nonneg_right (Int.emod_nonneg _ (by decide))
    have hturn : deadline.stored ≤ databaseEpoch := by
      have hmono := stored_mono (Int.le_of_lt hlate)
      rwa [show databaseEpoch.stored = databaseEpoch from rfl] at hmono
    refine ⟨fun h => Int.lt_of_le_of_lt hkept h, fun h => ?_⟩
    have hle : deadline.stored ≤ now := Int.le_trans hturn since
    refine Int.lt_iff_le_and_ne.mpr ⟨hle, fun hnanos => turn ⟨?_, h, congrArg mk hnanos⟩⟩
    have hsame : deadline.stored = now := congrArg mk hnanos
    exact congrArg mk (Int.le_antisymm (hsame ▸ hturn) since)

/-- What is kept of two instants is in their order, if it is not the same. -/
theorem Instant.stored_lt_stored_iff {t u : Instant} (apart : t.stored ≠ u.stored) :
    t.stored < u.stored ↔ t ≤ u := by
  constructor
  · intro hlt
    by_contra hlate
    exact not_lt.2 (stored_mono (Int.le_of_lt (Int.not_le.1 hlate))) hlt
  · intro hle
    exact Int.lt_iff_le_and_ne.mpr
      ⟨stored_mono hle, fun heq => apart (congrArg Instant.mk heq)⟩

namespace Row

/-- **The row and what is kept of it have passed the same deadlines** at that instant. -/
def Alike (r : Row) (now : Instant) : Prop :=
  (r.expiresAt.stored < now ↔ r.expiresAt < now) ∧
    ∀ g ∈ r.graceExpiresAt, g.stored < now ↔ g < now

/-- The deadlines of a row: its expiry, and that of its grace window if it has one. -/
def deadlines (r : Row) : List Instant := r.expiresAt :: r.graceExpiresAt.toList

/-- **The row may be judged at that instant**, which is from 2000 on: it is not after what is kept
    of a deadline without being after the deadline, and it is not the first instant of 2000 if that
    is what is kept of an earlier deadline. -/
structure Timely (r : Row) (now : Instant) : Prop where
  since : Instant.databaseEpoch ≤ now
  early : ∀ deadline ∈ r.deadlines, ¬ (deadline.stored < now ∧ now ≤ deadline)
  turn : ∀ deadline ∈ r.deadlines,
    ¬ (now = Instant.databaseEpoch ∧ deadline < now ∧ deadline.stored = now)

instance (r : Row) (now : Instant) : Decidable (r.Timely now) :=
  decidable_of_iff (Instant.databaseEpoch ≤ now ∧
      (∀ deadline ∈ r.deadlines, ¬ (deadline.stored < now ∧ now ≤ deadline)) ∧
        ∀ deadline ∈ r.deadlines,
          ¬ (now = Instant.databaseEpoch ∧ deadline < now ∧ deadline.stored = now))
    ⟨fun h => ⟨h.1, h.2.1, h.2.2⟩, fun h => ⟨h.since, h.early, h.turn⟩⟩

theorem Timely.alike {r : Row} {now : Instant} (h : r.Timely now) : r.Alike now := by
  have same (deadline : Instant) (hmem : deadline ∈ r.deadlines) :
      deadline.stored < now ↔ deadline < now :=
    Instant.stored_lt_iff_lt h.since (h.early deadline hmem) (h.turn deadline hmem)
  refine ⟨same _ List.mem_cons_self, fun g hg => same g (List.mem_cons_of_mem _ ?_)⟩
  rwa [Option.mem_toList]

/-- **What is decided about a row** is decided about what is kept of it. -/
theorem judge_stored {r : Row} {now : Instant} (h : r.Alike now) (policy : Policy) :
    r.stored.judge now policy = r.judge now policy := by
  obtain ⟨hexpiry, hgrace⟩ := h
  simp only [judge, stored, Option.isSome_map, hexpiry]
  split
  · rfl
  · split
    · rfl
    · cases hc : r.consumedAt with
      | none => rfl
      | some c =>
        cases hg : r.graceExpiresAt with
        | none => rfl
        | some g =>
          have hboth : now ≤ g.stored ↔ now ≤ g := by
            rw [← Instant.not_lt, ← Instant.not_lt, hgrace g hg]
          simp only [Option.map_some, hboth]

theorem status_stored {r : Row} {now : Instant} (h : r.Alike now) :
    r.stored.status now = r.status now := by
  simp only [status, stored, Option.isSome_map, h.1]

theorem stored_stamp (r : Row) (c g : Instant) :
    (r.stamp c g).stored = r.stored.stamp c.stored g.stored := by
  cases hc : r.consumedAt <;> simp [stamp, stored, hc]

/-- A stamp that is kept is the stamp that was asked for, as it is kept. -/
theorem stored_stamp_stored (r : Row) (c g : Instant) :
    (r.stored.stamp c g).stored = (r.stamp c g).stored := by
  rw [stored_stamp, stored_stamp, stored_stored]

theorem stored_revoke (r : Row) (t : Instant) : (r.revoke t).stored = r.stored.revoke t.stored := by
  cases hr : r.revokedAt <;> simp [revoke, stored, hr]

end Row

/-! ## 2. Changes of rounded rows -/

namespace Table

variable {rows : Table} {chosen : Row → Bool} {change kept : Row → Row}

theorem byHash?_map_stored (rows : Table) (hash : String) :
    byHash? (rows.map Row.stored) hash = (rows.byHash? hash).map Row.stored := by
  simp only [byHash?, List.find?_map]
  rfl

theorem hasHash_map_stored (rows : Table) (hash : String) :
    hasHash (rows.map Row.stored) hash = rows.hasHash hash := by
  simp only [hasHash, List.any_map]
  rfl

theorem hasId_map_stored (rows : Table) (id : Uuid) :
    hasId (rows.map Row.stored) id = rows.hasId id := by
  simp only [hasId, List.any_map]
  rfl

theorem any_map_stored (blind : ∀ r, chosen (Row.stored r) = chosen r) (rows : Table) :
    (rows.map Row.stored).any chosen = rows.any chosen := by
  simp only [List.any_map, Function.comp_def, blind]

/-- Who is chosen whether or not he is rounded is changed as he is, and rounded. -/
theorem changeAll_map_stored (blind : ∀ r, chosen (Row.stored r) = chosen r)
    (same : ∀ r, kept (Row.stored r) = (change r).stored) (rows : Table) :
    changeAll chosen kept (rows.map Row.stored) =
      (rows.changeAll chosen change).map Row.stored := by
  simp only [changeAll, List.map_map]
  refine List.map_congr_left fun r _ => ?_
  simp only [Function.comp_apply, blind, same]
  split <;> rfl

theorem sweep_map_stored (blind : ∀ r, chosen (Row.stored r) = chosen r) (now : Instant)
    (rows : Table) :
    sweep chosen now.stored (rows.map Row.stored) = (rows.sweep chosen now).map Row.stored :=
  changeAll_map_stored blind (fun r => (r.stored_revoke now).symm) rows

theorem sweepCount_map_stored (blind : ∀ r, chosen (Row.stored r) = chosen r) (rows : Table) :
    sweepCount chosen (rows.map Row.stored) = rows.sweepCount chosen := by
  have live (r : Row) : r.stored.revokedAt.isNone = r.revokedAt.isNone := Option.isNone_map
  simp only [sweepCount, List.countP_map, Function.comp_def, blind, live]

/-! ## 3. One row and all rows -/

/-- Where all that is chosen has one identifier, to change the first is to change all. -/
theorem changeFirst_eq_changeAll (ids : rows.IdsDistinct)
    (single : ∀ r ∈ rows, ∀ s ∈ rows, chosen r → chosen s → r.id = s.id) :
    rows.changeFirst chosen change = rows.changeAll chosen change := by
  cases found : rows.find? chosen with
  | none =>
    have unchosen : ∀ r ∈ rows, chosen r = false := by
      simpa using List.find?_eq_none.mp found
    exact (StoreKind.memory.change_of_none unchosen).trans
      (StoreKind.durable.change_of_none unchosen).symm
  | some row =>
    obtain ⟨hrow, front, back, rfl, hfront⟩ := List.find?_eq_some_iff_append.mp found
    have hfront : ∀ r ∈ front, chosen r = false := by simpa using hfront
    have hback : ∀ r ∈ back, chosen r = false := by
      intro r hr
      by_contra hchosen
      rw [IdsDistinct, List.map_append, List.map_cons, List.nodup_append] at ids
      have hsame := single row (by simp) r (by simp [hr]) hrow (by simpa using hchosen)
      exact (List.nodup_cons.mp ids.2.1).1 (hsame ▸ List.mem_map_of_mem hr)
    rw [changeFirst_append_cons hfront hrow, changeAll_append_cons hfront hrow hback]

/-- A presented row is found again by its hash or by its identifier. -/
theorem change_presented (ids : rows.IdsDistinct) (hashes : rows.HashesDistinct) {row : Row}
    (found : row ∈ rows) :
    rows.changeFirst (fun r => r.hash = row.hash) change =
      rows.changeAll (fun r => r.id = row.id) change := by
  have one {r : Row} (hr : r ∈ rows) (same : r.hash = row.hash) : r = row :=
    List.inj_on_of_nodup_map hashes hr found same
  have both : ∀ r ∈ rows, (r.hash = row.hash ↔ r.id = row.id) := fun r hr =>
    ⟨fun same => by rw [one hr same], fun same => by rw [ids.eq_of_id hr found same]⟩
  rw [changeFirst_eq_changeAll ids fun r hr s hs hchosen hchosen' => by
    rw [one hr (by simpa using hchosen), one hs (by simpa using hchosen')]]
  refine List.map_congr_left fun r hr => ?_
  simp only [both r hr]

/-! ## 4. Families -/

/-- No two rows of the family were created at one instant, as far as a database can tell. -/
def CreatedApart (rows : Table) (family : Uuid) : Prop :=
  ((rows.familyRows family).map fun r => r.createdAt.stored).Nodup

instance (rows : Table) (family : Uuid) : Decidable (rows.CreatedApart family) :=
  inferInstanceAs (Decidable (List.Nodup _))

theorem familyRows_map_stored (rows : Table) (family : Uuid) :
    familyRows (rows.map Row.stored) family = (rows.familyRows family).map Row.stored := by
  simp only [familyRows, List.filter_map]
  rfl

/-- **The members of a family are the same rows.** -/
theorem lineage_map_stored_perm (rows : Table) (family : Uuid) :
    (DurableStore.lineage (rows.map Row.stored) family).Perm
      ((MemoryStore.lineage { rows } family).map Row.stored) := by
  rw [DurableStore.lineage, familyRows_map_stored]
  exact (List.mergeSort_perm _ _).trans ((List.mergeSort_perm _ _).map _).symm

/-- **They are in the same order** where no two of them were created at one kept instant. -/
theorem lineage_map_stored {rows : Table} {family : Uuid} (apart : rows.CreatedApart family) :
    DurableStore.lineage (rows.map Row.stored) family =
      (MemoryStore.lineage { rows } family).map Row.stored := by
  rw [DurableStore.lineage, familyRows_map_stored]
  refine (List.map_mergeSort fun a ha b hb => ?_).symm
  by_cases same : a.createdAt.stored = b.createdAt.stored
  · have heq : a = b := List.inj_on_of_nodup_map apart ha hb same
    subst heq
    simp [Row.stored, Instant.le_def, Uuid.le_def]
  · simp [Row.stored, same, Instant.stored_lt_stored_iff same]

end Table

end TokenRotation

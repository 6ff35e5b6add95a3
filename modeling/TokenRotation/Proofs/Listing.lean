import TokenRotation.Proofs.Calm

/-!
# How a family is listed

A store lists a family by the creation of its rows: all of them, none twice, and no row of another
family. Of rows created at one instant a store in memory lists the one first that was added first,
since its sorting is stable; a database lists the one first whose identifier has the lesser bytes.

* `Uuid.bytes_le_bytes_iff` -- the order of identifiers is that of their bytes;
* `StoreKind.Lists`, `StoreKind.lists` -- **what a family is listed as**, from any table;
* `StoreKind.lineage_of_sorted` -- what stands in order is listed as it stands;
* `Session.lists_lineage` -- a store without faults answers with that, and changes nothing.
-/

namespace TokenRotation

/-! ## 1. The order of bytes -/

namespace Bytes.BigEndian

theorem toNat_cons (byte : UInt8) (bytes : List UInt8) :
    toNat (byte :: bytes) = byte.toNat * Nat.pow 256 bytes.length + toNat bytes := by
  have from_start (bytes : List UInt8) (n : Nat) : bytes.foldl
      (fun n byte => n * 256 + byte.toNat) n = n * Nat.pow 256 bytes.length + toNat bytes := by
    induction bytes generalizing n with
    | nil => simp [toNat]
    | cons byte rest ih =>
      rw [toNat, List.foldl_cons, List.foldl_cons, ih, ih (0 * 256 + byte.toNat), List.length_cons]
      have hpow : Nat.pow 256 (rest.length + 1) = 256 * Nat.pow 256 rest.length :=
        Nat.mul_comm _ _
      rw [hpow, Nat.zero_mul, Nat.zero_add, Nat.add_mul, Nat.mul_assoc, Nat.add_assoc]
  rw [toNat, List.foldl_cons, from_start, Nat.zero_mul, Nat.zero_add]

theorem toNat_lt (bytes : List UInt8) : toNat bytes < Nat.pow 256 bytes.length := by
  induction bytes with
  | nil => decide
  | cons byte rest ih =>
    have room : (byte.toNat + 1) * Nat.pow 256 rest.length ≤ 256 * Nat.pow 256 rest.length :=
      Nat.mul_le_mul_right _ byte.toNat_lt
    have hpow : Nat.pow 256 (rest.length + 1) = 256 * Nat.pow 256 rest.length := Nat.mul_comm _ _
    rw [toNat_cons, List.length_cons, hpow]
    rw [Nat.add_mul] at room
    omega

/-- **Of as many bytes the first difference decides**, as it does in the numbers. -/
theorem lt_iff_toNat_lt {a b : List UInt8} (same : a.length = b.length) :
    a < b ↔ toNat a < toNat b := by
  induction a generalizing b with
  | nil =>
    rw [List.eq_nil_of_length_eq_zero same.symm]
    simp
  | cons x xs ih =>
    cases b with
    | nil => cases same
    | cons y ys =>
      have same : xs.length = ys.length := Nat.succ.inj same
      have hx := toNat_lt xs
      have hy := toNat_lt ys
      rw [List.cons_lt_cons_iff, ih same, toNat_cons, toNat_cons, UInt8.lt_iff_toNat_lt,
        ← UInt8.toNat_inj]
      rw [same] at hx ⊢
      -- a greater first byte is worth more than all the bytes after it
      have worth {m n : Nat} (h : m < n) :
          m * Nat.pow 256 ys.length + Nat.pow 256 ys.length ≤ n * Nat.pow 256 ys.length := by
        rw [← Nat.succ_mul]
        exact Nat.mul_le_mul_right _ h
      rcases Nat.lt_trichotomy x.toNat y.toNat with h | h | h
      · have := worth h
        exact ⟨fun _ => by omega, fun _ => .inl h⟩
      · rw [h]
        exact ⟨fun h' => by omega, fun h' => .inr ⟨rfl, by omega⟩⟩
      · have := worth h
        exact ⟨fun h' => by omega, fun h' => by omega⟩

end Bytes.BigEndian

/-- **The order of identifiers is that of their bytes.** -/
theorem Uuid.bytes_le_bytes_iff {a b : Uuid} : a.bytes ≤ b.bytes ↔ a ≤ b := by
  have value (u : Uuid) : Bytes.BigEndian.toNat u.bytes = u.bits.toNat := by
    rw [bytes, Bytes.BigEndian.toNat_ofNat]
    exact Nat.mod_eq_of_lt u.bits.isLt
  have length (u : Uuid) : u.bytes.length = 16 := Bytes.BigEndian.length_ofNat 16 _
  rw [← List.not_lt, Bytes.BigEndian.lt_iff_toNat_lt (by rw [length, length]), value, value, le_def,
    Nat.not_lt]

/-! ## 2. Lists of a family -/

/-- **A family by the creation of its rows**, as a store of the kind orders it. -/
structure StoreKind.Lists (k : StoreKind) (rows : Table) (family : Uuid) (listed : Table) :
    Prop where
  /-- Every row of the family is listed once, and no other row. -/
  perm : listed.Perm (rows.familyRows family)
  /-- What was created earlier is first. -/
  sorted : listed.Pairwise fun a b => a.createdAt ≤ b.createdAt
  /-- In memory, rows created at one instant stand as they stand in the table. -/
  stable : k = .memory → ∀ t : Instant, (listed.filter fun r => r.createdAt = t) =
    (rows.familyRows family).filter fun r => r.createdAt = t
  /-- In a database they stand by the bytes of their identifiers. -/
  named : k = .durable →
    listed.Pairwise fun a b => a.createdAt = b.createdAt → a.id.bytes ≤ b.id.bytes

namespace Table

variable {before : Row → Row → Bool} {rows : Table}

/-- **Sorting is stable**: chosen rows that the order does not part keep their order. -/
theorem filter_sorted (trans : ∀ a b c, before a b → before b c → before a c)
    (total : ∀ a b, before a b || before b a) {chosen : Row → Bool}
    (tied : ∀ a b, chosen a → chosen b → before a b) (rows : Table) :
    (rows.sorted before).filter chosen = rows.filter chosen := by
  have tie : (rows.filter chosen).Pairwise fun a b => before a b :=
    List.pairwise_of_forall_mem_list fun a ha b hb =>
      tied a b (List.of_mem_filter ha) (List.of_mem_filter hb)
  have kept : (rows.filter chosen).Sublist (rows.sorted before) :=
    List.sublist_mergeSort trans total tie List.filter_sublist
  have again := kept.filter chosen
  simp only [List.filter_filter, Bool.and_self] at again
  refine (again.eq_of_length ?_).symm
  exact ((List.mergeSort_perm rows before).filter chosen).length_eq.symm

end Table

namespace StoreKind

/-- **A family is listed as it should be**, from every table. -/
theorem lists (k : StoreKind) (rows : Table) (family : Uuid) :
    k.Lists rows family (k.lineage rows family) := by
  cases k with
  | memory =>
    have trans (a b c : Row) : decide (a.createdAt ≤ b.createdAt) →
        decide (b.createdAt ≤ c.createdAt) → decide (a.createdAt ≤ c.createdAt) := by
      simp only [decide_eq_true_eq, Instant.le_def]
      omega
    have total (a b : Row) : decide (a.createdAt ≤ b.createdAt) ||
        decide (b.createdAt ≤ a.createdAt) := by
      simp only [Bool.or_eq_true, decide_eq_true_eq, Instant.le_def]
      omega
    refine ⟨List.mergeSort_perm _ _, ?_, fun _ t => ?_, nofun⟩
    · exact (List.pairwise_mergeSort trans total _).imp fun h => of_decide_eq_true h
    · refine Table.filter_sorted trans total (fun a b ha hb => ?_) _
      rw [of_decide_eq_true ha, of_decide_eq_true hb]
      exact decide_eq_true (Int.le_refl _)
  | durable =>
    have sorted : ((durable.lineage rows family).Pairwise fun a b =>
        (a.createdAt < b.createdAt || (a.createdAt = b.createdAt && a.id ≤ b.id)) = true) := by
      refine List.pairwise_mergeSort (fun a b c => ?_) (fun a b => ?_) _
      · simp only [Bool.or_eq_true, Bool.and_eq_true, decide_eq_true_eq, Instant.lt_def,
          Uuid.le_def]
        rintro (h | ⟨h, h'⟩) (g | ⟨g, g'⟩)
        · exact .inl (Int.lt_trans h g)
        · exact .inl (g ▸ h)
        · exact .inl (h ▸ g)
        · exact .inr ⟨h.trans g, Nat.le_trans h' g'⟩
      · simp only [Bool.or_eq_true, Bool.and_eq_true, decide_eq_true_eq, Instant.lt_def,
          Uuid.le_def]
        rcases Int.lt_trichotomy a.createdAt.nanos b.createdAt.nanos with h | h | h
        · exact .inl (.inl h)
        · have same : a.createdAt = b.createdAt := congrArg Instant.mk h
          rcases Nat.le_total a.id.bits.toNat b.id.bits.toNat with h' | h'
          · exact .inl (.inr ⟨same, h'⟩)
          · exact .inr (.inr ⟨same.symm, h'⟩)
        · exact .inr (.inl h)
    refine ⟨List.mergeSort_perm _ _, sorted.imp fun {a b} h => ?_, nofun, fun _ =>
      sorted.imp fun {a b} h same => ?_⟩
    all_goals simp only [Bool.or_eq_true, Bool.and_eq_true, decide_eq_true_eq] at h
    · rcases h with h | ⟨h, -⟩
      · exact Int.le_of_lt h
      · rw [h]
        exact Int.le_refl _
    · rcases h with h | ⟨-, h⟩
      · rw [same] at h
        exact absurd h (Int.lt_irrefl _)
      · exact Uuid.bytes_le_bytes_iff.mpr h

/-- **What stands in order is listed as it stands**, in a database if no two rows were created at
    one instant. -/
theorem lineage_of_sorted {k : StoreKind} {rows : Table} {family : Uuid}
    (sorted : (rows.familyRows family).Pairwise fun a b => a.createdAt ≤ b.createdAt)
    (apart : k = .durable →
      (rows.familyRows family).Pairwise fun a b => a.createdAt ≠ b.createdAt) :
    k.lineage rows family = rows.familyRows family := by
  cases k with
  | memory => exact List.mergeSort_of_pairwise (sorted.imp decide_eq_true)
  | durable =>
    refine List.mergeSort_of_pairwise ((sorted.and (apart rfl)).imp fun {a b} h => ?_)
    have differ : a.createdAt.nanos ≠ b.createdAt.nanos :=
      fun same => h.2 (congrArg Instant.mk same)
    have earlier : a.createdAt < b.createdAt := Int.lt_iff_le_and_ne.mpr ⟨h.1, differ⟩
    simp [earlier]

end StoreKind

/-! ## 3. What a store answers -/

namespace Session

/-- **A store without faults answers with the list of the family**, logs nothing, and keeps the
    table. -/
structure ListsLineage (s : Session) (family : Uuid) (clock : Clock) (listed : Table) : Prop where
  lists : s.store.kind.Lists s.store.rows family listed
  /-- The service has the rows. -/
  served : ∀ statusAt, ((Service.lineage family).run
    (s.world { command := .work (.lineage family statusAt), clock })).1 = .done listed
  /-- A step tells their identifiers, and their status at an instant if one is given. -/
  told : ∀ statusAt, let taken := s.take { command := .work (.lineage family statusAt), clock }
    taken.1.outcome = .done (.lineage (members statusAt listed)) ∧ taken.1.log = [] ∧
      taken.2.store.rows = s.store.rows

theorem lists_lineage {s : Session} (reachable : s.store.isReachable) (family : Uuid)
    (clock : Clock) :
    s.ListsLineage family clock (s.store.kind.lineage s.store.rows family) := by
  have undertaken : s.calm.store.kind.undertake s.calm.store.rows (.listFamily family) =
      (.done (s.store.kind.lineage s.store.rows family), s.calm.store.rows) := by
    rw [kind_calm, rows_calm]
    rfl
  have hrun {α : Type} (f : Table → Program α) : (Service.lineage family >>= f).run s.calm =
      (f (s.store.kind.lineage s.store.rows family)).run s.calm :=
    Program.run_store_bind_calm (.listFamily family) nofun (fun _ _ => nofun) undertaken
  refine ⟨s.store.kind.lists _ _, fun statusAt => ?_, fun statusAt => ?_⟩
  · let step : Step := { command := .work (.lineage family statusAt), clock }
    have hcalm : (s.world step).store.IsCalm := AnyStore.isCalm_withFaults_nil reachable
    have hworld : (s.world step).calm = s.calm := by
      simp only [step, world, Program.World.calm, calm, AnyStore.calm_withFaults]
    have hserved := Program.run_calm (Service.lineage family) hcalm
    have hanswered := congrArg Prod.fst (hrun pure)
    rw [hworld] at hserved
    rw [Program.run_bind, hserved] at hanswered
    change ((Service.lineage family).run (s.world step)).1 = _
    cases hended : ((Service.lineage family).run (s.world step)).1 with
    | done listed =>
      rw [hended] at hanswered
      exact hanswered
    | failed | aborted =>
      rw [hended] at hanswered
      cases hanswered
  · have htake := take_calm reachable (.lineage family statusAt) clock
    have hended : (Work.program s.settings clock (.lineage family statusAt)).run s.calm =
        (.done (.lineage (members statusAt (s.store.kind.lineage s.store.rows family))), s.calm) :=
      hrun _
    rw [hended] at htake
    exact ⟨htake.outcome, htake.log, htake.rows.trans s.rows_calm⟩

end Session

end TokenRotation

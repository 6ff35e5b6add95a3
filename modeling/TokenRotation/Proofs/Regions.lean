import TokenRotation.Proofs.Undisturbed

/-!
# Regions of a table

A region is told by subject and family, which no call changes: a family, the rows of a subject, or
nothing at all. A call that stays in a region reads and writes only rows of the region and adds only
such rows. It comes to the same on every table that is the same in the region, and it leaves what is
around the region as it was. Only an insertion looks further, at the identifiers and the hashes of
all rows.

* `Table.within`, `Table.beyond` -- a table in a region, and around it;
* `StoreCall.StaysIn` -- what is asked of a call, of the rows around the region;
* `StoreKind.respond_within` -- a call that adds nothing, on the region alone;
* `StoreKind.respondsAlike` -- **a call that stays in the region** on two tables that are the same
  there.
-/

namespace TokenRotation

open Store

/-! ## 1. Regions -/

/-- A region of every table: the rows of some subjects and families. -/
abbrev Region := String → Uuid → Bool

/-- The row is in the region. -/
def Row.within (m : Region) (r : Row) : Bool := m r.subject r.family

theorem Row.Evolves.within_eq {r s : Row} (h : r.Evolves s) (m : Region) :
    s.within m = r.within m := by
  simp only [Row.within, h.subject, h.family]

namespace Table

/-- The rows in the region. -/
def within (m : Region) (rows : Table) : Table := rows.filter (Row.within m)

/-- The rows around the region. -/
def beyond (m : Region) (rows : Table) : Table := rows.filter fun r => !r.within m

variable {m : Region} {rows : Table} {chosen : Row → Bool} {change : Row → Row}

theorem mem_within {r : Row} : r ∈ rows.within m ↔ r ∈ rows ∧ r.within m := List.mem_filter

theorem mem_beyond {r : Row} : r ∈ rows.beyond m ↔ r ∈ rows ∧ r.within m = false := by
  simp [beyond]

/-- What no row around the region is, is in the region. -/
theorem within_of_around (h : ∀ r ∈ rows.beyond m, ¬ chosen r) :
    ∀ r ∈ rows, chosen r → r.within m := by
  intro r hr hchosen
  by_contra hout
  exact h r (mem_beyond.mpr ⟨hr, eq_false_of_ne_true hout⟩) hchosen

/-- Some row is chosen in the region, or around it. -/
theorem any_eq_within_or_beyond (m : Region) (rows : Table) (chosen : Row → Bool) :
    rows.any chosen = ((rows.within m).any chosen || (rows.beyond m).any chosen) := by
  rw [Bool.eq_iff_iff, Bool.or_eq_true, List.any_eq_true, List.any_eq_true, List.any_eq_true]
  constructor
  · rintro ⟨r, hr, hchosen⟩
    cases hin : r.within m with
    | true => exact .inl ⟨r, mem_within.mpr ⟨hr, hin⟩, hchosen⟩
    | false => exact .inr ⟨r, mem_beyond.mpr ⟨hr, hin⟩, hchosen⟩
  · rintro (⟨r, hr, hchosen⟩ | ⟨r, hr, hchosen⟩)
    · exact ⟨r, (mem_within.mp hr).1, hchosen⟩
    · exact ⟨r, (mem_beyond.mp hr).1, hchosen⟩

/-! ## 2. Reading and writing in a region

What is chosen only in the region is found, counted and changed in the region alone. -/

theorem filter_within (inside : ∀ r ∈ rows, chosen r → r.within m) :
    (rows.within m).filter chosen = rows.filter chosen := by
  rw [within, List.filter_filter]
  refine List.filter_congr fun r hr => ?_
  cases hc : chosen r with
  | false => simp
  | true => simp [inside r hr hc]

theorem find?_within (inside : ∀ r ∈ rows, chosen r → r.within m) :
    (rows.within m).find? chosen = rows.find? chosen := by
  rw [← List.head?_filter, ← List.head?_filter, filter_within inside]

theorem any_within (inside : ∀ r ∈ rows, chosen r → r.within m) :
    (rows.within m).any chosen = rows.any chosen := by
  have none_beyond : (rows.beyond m).any chosen = false := by
    rw [List.any_eq_false]
    intro r hr hchosen
    obtain ⟨hmem, hout⟩ := mem_beyond.mp hr
    rw [inside r hmem hchosen] at hout
    cases hout
  rw [any_eq_within_or_beyond m rows, none_beyond, Bool.or_false]

theorem countP_within (inside : ∀ r ∈ rows, chosen r → r.within m) :
    (rows.within m).countP chosen = rows.countP chosen := by
  rw [List.countP_eq_length_filter, List.countP_eq_length_filter, filter_within inside]

theorem sweepCount_within (inside : ∀ r ∈ rows, chosen r → r.within m) :
    (rows.within m).sweepCount chosen = rows.sweepCount chosen :=
  countP_within fun r hr hchosen => inside r hr (Bool.and_eq_true_iff.mp hchosen).1

/-- A row of the region leads the rows of the region, one around it those around it. -/
theorem within_cons {r : Row} (hin : r.within m) :
    within m (r :: rows) = r :: rows.within m ∧ beyond m (r :: rows) = rows.beyond m := by
  simp [within, beyond, hin]

theorem beyond_cons {r : Row} (hout : r.within m = false) :
    within m (r :: rows) = rows.within m ∧ beyond m (r :: rows) = r :: rows.beyond m := by
  simp [within, beyond, hout]

theorem change_cons_of_unchosen (k : StoreKind) {r : Row} (unchosen : chosen r = false) :
    k.change chosen change (r :: rows) = r :: k.change chosen change rows := by
  cases k <;> simp [StoreKind.change, changeFirst, changeAll, unchosen]

/-- **What is written** to rows of the region is written in the region, and nothing around it. -/
theorem within_change (k : StoreKind) (inside : ∀ r ∈ rows, chosen r → r.within m)
    (same : ∀ r, (change r).within m = r.within m) :
    (k.change chosen change rows).within m = k.change chosen change (rows.within m) ∧
      (k.change chosen change rows).beyond m = rows.beyond m := by
  induction rows with
  | nil => cases k <;> exact ⟨rfl, rfl⟩
  | cons r rest ih =>
    obtain ⟨hwithin, hbeyond⟩ := ih fun s hs => inside s (List.mem_cons_of_mem r hs)
    cases hc : chosen r with
    | false =>
      rw [change_cons_of_unchosen k hc]
      cases hin : r.within m with
      | true =>
        rw [(within_cons hin).1, (within_cons hin).1, (within_cons hin).2, (within_cons hin).2,
          change_cons_of_unchosen k hc, hwithin]
        exact ⟨rfl, hbeyond⟩
      | false =>
        rw [(beyond_cons hin).1, (beyond_cons hin).1, (beyond_cons hin).2, (beyond_cons hin).2,
          hbeyond]
        exact ⟨hwithin, rfl⟩
    | true =>
      -- memory changes this row and no other, a database goes on with the rest
      have hin := inside r List.mem_cons_self hc
      have hin' : (change r).within m := (same r).trans hin
      rw [(within_cons hin).1, (within_cons hin).2]
      cases k with
      | memory =>
        simp only [StoreKind.change, changeFirst, hc, if_true]
        exact within_cons hin'
      | durable =>
        have hall (rows : Table) : StoreKind.durable.change chosen change (r :: rows) =
            change r :: StoreKind.durable.change chosen change rows := by
          simp [StoreKind.change, changeAll, hc]
        rw [hall, hall, (within_cons hin').1, (within_cons hin').2, hwithin]
        exact ⟨rfl, hbeyond⟩

theorem within_sweep (inside : ∀ r ∈ rows, chosen r → r.within m) (now : Instant) :
    (rows.sweep chosen now).within m = (rows.within m).sweep chosen now ∧
      (rows.sweep chosen now).beyond m = rows.beyond m :=
  within_change .durable inside fun r => (r.evolves_revoke now).within_eq m

end Table

/-! ## 3. Calls that stay in a region -/

/-- **The call stays in the region**: what it reads and writes is not around it, and what it adds is
    in it. A presentation may have to revoke the family of the presented row. -/
def StoreCall.StaysIn (m : Region) (inside around : Table) : StoreCall → Prop
  | .insert token => m token.subject token.family
  | .consume hash _ _ => (∀ r ∈ around, r.hash ≠ hash) ∧
      ∀ row ∈ inside.byHash? hash, ∀ r ∈ around, r.family ≠ row.family
  | .revokeFamily family _ | .listFamily family => ∀ r ∈ around, r.family ≠ family
  | .revokeSubject subject _ => ∀ r ∈ around, r.subject ≠ subject
  | .link id successor => ∀ r ∈ around, r.id ≠ id ∧ r.id ≠ successor
  | .getByHash hash => ∀ r ∈ around, r.hash ≠ hash

theorem StoreCall.StaysIn.mono {m : Region} {inside around around' : Table} {call : StoreCall}
    (h : call.StaysIn m inside around) (fewer : ∀ r ∈ around', r ∈ around) :
    call.StaysIn m inside around' := by
  cases call with
  | insert => exact h
  | consume =>
    exact ⟨fun r hr => h.1 r (fewer r hr), fun row hrow r hr => h.2 row hrow r (fewer r hr)⟩
  | revokeFamily | revokeSubject | link | getByHash | listFamily =>
    exact fun r hr => h r (fewer r hr)

theorem StoreKind.lineage_within {k : StoreKind} {m : Region} {rows : Table} {family : Uuid}
    (inside : ∀ r ∈ rows, r.family = family → r.within m) :
    k.lineage (rows.within m) family = k.lineage rows family := by
  have same : (rows.within m).familyRows family = rows.familyRows family :=
    Table.filter_within (by simpa using inside)
  cases k <;> simp only [lineage, MemoryStore.lineage, DurableStore.lineage, same]

/-! ## 4. A call on the region alone -/

namespace StoreKind

variable {k : StoreKind} {server : Server} {m : Region} {rows : Table}

/-- **A verdict on a row of the region** is obeyed in the region alone. -/
theorem obey_within (ids : rows.IdsDistinct) {row : Row} (found : row ∈ rows) (hin : row.within m)
    (hashes : ∀ r ∈ rows.beyond m, r.hash ≠ row.hash)
    (families : ∀ r ∈ rows.beyond m, r.family ≠ row.family) (now : Instant) (verdict : Verdict) :
    (k.obey (rows.within m) row now verdict =
        (k.obey rows row now verdict).map fun done => (done.1, done.2.within m)) ∧
      ∀ done ∈ k.obey rows row now verdict, done.2.beyond m = rows.beyond m := by
  cases verdict with
  | refuse | withinGrace => exact ⟨rfl, by rintro _ ⟨⟩; rfl⟩
  | overflow => exact ⟨rfl, nofun⟩
  | firstUse c g =>
    have inside : ∀ r ∈ rows, k.presented row r → r.within m := by
      refine Table.within_of_around fun r hr hpresented => ?_
      cases k with
      | memory => exact hashes r hr (by simpa [presented] using hpresented)
      | durable =>
        have same : r.id = row.id := by simpa [presented] using hpresented
        obtain ⟨hmem, hout⟩ := Table.mem_beyond.mp hr
        rw [ids.eq_of_id hmem found same, hin] at hout
        cases hout
    obtain ⟨hwithin, hbeyond⟩ := Table.within_change k inside
      fun r => (r.evolves_stamp (k.keep c) (k.keep g)).within_eq m
    exact ⟨by rw [obey, ← hwithin]; rfl, by rintro _ ⟨⟩; exact hbeyond⟩
  | reuse =>
    have inside : ∀ r ∈ rows, decide (r.family = row.family) → r.within m :=
      Table.within_of_around fun r hr hfamily => families r hr (by simpa using hfamily)
    obtain ⟨hwithin, hbeyond⟩ := Table.within_sweep inside (k.keep now)
    exact ⟨by rw [obey, ← hwithin, Table.sweepCount_within inside]; rfl,
      by rintro _ ⟨⟩; exact hbeyond⟩

/-- A presentation of a hash that no row around the region has. -/
theorem present_within (ids : rows.IdsDistinct) {hash : String}
    (hashes : ∀ r ∈ rows.beyond m, r.hash ≠ hash)
    (families : ∀ row ∈ (rows.within m).byHash? hash, ∀ r ∈ rows.beyond m, r.family ≠ row.family)
    (now : Instant) (policy : Policy) :
    (k.present (rows.within m) hash now policy =
        ((k.present rows hash now policy).1, (k.present rows hash now policy).2.within m)) ∧
      (k.present rows hash now policy).2.beyond m = rows.beyond m := by
  have hfind : (rows.within m).byHash? hash = rows.byHash? hash :=
    Table.find?_within (Table.within_of_around fun r hr hhash =>
      hashes r hr (by simpa using hhash))
  rw [hfind] at families
  cases found : rows.byHash? hash with
  | none => simp only [present, hfind, found, and_self]
  | some row =>
    obtain rfl := Table.hash_of_byHash? found
    have hrow := Table.mem_of_byHash? found
    have hin : row.within m := by
      rw [← hfind] at found
      exact (Table.mem_within.mp (Table.mem_of_byHash? found)).2
    obtain ⟨hwithin, hbeyond⟩ := obey_within (k := k) ids hrow hin hashes (families row found) now
      (row.judge now policy)
    simp only [present, hfind, found, hwithin]
    cases hobey : k.obey rows row now (row.judge now policy) with
    | none => exact ⟨rfl, rfl⟩
    | some done => exact ⟨rfl, hbeyond done hobey⟩

/-- The call, for texts that can be kept. -/
theorem undertake_within (ids : rows.IdsDistinct) {call : StoreCall}
    (stays : call.StaysIn m (rows.within m) (rows.beyond m))
    (adds : ∀ token, call ≠ .insert token) :
    (k.undertake (rows.within m) call =
        ((k.undertake rows call).1, (k.undertake rows call).2.within m)) ∧
      (k.undertake rows call).2.beyond m = rows.beyond m := by
  cases call with
  | insert token => exact absurd rfl (adds token)
  | consume hash clock policy =>
    obtain ⟨hashes, families⟩ := stays
    have hfind : (rows.within m).byHash? hash = rows.byHash? hash :=
      Table.find?_within (Table.within_of_around fun r hr hhash =>
        hashes r hr (by simpa using hhash))
    cases shown : clock.now with
    | ok now => simpa only [undertake, shown] using present_within ids hashes families now policy
    | error cause =>
      simp only [undertake, shown, hfind]
      split <;> exact ⟨rfl, rfl⟩
  | revokeFamily family now =>
    have inside : ∀ r ∈ rows, decide (r.family = family) → r.within m :=
      Table.within_of_around fun r hr hfamily => stays r hr (by simpa using hfamily)
    obtain ⟨hwithin, hbeyond⟩ := Table.within_sweep inside (k.keep now)
    simp only [undertake, hwithin, hbeyond, Table.sweepCount_within inside, and_self]
  | revokeSubject subject now =>
    have inside : ∀ r ∈ rows, decide (r.subject = subject) → r.within m :=
      Table.within_of_around fun r hr hsubject => stays r hr (by simpa using hsubject)
    obtain ⟨hwithin, hbeyond⟩ := Table.within_sweep inside (k.keep now)
    simp only [undertake, hwithin, hbeyond, Table.sweepCount_within inside, and_self]
  | link id successor =>
    have inside : ∀ r ∈ rows, Row.unlinked id r → r.within m :=
      Table.within_of_around fun r hr hunlinked => (stays r hr).1 (by
        simpa [Row.unlinked] using (Bool.and_eq_true_iff.mp hunlinked).1)
    have known : (rows.within m).hasId successor = rows.hasId successor :=
      Table.any_within (Table.within_of_around fun r hr hid => (stays r hr).2 (by simpa using hid))
    have linked (r : Row) : ({ r with replacedBy := some successor } : Row).within m = r.within m :=
      rfl
    obtain ⟨hwithin, hbeyond⟩ := Table.within_change k inside linked
    simp only [undertake, known, Table.any_within inside]
    split
    · exact ⟨rfl, rfl⟩
    · exact ⟨by rw [hwithin], hbeyond⟩
  | getByHash hash =>
    have hfind : (rows.within m).byHash? hash = rows.byHash? hash :=
      Table.find?_within (Table.within_of_around fun r hr hhash =>
        stays r hr (by simpa using hhash))
    simp only [undertake, hfind, and_self]
  | listFamily family =>
    have inside : ∀ r ∈ rows, r.family = family → r.within m := by
      intro r hr hfamily
      by_contra hout
      exact stays r (Table.mem_beyond.mpr ⟨hr, eq_false_of_ne_true hout⟩) hfamily
    simp only [undertake, lineage_within inside, and_self]

/-- **A call that stays in the region and adds nothing** comes to the same on the region alone. -/
theorem respond_within (server : Server) (ids : rows.IdsDistinct) {call : StoreCall}
    (stays : call.StaysIn m (rows.within m) (rows.beyond m))
    (adds : ∀ token, call ≠ .insert token) :
    k.respond server (rows.within m) call =
        { k.respond server rows call with store := (k.respond server rows call).store.within m } ∧
      (k.respond server rows call).store.beyond m = rows.beyond m := by
  obtain ⟨hwithin, hbeyond⟩ := undertake_within (k := k) ids stays adds
  unfold respond
  split
  · exact ⟨rfl, rfl⟩
  · exact ⟨by rw [hwithin], hbeyond⟩

/-! ## 5. A call on two tables -/

/-- **Two tables come to the same** by a call: the same answer and the same rows in the region, and
    around it the rows that were there. In the region the call ends as it may end there alone. -/
structure RespondsAlike (k : StoreKind) (server : Server) (m : Region) (rows rows' : Table)
    (call : StoreCall) : Prop where
  outcome : (k.respond server rows' call).outcome = (k.respond server rows call).outcome
  events : (k.respond server rows' call).events = (k.respond server rows call).events
  inside : (k.respond server rows' call).store.within m =
    (k.respond server rows call).store.within m
  around : (k.respond server rows call).store.beyond m = rows.beyond m
  around' : (k.respond server rows' call).store.beyond m = rows'.beyond m
  settled : Settled k (rows.within m) call (k.respond server rows call).outcome
    ((k.respond server rows call).store.within m)

/-- A call that ends without an answer, in the same way for both tables. -/
theorem respondsAlike_of_kept {rows' : Table} (same : rows'.within m = rows.within m)
    {call : StoreCall} {e : Failure} {events : List Event}
    (h : k.respond server rows call = { outcome := .failed e, events, store := rows })
    (h' : k.respond server rows' call = { outcome := .failed e, events, store := rows' })
    (unrefused : e.refusal? = none) : RespondsAlike k server m rows rows' call where
  outcome := by rw [h, h']
  events := by rw [h, h']
  inside := by rw [h, h', same]
  around := by rw [h]
  around' := by rw [h']
  settled := by
    rw [h]
    refine .kept nofun fun reason heq => ?_
    cases heq
    cases unrefused

/-- **A row that is added** to one of the tables is added to the other. -/
theorem respondsAlike_insert {rows' : Table} (same : rows'.within m = rows.within m)
    {token : NewToken} (hin : m token.subject token.family) (newId : rows.hasId token.id = false)
    (newId' : rows'.hasId token.id = false)
    (hash : rows'.hasHash token.hash = rows.hasHash token.hash) :
    RespondsAlike k server m rows rows' (.insert token) := by
  by_cases unkept : k = .durable ∧ ∃ text ∈ (StoreCall.insert token).texts, ¬ Keepable text
  · exact respondsAlike_of_kept same (if_pos unkept) (if_pos unkept) rfl
  have hrespond (rows : Table) : k.respond server rows (.insert token) =
      { outcome := (k.undertake rows (.insert token)).1
        store := (k.undertake rows (.insert token)).2 } := if_neg unkept
  by_cases length : k = .durable ∧ token.hash.length ≠ 64
  · have broken (rows : Table) : k.respond server rows (.insert token) =
        { outcome := .failed (.invalidInput "Value violates a table constraint")
          store := rows } := by
      rw [hrespond]
      simp only [undertake, if_pos length]
    exact respondsAlike_of_kept same (broken rows) (broken rows') rfl
  cases taken : rows.hasHash token.hash with
  | true =>
    rw [taken] at hash
    have collided {rows : Table} (newId : rows.hasId token.id = false)
        (taken : rows.hasHash token.hash) : k.respond server rows (.insert token) =
          { outcome := .failed .hashCollision, store := rows } := by
      rw [hrespond]
      simp [undertake, if_neg length, newId, taken]
    exact respondsAlike_of_kept same (collided newId taken) (collided newId' hash) rfl
  | false =>
    rw [taken] at hash
    have added {rows : Table} (newId : rows.hasId token.id = false)
        (fresh : rows.hasHash token.hash = false) : k.respond server rows (.insert token) =
          { outcome := .done (k.keepRow token.row), store := rows ++ [k.keepRow token.row] } := by
      rw [hrespond]
      simp [undertake, if_neg length, newId, fresh]
    have hnew : (k.keepRow token.row).within m := by
      rw [Row.within, k.keepRow_subject, k.keepRow_family]
      exact hin
    have hwithin (rows : Table) : Table.within m (rows ++ [k.keepRow token.row]) =
        rows.within m ++ [k.keepRow token.row] := by
      simp [Table.within, hnew]
    have hbeyond (rows : Table) :
        Table.beyond m (rows ++ [k.keepRow token.row]) = rows.beyond m := by
      simp [Table.beyond, hnew]
    have fresh : (rows.within m).hasHash token.hash = false := by
      rw [Table.hasHash_eq_false_iff] at taken ⊢
      exact fun r hr => taken r (Table.mem_within.mp hr).1
    constructor <;> simp only [added newId taken, added newId' hash, hwithin, hbeyond, same]
    exact .carried (.insert fresh)

/-- **A call that stays in the region** comes to the same on both tables. -/
theorem respondsAlike (server : Server) {rows' : Table} (same : rows'.within m = rows.within m)
    (ids : rows.IdsDistinct) (ids' : rows'.IdsDistinct) {call : StoreCall}
    (stays : call.StaysIn m (rows.within m) (rows.beyond m))
    (stays' : call.StaysIn m (rows.within m) (rows'.beyond m))
    (adds : ∀ token, call = .insert token → rows.hasId token.id = false ∧
      rows'.hasId token.id = false ∧ rows'.hasHash token.hash = rows.hasHash token.hash) :
    RespondsAlike k server m rows rows' call := by
  by_cases inserts : ∃ token, call = .insert token
  · obtain ⟨token, rfl⟩ := inserts
    obtain ⟨newId, newId', hash⟩ := adds token rfl
    exact respondsAlike_insert same stays newId newId' hash
  · have other : ∀ token, call ≠ .insert token := fun token heq => inserts ⟨token, heq⟩
    obtain ⟨hwithin, hbeyond⟩ := respond_within (k := k) server ids stays other
    obtain ⟨hwithin', hbeyond'⟩ :=
      respond_within (k := k) server ids' (same ▸ stays') other
    have heq : ({ k.respond server rows' call with
        store := (k.respond server rows' call).store.within m } : Performed Table call.Answer) =
          { k.respond server rows call with
            store := (k.respond server rows call).store.within m } := by
      rw [← hwithin, ← hwithin', same]
    have settled := k.respond_settled server (rows.within m) call
    rw [hwithin] at settled
    simp only [Performed.mk.injEq] at heq
    exact ⟨heq.1, heq.2.1, heq.2.2, hbeyond, hbeyond', settled⟩

end StoreKind

end TokenRotation

import Mathlib.Logic.Relation
import TokenRotation.Proofs.Atomicity
import TokenRotation.Proofs.Conduct
import TokenRotation.Proofs.Revocation

/-!
# Families as trees

A link leads from a consumed row to a later row of the same family and subject, and no two links
lead to one row. So links are a forest: to follow them goes forward in the table, never comes back,
and ends at a row without a successor.

The argument goes along the deeds, with the stages of all operations beside the table. A rotation
that is pending keeps its successor for itself until the link is made, however many others rotate
the same token in the meantime.

* `Table.Forest` -- all that is true of families and links;
* `Growing` -- the invariant between the stages of the operations and the table;
* `Growing.deed` -- every deed that is allowed keeps it;
* `Pool.forest` -- all of it for the calls of a pool, under every schedule.
-/

namespace TokenRotation

/-! ## 1. Tables -/

namespace Table

variable {rows later : Table}

/-- **A row with the first identifier was consumed, and a row with the second was added after it**,
    to the same family and the same subject. -/
def Leads (rows : Table) (id successor : Uuid) : Prop :=
  ∃ (i j : Nat) (x z : Row), i < j ∧ rows[i]? = some x ∧ rows[j]? = some z ∧ x.id = id ∧
    z.id = successor ∧ x.consumedAt.isSome ∧ z.family = x.family ∧ z.subject = x.subject

theorem Leads.evolves {id successor : Uuid} (h : rows.Leads id successor)
    (hrows : rows.Evolves later) : later.Leads id successor := by
  obtain ⟨i, j, x, z, hij, hx, hz, hxid, hzid, hconsumed, hfamily, hsubject⟩ := h
  obtain ⟨x', hx', hxx⟩ := hrows.getElem? hx
  obtain ⟨z', hz', hzz⟩ := hrows.getElem? hz
  exact ⟨i, j, x', z', hij, hx', hz', hxx.id.trans hxid, hzz.id.trans hzid,
    hxx.isSome_consumedAt hconsumed, hzz.family.trans (hfamily.trans hxx.family.symm),
    hzz.subject.trans (hsubject.trans hxx.subject.symm)⟩

theorem Leads.exists_successor {id successor : Uuid} (h : rows.Leads id successor) :
    ∃ z ∈ rows, z.id = successor := by
  obtain ⟨_, _, _, z, -, -, hz, -, hzid, -⟩ := h
  exact ⟨z, List.mem_of_getElem? hz, hzid⟩

/-- A row that is added leads on from a row of its family that was consumed. -/
theorem leads_append_new {x new : Row} (hx : x ∈ rows) (consumed : x.consumedAt.isSome)
    (family : new.family = x.family) (subject : new.subject = x.subject) :
    Leads (rows ++ [new]) x.id new.id := by
  obtain ⟨i, hi, rfl⟩ := List.getElem_of_mem hx
  refine ⟨i, rows.length, rows[i], new, hi, ?_, ?_, rfl, rfl, consumed, family, subject⟩
  · rw [List.getElem?_append_left hi, List.getElem?_eq_getElem hi]
  · rw [List.getElem?_concat_length]

/-- A row and the row that is linked to it as its successor. -/
def Linked (rows : Table) (x z : Row) : Prop := x ∈ rows ∧ z ∈ rows ∧ x.replacedBy = some z.id

/-- **Families are trees, and links are a forest.** -/
structure Forest (rows : Table) : Prop where
  /-- No two rows have one identifier. -/
  distinct : rows.IdsDistinct
  /-- The rows of a family have one subject. -/
  one : rows.OneSubject
  /-- What is linked to a row was added after it, to its family and subject, and the row was
      consumed. -/
  linked : ∀ x ∈ rows, ∀ y, x.replacedBy = some y → rows.Leads x.id y
  /-- No two rows have one successor. -/
  single : ∀ x ∈ rows, ∀ z ∈ rows, x.replacedBy.isSome → x.replacedBy = z.replacedBy → x = z

namespace Forest

/-- Links go forward in the table. -/
theorem forward (h : rows.Forest) {x z : Row} (hlinked : Relation.TransGen rows.Linked x z) :
    ∃ i j : Nat, i < j ∧ rows[i]? = some x ∧ rows[j]? = some z := by
  have one {x z : Row} (hxz : rows.Linked x z) :
      ∃ i j : Nat, i < j ∧ rows[i]? = some x ∧ rows[j]? = some z := by
    obtain ⟨hx, hz, hreplaced⟩ := hxz
    obtain ⟨i, j, x', z', hij, hx', hz', hxid, hzid, -⟩ := h.linked x hx z.id hreplaced
    rw [h.distinct.eq_of_id (List.mem_of_getElem? hx') hx hxid] at hx'
    rw [h.distinct.eq_of_id (List.mem_of_getElem? hz') hz hzid] at hz'
    exact ⟨i, j, hij, hx', hz'⟩
  induction hlinked with
  | single hxz => exact one hxz
  | tail _ hyz ih =>
    obtain ⟨i, j, hij, hx, hy⟩ := ih
    obtain ⟨j', l, hjl, hy', hz⟩ := one hyz
    have heq := h.distinct.place hy hy' rfl
    exact ⟨i, l, by omega, hx, hz⟩

/-- **To follow links never comes back.** -/
theorem acyclic (h : rows.Forest) (x : Row) : ¬ Relation.TransGen rows.Linked x x := by
  intro hcycle
  obtain ⟨i, j, hij, hx, hx'⟩ := h.forward hcycle
  have heq := h.distinct.place hx hx' rfl
  omega

/-- **To follow links ends** at a row without a successor. -/
theorem ends (h : rows.Forest) {x : Row} (hx : x ∈ rows) :
    ∃ z ∈ rows, Relation.ReflTransGen rows.Linked x z ∧ z.replacedBy = none := by
  obtain ⟨i, hi, rfl⟩ := List.getElem_of_mem hx
  -- what is left of the table behind the row becomes shorter with every link
  induction hleft : rows.length - i using Nat.strongRecOn generalizing i with
  | ind left ih =>
    cases hreplaced : rows[i].replacedBy with
    | none => exact ⟨rows[i], hx, .refl, hreplaced⟩
    | some y =>
      obtain ⟨z, hz, hzid⟩ := (h.linked _ hx y hreplaced).exists_successor
      have hlink : rows.Linked rows[i] z := ⟨hx, hz, hzid ▸ hreplaced⟩
      obtain ⟨i', j, hij, hxi, hzj⟩ := h.forward (.single hlink)
      have hi' := h.distinct.place hxi (List.getElem?_eq_getElem hi) rfl
      obtain ⟨hj, rfl⟩ := List.getElem?_eq_some_iff.mp hzj
      obtain ⟨last, hlast, hreach, hend⟩ := ih (rows.length - j) (by omega) j hj hz rfl
      exact ⟨last, hlast, .head hlink hreach, hend⟩

end Forest

end Table

/-! ## 2. What a call does to links -/

/-- What becomes of a row when a call is carried out that adds none: it evolves, and only a link
    gives it a successor. -/
def Row.Relinks (call : StoreCall) (r s : Row) : Prop :=
  r.Evolves s ∧ (s.replacedBy = r.replacedBy ∨
    ∃ id successor, call = .link id successor ∧ r.id = id ∧ s.replacedBy = some successor)

theorem Row.replacedBy_stamp (r : Row) (c g : Instant) :
    (r.stamp c g).replacedBy = r.replacedBy := by
  unfold stamp
  split <;> rfl

theorem Row.replacedBy_revoke (r : Row) (t : Instant) : (r.revoke t).replacedBy = r.replacedBy := by
  unfold revoke
  split <;> rfl

theorem Carried.relinks {k : StoreKind} {rows after : Table} {call : StoreCall}
    {answer : call.Answer} (h : Carried k rows call answer after)
    (adds : ∀ token, call ≠ .insert token) : List.Forall₂ (Row.Relinks call) rows after := by
  have self (r : Row) : r.Relinks call r := ⟨Row.Evolves.refl r, .inl rfl⟩
  have swept (chosen : Row → Bool) (t : Instant) :
      List.Forall₂ (Row.Relinks call) rows (rows.sweep chosen t) :=
    Table.forall₂_changeAll self
      (fun r _ => ⟨r.evolves_revoke t, .inl (r.replacedBy_revoke t)⟩) rows
  cases h with
  | insert => exact absurd rfl (adds _)
  | unknown | refused | grace | getByHash | listFamily =>
    exact List.forall₂_same.mpr fun r _ => self r
  | first =>
    exact k.forall₂_change self (fun r _ => ⟨r.evolves_stamp _ _, .inl (r.replacedBy_stamp _ _)⟩)
      rows
  | reuse | revokeFamily | revokeSubject => exact swept _ _
  | link =>
    refine k.forall₂_change self (fun r hr => ?_) rows
    obtain ⟨hid, hnone⟩ : r.id = _ ∧ r.replacedBy = none := by simpa [Row.unlinked] using hr
    exact ⟨Row.evolves_link hnone _, .inr ⟨_, _, rfl, hid, rfl⟩⟩

namespace Table.Forest

variable {rows later : Table}

theorem nil : Forest [] where
  distinct := List.nodup_nil
  one _ h := absurd h List.not_mem_nil
  linked _ h := absurd h List.not_mem_nil
  single _ h := absurd h List.not_mem_nil

/-- The forest stays one when a link is made to a row that no link leads to. -/
theorem relinks {call : StoreCall} (h : rows.Forest)
    (hrows : List.Forall₂ (Row.Relinks call) rows later)
    (leads : ∀ id successor, call = .link id successor →
      rows.Leads id successor ∧ ∀ w ∈ rows, w.replacedBy ≠ some successor) : later.Forest := by
  have evolves : List.Forall₂ Row.Evolves rows later := hrows.imp fun _ _ h => h.1
  have distinct := h.distinct.forall₂ evolves
  refine ⟨distinct, h.one.forall₂ evolves, fun x' hx' y hy => ?_, fun x' hx' z' hz' hsome heq => ?_⟩
  · obtain ⟨x, hx, hxx, hkept | ⟨id, successor, hcall, hid, hnew⟩⟩ :=
      exists_mem_of_forall₂ hrows hx'
    · rw [hxx.id]
      exact (h.linked x hx y (hkept ▸ hy)).evolves (.of_forall₂ evolves)
    · rw [hnew] at hy
      cases hy
      rw [hxx.id, hid]
      exact (leads id y hcall).1.evolves (.of_forall₂ evolves)
  · -- the two rows are one, so they are one afterwards
    refine distinct.eq_of_id hx' hz' ?_
    obtain ⟨x, hx, hxx, hxlink⟩ := exists_mem_of_forall₂ hrows hx'
    obtain ⟨z, hz, hzz, hzlink⟩ := exists_mem_of_forall₂ hrows hz'
    rw [hxx.id, hzz.id]
    rcases hxlink with hxkept | ⟨id, successor, hcall, hxid, hxnew⟩ <;>
      rcases hzlink with hzkept | ⟨id', successor', hcall', hzid, hznew⟩
    · rw [hxkept] at hsome heq
      rw [hzkept] at heq
      rw [h.single x hx z hz hsome heq]
    · rw [hxkept, hznew] at heq
      exact absurd heq ((leads id' successor' hcall').2 x hx)
    · rw [hxnew, hzkept] at heq
      exact absurd heq.symm ((leads id successor hcall).2 z hz)
    · rw [hcall] at hcall'
      cases hcall'
      rw [hxid, hzid]

theorem append_new {new : Row} (h : rows.Forest) (fresh : rows.hasId new.id = false)
    (same : ∀ r ∈ rows, r.family = new.family → r.subject = new.subject)
    (unlinked : new.replacedBy = none) : Forest (rows ++ [new]) := by
  refine ⟨h.distinct.append_new fresh, h.one.append_new same, fun x hx y hy => ?_,
    fun x hx z hz hsome heq => ?_⟩
  · rcases List.mem_append.mp hx with hx | hx
    · exact (h.linked x hx y hy).evolves (evolves_append rows _)
    · rw [List.mem_singleton.mp hx, unlinked] at hy
      cases hy
  · rcases List.mem_append.mp hx with hx | hx
    · rcases List.mem_append.mp hz with hz | hz
      · exact h.single x hx z hz hsome heq
      · rw [heq, List.mem_singleton.mp hz, unlinked] at hsome
        cases hsome
    · rw [List.mem_singleton.mp hx, unlinked] at hsome
      cases hsome

end Table.Forest

/-! ## 3. Stages and the table -/

/-- **What a stage has to do with the table.** -/
def Stage.Grounded (rows : Table) : Stage → Prop
  | .holding row => ∃ x ∈ rows, x.id = row.id ∧ x.subject = row.subject ∧ x.family = row.family ∧
    x.consumedAt.isSome
  | .pending row new => rows.Leads row.id new.id ∧ ∀ w ∈ rows, w.replacedBy ≠ some new.id
  | _ => True

namespace Stage.Grounded

variable {rows later : Table} {st : Stage}

theorem relinks {call : StoreCall} (h : st.Grounded rows)
    (hrows : List.Forall₂ (Row.Relinks call) rows later)
    (apart : ∀ row new id successor, st = .pending row new → call = .link id successor →
      new.id ≠ successor) : st.Grounded later := by
  have evolves : rows.Evolves later := .of_forall₂ (hrows.imp fun _ _ h => h.1)
  cases st with
  | founding | idle | settled => exact trivial
  | holding row =>
    obtain ⟨x, hx, hid, hsubject, hfamily, hconsumed⟩ := h
    obtain ⟨x', hx', hxx⟩ := evolves.exists_mem hx
    exact ⟨x', hx', hxx.id.trans hid, hxx.subject.trans hsubject, hxx.family.trans hfamily,
      hxx.isSome_consumedAt hconsumed⟩
  | pending row new =>
    refine ⟨h.1.evolves evolves, fun w' hw' hlinked => ?_⟩
    obtain ⟨w, hw, -, hkept | ⟨id, successor, hcall, -, hnew⟩⟩ :=
      Table.exists_mem_of_forall₂ hrows hw'
    · exact h.2 w hw (hkept ▸ hlinked)
    · rw [hnew] at hlinked
      cases hlinked
      exact apart row new id _ rfl hcall rfl

theorem append_new {new : Row} (h : st.Grounded rows) (unlinked : new.replacedBy = none) :
    st.Grounded (rows ++ [new]) := by
  cases st with
  | founding | idle | settled => exact trivial
  | holding row =>
    obtain ⟨x, hx, hrest⟩ := h
    exact ⟨x, List.mem_append_left _ hx, hrest⟩
  | pending row new' =>
    refine ⟨h.1.evolves (Table.evolves_append rows _), fun w hw => ?_⟩
    rcases List.mem_append.mp hw with hw | hw
    · exact h.2 w hw
    · simp [List.mem_singleton.mp hw, unlinked]

end Stage.Grounded

/-- **The invariant**: a forest, the operations that are still at it, and for every pending
    successor one operation only. -/
structure Growing (stages : Nat → Stage) (rows : Table) : Prop extends Table.Forest rows where
  grounded : ∀ n, (stages n).Grounded rows
  apart : ∀ m n row new row' new', stages m = .pending row new → stages n = .pending row' new' →
    new.id = new'.id → m = n

namespace Growing

variable {stages : Nat → Stage} {rows later : Table}

theorem relinks {call : StoreCall} (h : Growing stages rows)
    (hrows : List.Forall₂ (Row.Relinks call) rows later)
    (leads : ∀ id successor, call = .link id successor →
      rows.Leads id successor ∧ ∀ w ∈ rows, w.replacedBy ≠ some successor)
    (apart : ∀ n row new id successor, stages n = .pending row new → call = .link id successor →
      new.id ≠ successor) : Growing stages later :=
  { h.toForest.relinks hrows leads with
    grounded := fun n => (h.grounded n).relinks hrows (apart n)
    apart := h.apart }

theorem append_new {new : Row} (h : Growing stages rows) (fresh : rows.hasId new.id = false)
    (same : ∀ r ∈ rows, r.family = new.family → r.subject = new.subject)
    (unlinked : new.replacedBy = none) : Growing stages (rows ++ [new]) :=
  { h.toForest.append_new fresh same unlinked with
    grounded := fun n => (h.grounded n).append_new unlinked
    apart := h.apart }

/-- One operation goes on to a stage that is grounded. -/
theorem update {st : Stage} (h : Growing stages rows) (n : Nat) (grounded : st.Grounded rows)
    (apart : ∀ row new, st = .pending row new → ∀ m row' new', stages m = .pending row' new' →
      new'.id ≠ new.id) : Growing (Function.update stages n st) rows := by
  refine ⟨h.toForest, fun m => ?_, fun m m' row new row' new' hm hm' heq => ?_⟩
  · by_cases hmn : m = n
    · rw [hmn, Function.update_self]
      exact grounded
    · rw [Function.update_of_ne hmn]
      exact h.grounded m
  · by_cases hmn : m = n <;> by_cases hmn' : m' = n
    · rw [hmn, hmn']
    · rw [hmn, Function.update_self] at hm
      rw [Function.update_of_ne hmn'] at hm'
      exact absurd heq.symm (apart row new hm m' row' new' hm')
    · rw [hmn', Function.update_self] at hm'
      rw [Function.update_of_ne hmn] at hm
      exact absurd heq (apart row' new' hm' m row new hm)
    · rw [Function.update_of_ne hmn] at hm
      rw [Function.update_of_ne hmn'] at hm'
      exact h.apart m m' row new row' new' hm hm' heq

/-- An empty table, and nobody has begun. -/
theorem of_empty {login : Nat → Bool} (empty : rows = []) (h : ∀ n,
    stages n = .founding ∧ login n ∨ stages n = .idle ∨ stages n = .settled) :
    Growing stages rows := by
  subst empty
  refine { Table.Forest.nil with grounded := fun n => ?_, apart := fun m n row new _ _ hm => ?_ }
  · rcases h n with ⟨hst, -⟩ | hst | hst <;> rw [hst] <;> exact trivial
  · rcases h m with ⟨hst, -⟩ | hst | hst <;> rw [hst] at hm <;> cases hm

theorem settle (h : Growing stages rows) (n : Nat) :
    Growing (Function.update stages n .settled) rows :=
  h.update n trivial fun _ _ heq => by cases heq

theorem hold {row x : Row} (h : Growing stages rows) (n : Nat) (hx : x ∈ rows) (id : x.id = row.id)
    (subject : x.subject = row.subject) (family : x.family = row.family)
    (consumed : x.consumedAt.isSome) : Growing (Function.update stages n (.holding row)) rows :=
  h.update n ⟨x, hx, id, subject, family, consumed⟩ fun _ _ heq => by cases heq

end Growing

/-! ## 4. Deeds -/

/-- What the deed added has an identifier that no row had, and what a login added is of a family
    that no row had. -/
def Deed.isFresh (login : Bool) (d : Deed) : Bool :=
  d.inserted?.all fun new =>
    !d.before.hasId new.id && (!login || d.before.all fun r => r.family ≠ new.family)

theorem StoreKind.keepRow_id (k : StoreKind) (r : Row) : (k.keepRow r).id = r.id := by
  cases k <;> rfl

theorem StoreKind.keepRow_replacedBy (k : StoreKind) (t : NewToken) :
    (k.keepRow t.row).replacedBy = none := by
  cases k <;> rfl

namespace Growing

variable {k : StoreKind} {stages : Nat → Stage}

/-- Who may add a row adds it to the family of the row that it holds, or founds one. -/
theorem insert {before : Table} {token : NewToken} {actor : Nat} {login : Bool}
    (h : Growing stages before) (allowed : (stages actor).Allows (.insert token))
    (logins : stages actor = .founding → login) (freshId : before.hasId token.id = false)
    (freshFamily : login → ∀ r ∈ before, r.family ≠ token.family) :
    Growing (Function.update stages actor ((stages actor).added (k.keepRow token.row)))
      (before ++ [k.keepRow token.row]) := by
  have hfresh : before.hasId (k.keepRow token.row).id = false := by
    rw [k.keepRow_id]
    exact freshId
  have unlinked := k.keepRow_replacedBy token
  have grounded := h.grounded actor
  cases hstage : stages actor with
  | idle | pending | settled =>
    rw [hstage] at allowed
    exact allowed.elim
  | founding =>
    have hnew := h.append_new hfresh (fun r hr heq => absurd (heq.trans (k.keepRow_family _))
      (freshFamily (logins hstage) r hr)) unlinked
    exact hnew.settle actor
  | holding row =>
    rw [hstage] at allowed grounded
    obtain ⟨hsubject, hfamily⟩ := allowed
    obtain ⟨x, hx, hxid, hxsubject, hxfamily, hconsumed⟩ := grounded
    have family : (k.keepRow token.row).family = x.family :=
      (k.keepRow_family _).trans (hfamily.trans hxfamily.symm)
    have subject : (k.keepRow token.row).subject = x.subject :=
      (k.keepRow_subject _).trans (hsubject.trans hxsubject.symm)
    have hnew := h.append_new hfresh (fun r hr heq =>
      (h.one r hr x hx (heq.trans family)).trans subject.symm) unlinked
    have absent := Table.hasId_eq_false_iff.mp hfresh
    refine hnew.update actor ⟨hxid ▸ Table.leads_append_new hx hconsumed family subject,
      fun w hw hlinked => ?_⟩ fun row' new hpending m row'' new' hm => ?_
    · -- a link to the new row would have found a row with its identifier
      rcases List.mem_append.mp hw with hw | hw
      · obtain ⟨z, hz, hzid⟩ := (h.linked w hw _ hlinked).exists_successor
        exact absent z hz hzid
      · rw [List.mem_singleton.mp hw, unlinked] at hlinked
        cases hlinked
    · cases hpending
      have other := h.grounded m
      rw [hm] at other
      obtain ⟨z, hz, hzid⟩ := other.1.exists_successor
      exact fun heq => absent z hz (hzid.trans heq)

/-- Who may make a link makes it to the row that it added. -/
theorem link {before : Table} {id successor : Uuid} {actor : Nat} (h : Growing stages before)
    (allowed : (stages actor).Allows (.link id successor)) :
    Growing (Function.update stages actor .settled)
      (k.change (Row.unlinked id) (fun r => { r with replacedBy := some successor }) before) := by
  have grounded := h.grounded actor
  cases hstage : stages actor with
  | founding | idle | holding | settled =>
    rw [hstage] at allowed
    exact allowed.elim
  | pending row new =>
    rw [hstage] at allowed grounded
    obtain ⟨rfl, rfl⟩ := allowed
    have hrows : List.Forall₂ (Row.Relinks (.link row.id new.id)) before
        (k.change (Row.unlinked row.id) (fun r => { r with replacedBy := some new.id })
          before) := by
      refine k.forall₂_change (fun r => ⟨Row.Evolves.refl r, .inl rfl⟩) (fun r hr => ?_) before
      obtain ⟨hid, hnone⟩ : r.id = row.id ∧ r.replacedBy = none := by
        simpa [Row.unlinked] using hr
      exact ⟨Row.evolves_link hnone _, .inr ⟨_, _, rfl, hid, rfl⟩⟩
    refine (h.settle actor).relinks hrows (fun id successor hcall => ?_)
      fun m row' new' id successor hm hcall heq => ?_
    · cases hcall
      exact grounded
    · cases hcall
      by_cases hactor : m = actor
      · rw [hactor, Function.update_self] at hm
        cases hm
      · rw [Function.update_of_ne hactor] at hm
        exact hactor (h.apart m actor _ _ _ _ hm hstage heq)

/-- **Every deed that is allowed keeps the invariant.** -/
theorem deed {d : Deed} {login : Bool} (h : Growing stages d.before) (lawful : d.Lawful k)
    (allowed : (stages d.actor).Allows d.call) (logins : stages d.actor = .founding → login)
    (fresh : d.isFresh login) :
    Growing (Function.update stages d.actor ((stages d.actor).told d)) d.after := by
  obtain ⟨actor, before, call, outcome, after⟩ := d
  change Settled k before call outcome after at lawful
  cases lawful with
  | kept hnot =>
    rw [Stage.told_of_not_done hnot, Function.update_eq_self]
    exact h
  | @carried answer _ hc =>
    change Growing (Function.update stages actor ((stages actor).hear call answer)) after
    have keep (adds : ∀ token, call ≠ .insert token) (links : ∀ id successor,
        call ≠ .link id successor) : Growing stages after :=
      h.relinks (hc.relinks adds) (fun id successor hcall => absurd hcall (links id successor))
        fun _ _ _ id successor _ hcall => absurd hcall (links id successor)
    -- what accepts nothing leaves the stage as it is
    have stay (adds : ∀ token, call ≠ .insert token) (links : ∀ id successor,
        call ≠ .link id successor) (hstage : (stages actor).hear call answer = stages actor) :
        Growing (Function.update stages actor ((stages actor).hear call answer)) after := by
      rw [hstage, Function.update_eq_self]
      exact keep adds links
    cases hc with
    | unknown | refused | reuse | revokeFamily | revokeSubject | getByHash | listFamily =>
      exact stay (by simp) (by simp) rfl
    | @first hash clock policy row now c g found shown verdict =>
      have found' := k.byHash?_change_presented
        (fun r => (r.evolves_stamp (k.keep c) (k.keep g)).hash) found
      have hanswer := row.evolves_stamp c g
      have hkept := row.evolves_stamp (k.keep c) (k.keep g)
      obtain ⟨-, -, unused, -⟩ := Row.judge_eq_firstUse_iff.mp verdict
      have hconsumed : (row.stamp (k.keep c) (k.keep g)).consumedAt.isSome := by
        simp [Row.stamp, unused]
      exact (keep (by simp) (by simp)).hold actor (Table.mem_of_byHash? found')
        (hkept.id.trans hanswer.id.symm) (hkept.subject.trans hanswer.subject.symm)
        (hkept.family.trans hanswer.family.symm) hconsumed
    | @grace hash clock policy row now found shown verdict =>
      obtain ⟨-, -, hconsumed, -⟩ := Row.judge_eq_withinGrace_iff.mp verdict
      exact h.hold actor (Table.mem_of_byHash? found) rfl rfl rfl hconsumed
    | @insert token _ =>
      have hfresh : before.hasId (k.keepRow token.row).id = false ∧
          (login = true → ∀ r ∈ before, r.family ≠ (k.keepRow token.row).family) := by
        simpa [Deed.isFresh, Deed.inserted?, ← Bool.not_eq_true, imp_iff_not_or] using fresh
      rw [k.keepRow_id, k.keepRow_family] at hfresh
      exact h.insert allowed logins hfresh.1 hfresh.2
    | link => exact h.link allowed

end Growing

/-- **Whatever is done by operations that follow their stages**, the invariant holds in the end. -/
theorem History.growing {k : StoreKind} {rows after : Table} {deeds : List Deed}
    {stages : Nat → Stage} {login : Nat → Bool} (h : History k rows deeds after)
    (start : Growing stages rows)
    (follows : ∀ n, (stages n).Follows (deeds.filter fun d => d.actor = n))
    (logins : ∀ n, stages n = .founding → login n)
    (fresh : ∀ d ∈ deeds, d.isFresh (login d.actor)) : ∃ stages', Growing stages' after := by
  induction h generalizing stages with
  | nil => exact ⟨stages, start⟩
  | @cons d rest after lawful _ ih =>
    have hactor := follows d.actor
    rw [List.filter_cons_of_pos (by simp)] at hactor
    have hdeed := start.deed lawful hactor.1 (logins d.actor) (fresh d List.mem_cons_self)
    refine ih hdeed (fun n => ?_) (fun n hn => ?_) fun e he => fresh e (List.mem_cons_of_mem d he)
    · by_cases hnd : n = d.actor
      · rw [hnd, Function.update_self]
        exact hactor.2
      · rw [Function.update_of_ne hnd]
        have hother := follows n
        rwa [List.filter_cons_of_neg (by simpa using Ne.symm hnd)] at hother
    · by_cases hnd : n = d.actor
      · rw [hnd, Function.update_self] at hn
        exact hnd ▸ logins d.actor (Stage.founding_of_told hn)
      · rw [Function.update_of_ne hnd] at hn
        exact logins n hn

/-! ## 5. Schedules -/

namespace Pool

/-- The call with a number is a login. -/
def isLogin (jobs : List (Session.Work × Clock)) (i : Nat) : Bool :=
  jobs[i]?.any fun job => job.1.isLogin

/-- Nobody begins at the stage of a rotation, and only logins begin at that of a login. -/
theorem stagesOf_cases (jobs : List (Session.Work × Clock)) (i : Nat) :
    stagesOf jobs i = .founding ∧ isLogin jobs i ∨ stagesOf jobs i = .idle ∨
      stagesOf jobs i = .settled := by
  unfold stagesOf isLogin
  cases jobs[i]? with
  | none => exact .inr (.inr rfl)
  | some job =>
    rcases job.1.stage_cases with ⟨hst, hlogin⟩ | ⟨hst, -⟩
    · exact .inl ⟨hst, hlogin⟩
    · exact .inr (.inl hst)

theorem isLogin_of_founding {jobs : List (Session.Work × Clock)} {i : Nat}
    (h : stagesOf jobs i = .founding) : isLogin jobs i := by
  rcases stagesOf_cases jobs i with ⟨-, hlogin⟩ | hst | hst
  · exact hlogin
  · rw [h] at hst
    cases hst
  · rw [h] at hst
    cases hst

/-- **Under every schedule families are trees and links are a forest**, beginning with an empty
    table: for any number of logins, rotations and other calls, on a store of either kind, with any
    faults, where every row that is added has an identifier that no row has, and every login a
    family that no row has. -/
theorem forest (settings : Settings) (world : Program.World AnyStore)
    (empty : world.store.rows = []) (jobs : List (Session.Work × Clock))
    (orderly : ∀ job ∈ jobs, job.1.isOrderly) (schedule : List Nat)
    (fresh : ∀ d ∈ (begin settings world jobs).deeds schedule, d.isFresh (isLogin jobs d.actor)) :
    let rows := ((begin settings world jobs).run schedule).rows
    rows.Forest ∧ (∀ x, ¬ Relation.TransGen rows.Linked x x) ∧
      ∀ x ∈ rows, ∃ z ∈ rows, Relation.ReflTransGen rows.Linked x z ∧ z.replacedBy = none := by
  intro rows
  have start : Growing (stagesOf jobs) (begin settings world jobs).rows :=
    .of_empty empty (stagesOf_cases jobs)
  obtain ⟨stages, growing⟩ := ((begin settings world jobs).history schedule).growing start
    (fun n => Pool.follows (abide_begin settings world orderly) schedule n)
    (fun n => isLogin_of_founding) fresh
  exact ⟨growing.toForest, growing.acyclic, fun x hx => growing.ends hx⟩

/-- A login, and two rotations of its token at once. -/
def duplicateJobs : List (Session.Work × Clock) :=
  [(.issue "alice" none, .fixed Session.sampleInstant),
    (.rotate (Secret.ofNat 1).token, .fixed Session.sampleInstant),
    (.rotate (Secret.ofNat 1).token, .fixed Session.sampleInstant)]

/-- The login comes first; then both rotations have the token accepted, the first adds its successor
    before the second does, and the second makes its link before the first does. -/
def duplicateSchedule : List Nat :=
  [0, 0, 0, 0, 0, 0, 1, 1, 1, 2, 2, 2, 1, 1, 1, 1, 1, 2, 2, 2, 2, 2, 2, 1, 1]

/-- **A token is rotated twice at once**: it has two successors of one family, and is linked to the
    one that was added last. -/
theorem forest_of_duplicates :
    let world : Program.World AnyStore := { store := .memoryOf [], draws := .ofLists [] [] }
    let rows := ((begin (.trial .default) world duplicateJobs).run duplicateSchedule).rows
    rows.Forest ∧ rows.map (fun r => rows.findIdx? fun z => r.replacedBy = some z.id) =
      [some 2, none, none] :=
  ⟨(forest _ _ rfl duplicateJobs (by decide) duplicateSchedule (by decide +kernel)).1,
    by decide +kernel⟩

end Pool

end TokenRotation

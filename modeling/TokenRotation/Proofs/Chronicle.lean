import Mathlib.Data.List.NodupEquivFin
import TokenRotation.Proofs.Confinement
import TokenRotation.Proofs.Constraints
import TokenRotation.Proofs.Forest
import TokenRotation.Proofs.Listing

/-!
# Families in the order of creation

By clocks that do not go back, the rows of a table stand in the order of their creation. A rotation
links its row to one that it added after it, so that a family is listed with every row before its
successor, whatever failed on the way and however many successors a token got in its grace window.

A link that is asked for on its own can be made between any two rows. The order stands as long as
none leads back; a family whose last row was linked to the one before it is listed with a successor
first.

* `Table.Forward` -- a link that does not lead back;
* `Table.InOrder.deeds` -- the deeds of an operation keep rows in the order of creation;
* `History.exists_link` -- every link was made by a deed;
* `Session.leads_of_link` -- what a deed of a rotation links was added in that order;
* `Session.chronicles` -- **how families are listed**, from every table and in every run.
-/

namespace TokenRotation

/-! ## 1. Links that lead on -/

namespace Table

variable {rows later : Table}

/-- **A link from the one identifier to the other does not lead back**: a row that it can be made
    from is none of its family that has the other identifier, and stands before all of them. -/
def Forward (rows : Table) (id successor : Uuid) : Prop :=
  (∀ x ∈ rows, x.unlinked id → x.id ≠ successor) ∧
    rows.Pairwise fun z x => x.unlinked id → z.id = successor → z.family ≠ x.family

instance (rows : Table) (id successor : Uuid) : Decidable (rows.Forward id successor) :=
  inferInstanceAs (Decidable (_ ∧ _))

theorem Forward.lt {id successor : Uuid} (h : rows.Forward id successor) {i j : Nat} {x z : Row}
    (hx : rows[i]? = some x) (hz : rows[j]? = some z) (unlinked : x.unlinked id)
    (named : z.id = successor) (family : z.family = x.family) : i < j := by
  obtain ⟨hi, rfl⟩ := List.getElem?_eq_some_iff.mp hx
  obtain ⟨hj, rfl⟩ := List.getElem?_eq_some_iff.mp hz
  rcases Nat.lt_trichotomy i j with hij | rfl | hji
  · exact hij
  · exact absurd named (h.1 _ (List.getElem_mem hi) unlinked)
  · exact absurd family (List.pairwise_iff_getElem.mp h.2 j i hj hi hji unlinked named)

/-- **A link stays in a family**: the other identifier is that of a row of the family of the row
    that it can be made from. -/
def Within (rows : Table) (id successor : Uuid) : Prop :=
  ∀ x ∈ rows, x.unlinked id → ∃ z ∈ rows, z.id = successor ∧ z.family = x.family

instance (rows : Table) (id successor : Uuid) : Decidable (rows.Within id successor) :=
  inferInstanceAs (Decidable (∀ x ∈ rows, _ → _))

/-- **Every row stands before its successor**, if that is of its family. -/
def Onward (rows : Table) : Prop := ∀ (i j : Nat) (x z : Row), rows[i]? = some x →
  rows[j]? = some z → x.replacedBy = some z.id → z.family = x.family → i < j

/-- What is left of a table stands as it stood. -/
theorem Onward.sublist (h : rows.Onward) (left : later.Sublist rows) : later.Onward := by
  obtain ⟨place, hplace⟩ := List.sublist_iff_exists_orderEmbedding_getElem?_eq.mp left
  intro i j x z hx hz linked family
  rw [hplace] at hx hz
  exact place.lt_iff_lt.mp (h _ _ x z hx hz linked family)

/-- What became of the rows came from the row at its place. -/
theorem exists_getElem?_of_forall₂ {R : Row → Row → Prop} (h : List.Forall₂ R rows later) {i : Nat}
    {s : Row} (hs : later[i]? = some s) : ∃ r, rows[i]? = some r ∧ R r s := by
  obtain ⟨hi, rfl⟩ := List.getElem?_eq_some_iff.mp hs
  have hi' : i < rows.length := h.length_eq ▸ hi
  exact ⟨rows[i], List.getElem?_eq_getElem hi', h.get hi' hi⟩

end Table

/-! ## 2. The order of creation -/

/-- The one clock shows no instant after one that the other shows. -/
def Clock.NotAfter (clock later : Clock) : Prop :=
  ∀ t ∈ clock.now.toOption, ∀ u ∈ later.now.toOption, t ≤ u

instance (clock later : Clock) : Decidable (clock.NotAfter later) :=
  inferInstanceAs (Decidable (∀ t ∈ _, ∀ u ∈ _, t ≤ u))

theorem StoreKind.keep_mono (k : StoreKind) {t u : Instant} (h : t ≤ u) : k.keep t ≤ k.keep u := by
  cases k with
  | memory => exact h
  | durable => exact Instant.stored_mono h

theorem Table.map_createdAt_of_forall₂ {rows later : Table}
    (h : List.Forall₂ Row.Evolves rows later) :
    later.map Row.createdAt = rows.map Row.createdAt := by
  induction h with
  | nil => rfl
  | cons h _ ih => simp only [List.map_cons, h.createdAt, ih]

/-- **The rows stand in the order of creation**, and none was created after what the clocks will
    show. -/
structure Table.InOrder (k : StoreKind) (clocks : List Clock) (rows : Table) : Prop where
  sorted : (rows.map Row.createdAt).Pairwise (· ≤ ·)
  past : ∀ created ∈ rows.map Row.createdAt, ∀ clock ∈ clocks, ∀ t ∈ clock.now.toOption,
    created ≤ k.keep t

namespace Table.InOrder

variable {k : StoreKind} {clocks : List Clock} {rows later : Table}

theorem evolves (h : rows.InOrder k clocks) (hrows : List.Forall₂ Row.Evolves rows later) :
    later.InOrder k clocks := by
  have same := map_createdAt_of_forall₂ hrows
  exact ⟨same ▸ h.sorted, same ▸ h.past⟩

/-- A row that is created by the next clock stands in order. -/
theorem append_new {clock : Clock} {rest : List Clock} (h : rows.InOrder k (clock :: rest))
    (timely : ∀ c ∈ rest, clock.NotAfter c) {new : Row} {now : Instant}
    (shown : clock.now = .ok now) (created : new.createdAt = k.keep now) :
    InOrder k (clock :: rest) (rows ++ [new]) := by
  have shown' : now ∈ clock.now.toOption := by
    rw [shown]
    rfl
  constructor
  · rw [List.map_append, List.pairwise_append]
    refine ⟨h.sorted, List.pairwise_singleton _ _, fun t ht u hu => ?_⟩
    rw [List.map_singleton, List.mem_singleton] at hu
    rw [hu, created]
    exact h.past t ht clock List.mem_cons_self now shown'
  · intro t ht c hc u hu
    rw [List.map_append, List.map_singleton, List.mem_append, List.mem_singleton] at ht
    rcases ht with ht | rfl
    · exact h.past t ht c hc u hu
    · rw [created]
      rcases List.mem_cons.mp hc with rfl | hc
      · rw [shown] at hu
        cases hu
        exact Int.le_refl _
      · exact k.keep_mono (timely c hc now shown' u hu)

/-- Two rows of the table were created as they stand. -/
theorem le (h : rows.InOrder k clocks) {i j : Nat} {x z : Row} (hij : i < j)
    (hx : rows[i]? = some x) (hz : rows[j]? = some z) : x.createdAt ≤ z.createdAt := by
  obtain ⟨hi, rfl⟩ := List.getElem?_eq_some_iff.mp hx
  obtain ⟨hj, rfl⟩ := List.getElem?_eq_some_iff.mp hz
  exact List.pairwise_iff_getElem.mp (List.pairwise_map.mp h.sorted) i j hi hj hij

/-- **Deeds that go by one clock** keep the rows in order. -/
theorem deeds {policy : Policy} {clock : Clock} {rest : List Clock} {after : Table}
    {deeds : List Deed} (h : rows.InOrder k (clock :: rest))
    (timely : ∀ c ∈ rest, clock.NotAfter c) (history : History k rows deeds after)
    (goes : ∀ d ∈ deeds, d.call.GoesBy policy clock) : after.InOrder k (clock :: rest) := by
  induction history with
  | nil => exact h
  | @cons d more after lawful _ ih =>
    refine ih ?_ fun e he => goes e (List.mem_cons_of_mem d he)
    rcases lawful.adds_or_evolves with ⟨token, hcall, -, -, hafter⟩ | ⟨-, hrows⟩
    · have hgoes := goes d List.mem_cons_self
      rw [hcall] at hgoes
      rw [hafter]
      exact h.append_new timely hgoes.1 (k.keepRow_createdAt token.row)
    · exact h.evolves hrows

end Table.InOrder

/-! ## 3. Where links come from -/

/-- **A link was there before a deed, or the deed made it** from a row that had none. -/
theorem Deed.Lawful.linked_before {k : StoreKind} {d : Deed} (lawful : d.Lawful k) {i : Nat}
    {x : Row} {y : Uuid} (hx : d.after[i]? = some x) (linked : x.replacedBy = some y) :
    (∃ w, d.before[i]? = some w ∧ w.replacedBy = some y) ∨
      ∃ w, d.before[i]? = some w ∧ w.replacedBy = none ∧ d.call = .link w.id y := by
  obtain ⟨actor, before, call, outcome, after⟩ := d
  change Settled k before call outcome after at lawful
  change after[i]? = some x at hx
  change (∃ w, before[i]? = some w ∧ _) ∨ ∃ w, before[i]? = some w ∧ _ ∧ call = _
  cases lawful with
  | kept => exact .inl ⟨x, hx, linked⟩
  | carried hc =>
    by_cases adds : ∀ token, call ≠ .insert token
    · obtain ⟨w, hw, hwx, hkept | ⟨id, successor, hcall, hid, hnew⟩⟩ :=
        Table.exists_getElem?_of_forall₂ (hc.relinks adds) hx
      · exact .inl ⟨w, hw, hkept ▸ linked⟩
      · rw [hnew] at linked
        cases linked
        cases hwy : w.replacedBy with
        | none => exact .inr ⟨w, hw, hwy, hid ▸ hcall⟩
        | some z =>
          rw [hwx.replaced (by rw [hwy]; rfl), hwy] at hnew
          exact .inl ⟨w, hw, hwy.trans hnew⟩
    · simp only [not_forall, not_not] at adds
      obtain ⟨token, rfl⟩ := adds
      cases hc with
      | insert =>
        rcases Nat.lt_or_ge i before.length with hi | hi
        · rw [List.getElem?_append_left hi] at hx
          exact .inl ⟨x, hx, linked⟩
        · -- a row that was just added has no successor
          rw [List.getElem?_append_right hi] at hx
          obtain rfl := List.mem_singleton.mp (List.mem_of_getElem? hx)
          rw [k.keepRow_replacedBy] at linked
          cases linked

/-- **Every link was made by a deed**, if it was not there in the beginning. -/
theorem History.exists_link {k : StoreKind} {rows after : Table} {deeds : List Deed}
    (h : History k rows deeds after) {i : Nat} {x : Row} {y : Uuid} (hx : after[i]? = some x)
    (linked : x.replacedBy = some y) :
    (∃ w, rows[i]? = some w ∧ w.replacedBy = some y) ∨
      ∃ front d back w, deeds = front ++ d :: back ∧ d.before[i]? = some w ∧
        w.replacedBy = none ∧ d.call = .link w.id y := by
  induction h with
  | nil => exact .inl ⟨x, hx, linked⟩
  | @cons d rest after lawful _ ih =>
    rcases ih hx with ⟨w, hw, hwy⟩ | ⟨front, e, back, w, rfl, hlink⟩
    · rcases lawful.linked_before hw hwy with before | ⟨v, hlink⟩
      · exact .inl before
      · exact .inr ⟨[], d, rest, v, rfl, hlink⟩
    · exact .inr ⟨d :: front, e, back, w, rfl, hlink⟩

/-- Identifiers stay distinct where every row is added under one that no row has. -/
theorem History.idsDistinct_of_new {k : StoreKind} {rows after : Table} {deeds : List Deed}
    (h : History k rows deeds after) (ids : rows.IdsDistinct)
    (new : ∀ d ∈ deeds, d.call.IsNew d.before) : after.IdsDistinct := by
  induction h with
  | nil => exact ids
  | @cons d rest after lawful _ ih =>
    exact ih (Settled.idsDistinct lawful ids (new d List.mem_cons_self))
      fun e he => new e (List.mem_cons_of_mem d he)

/-- **What a stage says of the table**: the row that is held was consumed, and one that is pending
    is led to. -/
def Stage.Leading (rows : Table) : Stage → Prop
  | .holding row => ∃ x ∈ rows, x.id = row.id ∧ x.subject = row.subject ∧ x.family = row.family ∧
    x.consumedAt.isSome
  | .pending row new => rows.Leads row.id new.id
  | _ => True

namespace Stage.Leading

variable {k : StoreKind} {rows later : Table} {st : Stage}

theorem evolves (h : st.Leading rows) (hrows : rows.Evolves later) : st.Leading later := by
  cases st with
  | founding | idle | settled => exact trivial
  | holding row =>
    obtain ⟨x, hx, hid, hsubject, hfamily, consumed⟩ := h
    obtain ⟨x', hx', hxx⟩ := hrows.exists_mem hx
    exact ⟨x', hx', hxx.id.trans hid, hxx.subject.trans hsubject, hxx.family.trans hfamily,
      hxx.isSome_consumedAt consumed⟩
  | pending row new => exact Table.Leads.evolves h hrows

/-- Whoever adds a row in a family that it holds a row of has it led to. -/
theorem added (h : st.Leading rows) {token : NewToken} (allowed : st.Allows (.insert token)) :
    (st.added (k.keepRow token.row)).Leading (rows ++ [k.keepRow token.row]) := by
  cases st with
  | founding | idle | pending | settled => exact trivial
  | holding row =>
    obtain ⟨x, hx, hid, hsubject, hfamily, consumed⟩ := h
    have leads : Table.Leads (rows ++ [k.keepRow token.row]) x.id (k.keepRow token.row).id :=
      Table.leads_append_new hx consumed
        ((k.keepRow_family _).trans (allowed.2.trans hfamily.symm))
        ((k.keepRow_subject _).trans (allowed.1.trans hsubject.symm))
    rw [hid] at leads
    exact leads

/-- **Every deed leads to a stage** that says the truth of the table after it. -/
theorem told {d : Deed} (h : st.Leading d.before) (lawful : d.Lawful k)
    (allowed : st.Allows d.call) : (st.told d).Leading d.after := by
  obtain ⟨actor, before, call, outcome, after⟩ := d
  change Settled k before call outcome after at lawful
  cases lawful with
  | kept hnot =>
    rw [told_of_not_done hnot]
    exact h
  | @carried answer _ hc =>
    have stay : st.Leading after := h.evolves hc.evolves
    change (st.hear call answer).Leading after
    cases hc with
    | unknown | refused | reuse | revokeFamily | revokeSubject | getByHash | listFamily =>
      exact stay
    | link => exact trivial
    | insert => exact h.added allowed
    | @grace hash clock policy row now found shown verdict =>
      obtain ⟨-, -, used, -⟩ := Row.judge_eq_withinGrace_iff.mp verdict
      exact ⟨row, Table.mem_of_byHash? found, rfl, rfl, rfl, used⟩
    | @first hash clock policy row now c g found shown verdict =>
      obtain ⟨-, -, unused, -⟩ := Row.judge_eq_firstUse_iff.mp verdict
      have hrow := Table.mem_of_byHash? (k.byHash?_change_presented
        (fun r => (r.evolves_stamp (k.keep c) (k.keep g)).hash) found)
      have hkept := row.evolves_stamp (k.keep c) (k.keep g)
      have hanswer := row.evolves_stamp c g
      exact ⟨_, hrow, hkept.id.trans hanswer.id.symm, hkept.subject.trans hanswer.subject.symm,
        hkept.family.trans hanswer.family.symm, by simp [Row.stamp, unused]⟩

/-- **An operation links a row to one that was added after it**, of its family and subject. -/
theorem leads_of_link {after : Table} {deeds : List Deed} (h : st.Leading rows)
    (history : History k rows deeds after) (follows : st.Follows deeds) :
    ∀ d ∈ deeds, ∀ id y, d.call = .link id y → d.before.Leads id y := by
  induction history generalizing st with
  | nil => exact fun d hd => absurd hd List.not_mem_nil
  | @cons d rest after lawful _ ih =>
    obtain ⟨allowed, hrest⟩ := follows
    intro e he id y hcall
    rcases List.mem_cons.mp he with rfl | he
    · rw [hcall] at allowed
      cases st with
      | founding | idle | holding | settled => exact allowed.elim
      | pending row new =>
        obtain ⟨rfl, rfl⟩ := allowed
        exact h
    · exact ih (h.told lawful allowed) hrest e he id y hcall

end Stage.Leading

/-! ## 4. Runs -/

/-- A program that makes one call and tells its answer does one deed. -/
theorem Program.deeds_store_map {σ β : Type} [TokenStore σ] (call : StoreCall)
    (f : call.Answer → β) (actor : Nat) (w : World σ) :
    (store call >>= fun a => pure (f a)).deeds actor w = observed actor w (.store call) := by
  have once : (store call).deeds actor w = observed actor w (.store call) := by
    rcases hanswer : answer w (.store call) with ⟨cause | reply, w'⟩
    · simp only [store, deeds, hanswer, List.append_nil]
    · cases reply with
      | ok | error => simp only [store, deeds, hanswer, pure, fail, List.append_nil]
  rw [deeds_bind, once]
  rcases (store call).run w with ⟨a | e | cause, w'⟩ <;> exact List.append_nil _

namespace Session

open Program Store

variable {s : Session} {step : Step}

/-- The step is an operation as a whole, a link among them: it does not call the store past the
    services. -/
def Step.isWhole (step : Step) : Bool :=
  match step.command with
  | .work (.call _) => false
  | _ => true

/-- The link that the step asks for on its own. -/
def Step.link? (step : Step) : Option (Uuid × Uuid) :=
  match step.command with
  | .work (.link id successor) => some (id, successor)
  | _ => none

theorem Step.isUseCase_or_link (h : step.isWhole) :
    step.isUseCase ∨ ∃ id y, step.command = .work (.link id y) ∧ step.link? = some (id, y) := by
  unfold isWhole at h
  unfold isUseCase link?
  cases hcommand : step.command with
  | isEmpty | failInserts => exact .inl rfl
  | work work =>
    rw [hcommand] at h
    cases work with
    | call c => cases h
    | link id y => exact .inr ⟨id, y, rfl, rfl⟩
    | _ => exact .inl rfl

/-- A link that is asked for on its own is one deed, on the table that the step meets. -/
theorem stepDeeds_of_link {id y : Uuid} (asked : step.command = .work (.link id y)) (actor : Nat) :
    ∀ d ∈ s.stepDeeds actor step, d.before = s.store.rows ∧ d.call = .link id y := by
  have hdeeds : s.stepDeeds actor step = observed actor (s.world step) (.store (.link id y)) := by
    unfold stepDeeds
    rw [asked]
    exact deeds_store_map (.link id y) Value.flag actor (s.world step)
  intro d hd
  rw [hdeeds] at hd
  rw [List.mem_singleton.mp hd]
  exact ⟨AnyStore.rows_withFaults _ _, rfl⟩

theorem goes_of_whole (whole : step.isWhole) (actor : Nat) :
    ∀ d ∈ s.stepDeeds actor step, d.call.GoesBy s.settings.policy step.clock := by
  intro d hd
  rcases Step.isUseCase_or_link whole with asked | ⟨id, y, asked, -⟩
  · exact (s.useCase_stepDeeds actor asked).1 d hd
  · rw [(stepDeeds_of_link asked actor d hd).2]
    exact trivial

/-- **Every link that is asked for on its own is such a link** in the table that it meets. -/
def Joins (P : Table → Uuid → Uuid → Prop) : Session → List Step → Prop
  | _, [] => True
  | s, step :: rest =>
    (∀ link ∈ step.link?, P s.store.rows link.1 link.2) ∧ (s.take step).2.Joins P rest

instance decidableJoins {P : Table → Uuid → Uuid → Prop} [∀ rows id y, Decidable (P rows id y)] :
    (s : Session) → (steps : List Step) → Decidable (s.Joins P steps)
  | _, [] => isTrue trivial
  | s, step :: rest =>
    have := decidableJoins (P := P) (s.take step).2 rest
    inferInstanceAs (Decidable ((∀ link ∈ step.link?, P s.store.rows link.1 link.2) ∧ _))

/-- **A deed links as a rotation does**, or was asked for as a link. -/
theorem leads_of_link {P : Table → Uuid → Uuid → Prop} {steps : List Step} (number : Nat)
    (whole : ∀ step ∈ steps, step.isWhole) (joins : s.Joins P steps) :
    ∀ d ∈ s.deeds number steps, ∀ id y, d.call = .link id y →
      d.before.Leads id y ∨ P d.before id y := by
  induction steps generalizing s number with
  | nil => exact fun d hd => absurd hd List.not_mem_nil
  | cons step rest ih =>
    intro d hd id y hcall
    rcases List.mem_append.mp hd with hd | hd
    · rcases Step.isUseCase_or_link (whole step List.mem_cons_self) with
        asked | ⟨id', y', asked, hlink⟩
      · obtain ⟨-, st, hst, follows⟩ := s.useCase_stepDeeds number asked
        have leading : st.Leading s.store.rows := by
          rcases hst with rfl | rfl <;> exact trivial
        exact .inl (leading.leads_of_link (s.history_take number step).1 follows d hd id y hcall)
      · obtain ⟨hbefore, hcall'⟩ := stepDeeds_of_link asked number d hd
        rw [hcall] at hcall'
        cases hcall'
        rw [hbefore]
        exact .inr (joins.1 _ hlink)
    · exact ih (number + 1) (fun e he => whole e (List.mem_cons_of_mem step he)) joins.2 d hd id y
        hcall

/-- **Operations by clocks that do not go back** keep the rows in the order of creation. -/
theorem inOrder_after {steps : List Step}
    (order : s.store.rows.InOrder s.store.kind (steps.map Step.clock))
    (whole : ∀ step ∈ steps, step.isWhole)
    (timely : (steps.map Step.clock).Pairwise Clock.NotAfter) :
    (s.after steps).store.rows.InOrder s.store.kind [] := by
  induction steps generalizing s with
  | nil => exact order
  | cons step rest ih =>
    obtain ⟨hnext, hrest⟩ := List.pairwise_cons.mp timely
    have horder := order.deeds hnext (s.history_take 0 step).1
      (goes_of_whole (whole step List.mem_cons_self) 0)
    have hkind := (s.history_take 0 step).2
    have hlater : (s.take step).2.store.rows.InOrder (s.take step).2.store.kind
        (rest.map Step.clock) := by
      rw [hkind]
      exact ⟨horder.sorted, fun t ht c hc => horder.past t ht c (List.mem_cons_of_mem _ hc)⟩
    have hend := ih hlater (fun e he => whole e (List.mem_cons_of_mem step he)) hrest
    rwa [hkind] at hend

/-- **The run begins with an empty table and consists of whole operations** by clocks that do not
    go back, where every row is added under an identifier that no row has and no link that is asked
    for on its own leads back. -/
structure Proceeds (s : Session) (steps : List Step) : Prop where
  empty : s.store.rows = []
  whole : ∀ step ∈ steps, step.isWhole
  timely : (steps.map Step.clock).Pairwise Clock.NotAfter
  new : ∀ d ∈ s.deeds 0 steps, d.call.IsNew d.before
  forward : s.Joins Table.Forward steps

instance (s : Session) (steps : List Step) : Decidable (s.Proceeds steps) :=
  decidable_of_iff (s.store.rows = [] ∧ (∀ step ∈ steps, step.isWhole) ∧
      (steps.map Step.clock).Pairwise Clock.NotAfter ∧
        (∀ d ∈ s.deeds 0 steps, d.call.IsNew d.before) ∧ s.Joins Table.Forward steps)
    ⟨fun h => ⟨h.1, h.2.1, h.2.2.1, h.2.2.2.1, h.2.2.2.2⟩,
      fun h => ⟨h.empty, h.whole, h.timely, h.new, h.forward⟩⟩

namespace Proceeds

variable {steps : List Step}

theorem ids (h : s.Proceeds steps) : (s.after steps).store.rows.IdsDistinct :=
  (s.history 0 steps).idsDistinct_of_new (h.empty ▸ List.nodup_nil) h.new

theorem inOrder (h : s.Proceeds steps) : (s.after steps).store.rows.InOrder s.store.kind [] :=
  inOrder_after ⟨h.empty ▸ .nil, h.empty ▸ nofun⟩ h.whole h.timely

/-- A link in the table was made by a deed on the way. -/
theorem exists_link (h : s.Proceeds steps) {i : Nat} {x : Row} {y : Uuid}
    (hx : (s.after steps).store.rows[i]? = some x) (linked : x.replacedBy = some y) :
    ∃ d ∈ s.deeds 0 steps, ∃ w, d.before[i]? = some w ∧ w.unlinked x.id ∧ d.call = .link x.id y ∧
      d.before.Evolves (s.after steps).store.rows := by
  rcases (s.history 0 steps).exists_link hx linked with
    ⟨w, hw, -⟩ | ⟨front, d, back, w, hdeeds, hw, unlinked, hcall⟩
  · rw [h.empty] at hw
    cases hw
  · have history := s.history 0 steps
    rw [hdeeds] at history
    obtain ⟨-, lawful, hback⟩ := history.split_cons
    have hevolves := lawful.evolves.trans hback.evolves
    obtain ⟨x', hx', hwx⟩ := hevolves.getElem? hw
    rw [hx] at hx'
    cases hx'
    refine ⟨d, by rw [hdeeds]; simp, w, hw, ?_, hwx.id ▸ hcall, hevolves⟩
    simp [Row.unlinked, unlinked, hwx.id]

/-- **Every row stands before its successor in the table.** -/
theorem onward (h : s.Proceeds steps) : (s.after steps).store.rows.Onward := by
  intro i j x z hx hz linked family
  obtain ⟨d, hd, w, hw, unlinked, hcall, hevolves⟩ := h.exists_link hx linked
  rcases leads_of_link 0 h.whole h.forward d hd _ _ hcall with leads | forward
  · obtain ⟨i', j', x', z', hij, hx', hz', hxid, hzid, -⟩ := leads.evolves hevolves
    rw [h.ids.place hx hx' hxid.symm, h.ids.place hz hz' hzid.symm]
    exact hij
  · rcases Nat.lt_or_ge j d.before.length with hj | hj
    · obtain ⟨z', hz', hzz⟩ := hevolves.getElem? (List.getElem?_eq_getElem hj)
      obtain ⟨x', hx', hwx⟩ := hevolves.getElem? hw
      rw [hx] at hx'
      rw [hz] at hz'
      cases hx'
      cases hz'
      exact forward.lt hw (List.getElem?_eq_getElem hj) unlinked hzz.id.symm
        (hzz.family.symm.trans (family.trans hwx.family))
    · -- what was added after the link stands behind the row
      have hi := (List.getElem?_eq_some_iff.mp hw).1
      omega

/-- **A successor is a row of the family**, if the links that are asked for stay in it. -/
theorem within (h : s.Proceeds steps) (within : s.Joins Table.Within steps) {x : Row} {y : Uuid}
    (hx : x ∈ (s.after steps).store.rows) (linked : x.replacedBy = some y) :
    ∃ z ∈ (s.after steps).store.rows, z.id = y ∧ z.family = x.family := by
  obtain ⟨i, hi⟩ := List.mem_iff_getElem?.mp hx
  obtain ⟨d, hd, w, hw, unlinked, hcall, hevolves⟩ := h.exists_link hi linked
  rcases leads_of_link 0 h.whole within d hd _ _ hcall with leads | within
  · obtain ⟨i', j', x', z, -, hx', hz, hxid, hzid, -, hfamily, -⟩ := leads.evolves hevolves
    rw [h.ids.eq_of_id (List.mem_of_getElem? hx') hx hxid] at hfamily
    exact ⟨z, List.mem_of_getElem? hz, hzid, hfamily⟩
  · obtain ⟨z, hz, hzid, hfamily⟩ := within w (List.mem_of_getElem? hw) unlinked
    obtain ⟨z', hz', hzz⟩ := hevolves.exists_mem hz
    obtain ⟨x', hx', hwx⟩ := hevolves.getElem? hw
    rw [hi] at hx'
    cases hx'
    exact ⟨z', hz', hzz.id.trans hzid, hzz.family.trans (hfamily.trans hwx.family.symm)⟩

/-- **Every row is listed before its successor**, in a database if the instants of creation that
    are kept differ. -/
theorem listed_onward (h : s.Proceeds steps) (family : Uuid) :
    let listed := s.store.kind.lineage (s.after steps).store.rows family
    ∀ (i j : Nat) (x z : Row), listed[i]? = some x → listed[j]? = some z →
      x.replacedBy = some z.id → (s.store.kind = .durable → x.createdAt ≠ z.createdAt) →
        i < j := by
  intro listed i j x z hx hz linked apart
  have order := h.inOrder
  have onward := h.onward
  have lists := s.store.kind.lists (s.after steps).store.rows family
  have member {i : Nat} {r : Row} (hr : listed[i]? = some r) :
      r ∈ (s.after steps).store.rows ∧ r.family = family := by
    have := lists.perm.mem_iff.mp (List.mem_of_getElem? hr)
    simpa [Table.familyRows] using this
  obtain ⟨hx', hxfamily⟩ := member hx
  obtain ⟨hz', hzfamily⟩ := member hz
  have same : z.family = x.family := hzfamily.trans hxfamily.symm
  cases hk : s.store.kind with
  | memory =>
    have hlisted : listed = (s.after steps).store.rows.familyRows family :=
      StoreKind.lineage_of_sorted ((List.pairwise_map.mp order.sorted).filter _) fun durable => by
        rw [hk] at durable
        cases durable
    refine onward.sublist ?_ i j x z hx hz linked same
    rw [hlisted]
    exact List.filter_sublist
  | durable =>
    obtain ⟨p, hp⟩ := List.mem_iff_getElem?.mp hx'
    obtain ⟨q, hq⟩ := List.mem_iff_getElem?.mp hz'
    have hle := order.le (onward p q x z hp hq linked same) hp hq
    have differ : x.createdAt.nanos ≠ z.createdAt.nanos :=
      fun same => apart hk (congrArg Instant.mk same)
    by_contra hji
    rcases Nat.eq_or_lt_of_not_lt hji with rfl | hji
    · rw [hx] at hz
      cases hz
      exact differ rfl
    · obtain ⟨hi, rfl⟩ := List.getElem?_eq_some_iff.mp hx
      obtain ⟨hj, rfl⟩ := List.getElem?_eq_some_iff.mp hz
      have hge := List.pairwise_iff_getElem.mp lists.sorted j i hj hi hji
      exact differ (Int.le_antisymm hle hge)

end Proceeds

/-- **How a service lists families.** -/
structure Chronicles (s : Session) : Prop where
  /-- From every table a store without faults lists a family as it should be listed. -/
  listing : s.store.isReachable → ∀ (family : Uuid) (clock : Clock),
    s.ListsLineage family clock (s.store.kind.lineage s.store.rows family)
  /-- In a run every row is listed before its successor: in memory always, and in a database if the
      instants of creation that are kept differ. -/
  onward : ∀ steps, s.Proceeds steps → ∀ family,
    let listed := s.store.kind.lineage (s.after steps).store.rows family
    ∀ (i j : Nat) (x z : Row), listed[i]? = some x → listed[j]? = some z →
      x.replacedBy = some z.id → (s.store.kind = .durable → x.createdAt ≠ z.createdAt) → i < j
  /-- And the successor is listed, if the links that are asked for on their own stay in a family. -/
  within : ∀ steps, s.Proceeds steps → s.Joins Table.Within steps →
    ∀ x ∈ (s.after steps).store.rows, ∀ y ∈ x.replacedBy,
      ∃ z ∈ s.store.kind.lineage (s.after steps).store.rows x.family, z.id = y

/-- **How every service lists families**, from every table and in every run. -/
theorem chronicles (s : Session) : s.Chronicles where
  listing reachable family clock := lists_lineage reachable family clock
  onward steps h family := h.listed_onward family
  within steps h within x hx y linked := by
    obtain ⟨z, hz, hzid, hfamily⟩ := h.within within hx linked
    refine ⟨z, ((s.store.kind.lists _ _).perm.mem_iff.mpr ?_), hzid⟩
    simp [Table.familyRows, hz, hfamily]

/-- A rotation fails before it has added a successor, the next before it has linked the one that it
    added; that link is asked for afterwards, and the successor is rotated. The family is listed as
    a chain. -/
theorem chronicles_of_repair :
    let s : Session := { store := .durableOf [] { reachable := true }, draws := .ofLists [] []
                         settings := .trial .default }
    let id (draw : Nat) : Uuid := .random (BitVec.ofNat 128 draw)
    let broken (target : Statement) : Fault := { target := .statement target, state := "57014" }
    let steps := [Step.at 0 (.issue "alice" none),
      { Step.at 1 (.rotate (Secret.ofNat 1).token) with faults := [broken .insert] },
      { Step.at 2 (.rotate (Secret.ofNat 1).token) with faults := [broken .update] },
      Step.at 3 (.link (id 2) (id 4)), Step.at 4 (.rotate (Secret.ofNat 3).token)]
    s.Chronicles ∧ s.Proceeds steps ∧ s.Joins Table.Within steps ∧
      (s.store.kind.lineage (s.after steps).store.rows (id 1)).map
          (fun r => (r.id, r.replacedBy)) =
        [(id 2, some (id 4)), (id 4, some (id 5)), (id 5, none)] := by
  intro s id broken steps
  let members := (s.after steps).store.rows.familyRows (id 1)
  have facts : (s.Proceeds steps ∧ s.Joins Table.Within steps) ∧
      ((members.Pairwise fun a b => a.createdAt ≤ b.createdAt) ∧
        members.Pairwise fun a b => a.createdAt ≠ b.createdAt) ∧
          members.map (fun r => (r.id, r.replacedBy)) =
            [(id 2, some (id 4)), (id 4, some (id 5)), (id 5, none)] := by
    decide +kernel
  obtain ⟨⟨proceeds, within⟩, ⟨sorted, apart⟩, chain⟩ := facts
  refine ⟨chronicles s, proceeds, within, ?_⟩
  rw [StoreKind.lineage_of_sorted sorted fun _ => apart]
  exact chain

/-- A link can be asked for that leads back: a token is rotated twice in its grace window, and its
    later successor, which has none, is linked to the earlier one. -/
theorem chronicles_limits :
    let s : Session := trial []
    let id (draw : Nat) : Uuid := .random (BitVec.ofNat 128 draw)
    let steps := [Step.at 0 (.issue "alice" none), Step.at 1 (.rotate (Secret.ofNat 1).token),
      Step.at 2 (.rotate (Secret.ofNat 1).token), Step.at 3 (.link (id 4) (id 3))]
    (s.store.rows = [] ∧ (∀ step ∈ steps, step.isWhole) ∧
      (steps.map Step.clock).Pairwise Clock.NotAfter ∧
        ∀ d ∈ s.deeds 0 steps, d.call.IsNew d.before) ∧
      (s.store.kind.lineage (s.after steps).store.rows (id 1)).map
          (fun r => (r.id, r.replacedBy)) =
        [(id 2, some (id 3)), (id 3, none), (id 4, some (id 3))] := by
  intro s id steps
  let members := (s.after steps).store.rows.familyRows (id 1)
  have facts : (s.store.rows = [] ∧ (∀ step ∈ steps, step.isWhole) ∧
      (steps.map Step.clock).Pairwise Clock.NotAfter ∧
        ∀ d ∈ s.deeds 0 steps, d.call.IsNew d.before) ∧
      (members.Pairwise fun a b => a.createdAt ≤ b.createdAt) ∧
        members.map (fun r => (r.id, r.replacedBy)) =
          [(id 2, some (id 3)), (id 3, none), (id 4, some (id 3))] := by
    decide +kernel
  obtain ⟨conditions, sorted, listed⟩ := facts
  refine ⟨conditions, ?_⟩
  have inMemory : s.store.kind ≠ .durable := nofun
  rw [StoreKind.lineage_of_sorted sorted fun durable => absurd durable inMemory]
  exact listed

end Session

end TokenRotation

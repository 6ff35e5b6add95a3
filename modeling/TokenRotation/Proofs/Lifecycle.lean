import TokenRotation.Proofs.Forest
import TokenRotation.Proofs.SingleUse
import TokenRotation.Proofs.WholeFamilies

/-!
# The life of a row

A row is added with four empty cells, and each of them is filled at most once: the two stamps
together when the row is consumed for the first time, the successor by a link, the revocation by a
sweep. Nothing else of a row is ever written, and no row goes away, whatever is asked of a store and
whatever fails in it.

* `Row.Written` -- what becomes of a row in a deed, each cell with the only deed that can fill it;
* `Deed.Framed` -- a deed adds one row and changes no other, or each row becomes what it may;
* `Deed.Lawful.framed` -- every deed of a store of either kind is framed;
* `History.countP_writes_le_one` -- a cell that only fills is written at most once;
* `Session.lifecycle` -- all of it for the steps of a session.
-/

namespace TokenRotation

/-! ## 1. Rows -/

/-- The four cells that are filled later are empty. -/
def Row.IsPristine (r : Row) : Prop :=
  r.consumedAt = none ∧ r.graceExpiresAt = none ∧ r.replacedBy = none ∧ r.revokedAt = none

theorem StoreKind.isPristine_keepRow (k : StoreKind) (t : NewToken) :
    (k.keepRow t.row).IsPristine := by
  cases k <;> exact ⟨rfl, rfl, rfl, rfl⟩

/-- The two stamps of each row are there together. -/
def Table.Paired (rows : Table) : Prop :=
  ∀ r ∈ rows, r.consumedAt.isSome = r.graceExpiresAt.isSome

instance (rows : Table) : Decidable rows.Paired :=
  inferInstanceAs (Decidable (∀ r ∈ rows, r.consumedAt.isSome = r.graceExpiresAt.isSome))

/-- A successor that was linked in the deed, after the identifier that it was linked to. -/
def Deed.linked? : Deed → Option (Uuid × Uuid)
  | ⟨_, _, .link id successor, .done true, _⟩ => some (id, successor)
  | _ => none

/-- The deed is a sweep of the family or of the subject of the row. -/
def Deed.sweeps (r : Row) : Deed → Bool
  | ⟨_, _, .revokeFamily family _, .done _, _⟩ => r.family = family
  | ⟨_, _, .revokeSubject subject _, .done _, _⟩ => r.subject = subject
  | ⟨_, _, .consume .., .done (.reused row _), _⟩ => r.family = row.family
  | _ => false

/-- **What becomes of a row in a deed**: its identity and its dates stay, what is written stays, and
    an empty cell is filled only by the deed that is there for it. -/
structure Row.Written (d : Deed) (r s : Row) : Prop extends Row.Evolves r s where
  /-- Both stamps are set at once, in the first acceptance of the presented row. -/
  stamps : s.consumedAt = r.consumedAt ∧ s.graceExpiresAt = r.graceExpiresAt ∨
    (r.consumedAt = none ∧ r.graceExpiresAt = none) ∧
      (s.consumedAt.isSome ∧ s.graceExpiresAt.isSome) ∧
        d.presented? = some r.hash ∧ d.isFirstUseOf r.hash
  /-- A successor is set by a link to the identifier of the row. -/
  successor : s.replacedBy = r.replacedBy ∨
    r.replacedBy = none ∧ ∃ y, d.linked? = some (r.id, y) ∧ s.replacedBy = some y
  /-- A revocation is set by a sweep of the family or of the subject of the row. -/
  revocation : s.revokedAt = r.revokedAt ∨
    r.revokedAt = none ∧ s.revokedAt.isSome ∧ d.sweeps r

namespace Row

variable {d : Deed} {r : Row}

theorem Written.refl (d : Deed) (r : Row) : r.Written d r :=
  { Evolves.refl r with
    stamps := .inl ⟨rfl, rfl⟩
    successor := .inl rfl
    revocation := .inl rfl }

theorem written_stamp (unused : r.consumedAt = none) (undated : r.graceExpiresAt = none)
    (presented : d.presented? = some r.hash) (first : d.isFirstUseOf r.hash) (c g : Instant) :
    r.Written d (r.stamp c g) := by
  refine { r.evolves_stamp c g with
    stamps := .inr ⟨⟨unused, undated⟩, ?_, presented, first⟩
    successor := .inl (r.replacedBy_stamp c g)
    revocation := .inl (r.revokedAt_stamp c g) }
  simp [stamp, unused]

theorem written_revoke (sweeps : d.sweeps r) (t : Instant) : r.Written d (r.revoke t) := by
  unfold revoke
  split
  · next live =>
    have live := Option.isNone_iff_eq_none.mp live
    refine { Evolves.refl r with
      revoked := fun hr => by simp [live] at hr
      stamps := .inl ⟨rfl, rfl⟩
      successor := .inl rfl
      revocation := .inr ⟨live, rfl, sweeps⟩ }
  · exact .refl d r

theorem written_link {y : Uuid} (unlinked : r.replacedBy = none)
    (linked : d.linked? = some (r.id, y)) : r.Written d { r with replacedBy := some y } :=
  { evolves_link unlinked y with
    stamps := .inl ⟨rfl, rfl⟩
    successor := .inr ⟨unlinked, y, linked, rfl⟩
    revocation := .inl rfl }

end Row

/-! ## 2. Deeds -/

/-- **The deed adds one row with empty cells and changes no other, or lets every row become at its
    place what it may.** -/
def Deed.Framed (d : Deed) : Prop :=
  (∃ new, d.inserted? = some new ∧ new.IsPristine ∧ d.after = d.before ++ [new]) ∨
    List.Forall₂ (Row.Written d) d.before d.after

/-- A change of some rows, seen from each of them. -/
theorem StoreKind.forall₂_change_of_mem (k : StoreKind) {R : Row → Row → Prop} {chosen : Row → Bool}
    {change : Row → Row} {rows : Table} (refl : ∀ r, R r r)
    (h : ∀ r ∈ rows, chosen r → R r (change r)) :
    List.Forall₂ R rows (k.change chosen change rows) := by
  have hrows : List.Forall₂ (fun r s => r ∈ rows → R r s) rows (k.change chosen change rows) :=
    k.forall₂_change (fun r _ => refl r) (fun r hr hmem => h r hmem hr) rows
  exact ((List.forall₂_and_left _ _).mpr ⟨fun r hr => hr, hrows⟩).imp fun _ _ hrs => hrs.2 hrs.1

/-- Only the presented row is told for it. -/
theorem StoreKind.eq_of_presented {k : StoreKind} {rows : Table} {row r : Row}
    (ids : k = .durable → rows.IdsDistinct) (hashes : rows.HashesDistinct) (hrow : row ∈ rows)
    (hr : r ∈ rows) (h : k.presented row r) : r = row := by
  cases k with
  | memory =>
    have same : r.hash = row.hash := by simpa [presented] using h
    exact List.inj_on_of_nodup_map hashes hr hrow same
  | durable =>
    have same : r.id = row.id := by simpa [presented] using h
    exact (ids rfl).eq_of_id hr hrow same

namespace Deed

variable {k : StoreKind} {d : Deed}

/-- **Every deed is framed**: what fails changes nothing, what goes through writes its own cell. -/
theorem Lawful.framed (lawful : d.Lawful k) (ids : k = .durable → d.before.IdsDistinct)
    (hashes : d.before.HashesDistinct) (paired : d.before.Paired) : d.Framed := by
  obtain ⟨actor, before, call, outcome, after⟩ := d
  change Settled k before call outcome after at lawful
  change k = .durable → before.IdsDistinct at ids
  change before.HashesDistinct at hashes
  change before.Paired at paired
  have same {outcome : Outcome call.Answer} :
      Framed ⟨actor, before, call, outcome, before⟩ :=
    .inr (List.forall₂_same.mpr fun r _ => .refl _ r)
  cases lawful with
  | kept => exact same
  | carried hc =>
    cases hc with
    | unknown | refused | grace | getByHash | listFamily => exact same
    | @insert token _ => exact .inl ⟨_, rfl, k.isPristine_keepRow token, rfl⟩
    | @first hash clock policy row now c g found shown verdict =>
      obtain ⟨-, -, unused, -⟩ := Row.judge_eq_firstUse_iff.mp verdict
      have hrow := Table.mem_of_byHash? found
      have hhash := Table.hash_of_byHash? found
      have undated : row.graceExpiresAt = none := by
        have := paired row hrow
        rwa [unused, Option.isSome_none, eq_comm, Option.isSome_eq_false_iff,
          Option.isNone_iff_eq_none] at this
      refine .inr (k.forall₂_change_of_mem (.refl _) fun r hr hchosen => ?_)
      obtain rfl := k.eq_of_presented ids hashes hrow hr hchosen
      refine Row.written_stamp unused undated ?_ ?_ _ _
      · exact congrArg some hhash.symm
      · simp [isFirstUseOf, accepted?, (r.evolves_stamp c g).hash]
    | reuse | revokeFamily | revokeSubject =>
      refine .inr (Table.forall₂_changeAll (.refl _) (fun r hr => Row.written_revoke ?_ _) before)
      simpa [sweeps] using hr
    | @link id successor _ =>
      refine .inr (k.forall₂_change_of_mem (.refl _) fun r hr hchosen => ?_)
      have hany : before.any (Row.unlinked id) := List.any_eq_true.mpr ⟨r, hr, hchosen⟩
      obtain ⟨rfl, unlinked⟩ : r.id = id ∧ r.replacedBy = none := by
        simpa [Row.unlinked] using hchosen
      refine Row.written_link unlinked ?_
      rw [hany]
      rfl

/-- In a framed deed both stamps of a row come together. -/
theorem Framed.paired (h : d.Framed) (paired : d.before.Paired) : d.after.Paired := by
  intro s hs
  rcases h with ⟨new, -, ⟨hconsumed, hgrace, -⟩, hafter⟩ | hrows
  · rw [hafter] at hs
    rcases List.mem_append.mp hs with hs | hs
    · exact paired s hs
    · rw [List.mem_singleton.mp hs, hconsumed, hgrace]
  · obtain ⟨r, hr, hrs⟩ := Table.exists_mem_of_forall₂ hrows hs
    rcases hrs.stamps with ⟨hconsumed, hgrace⟩ | ⟨-, ⟨hconsumed, hgrace⟩, -⟩
    · rw [hconsumed, hgrace]
      exact paired r hr
    · rw [hconsumed, hgrace]

end Deed

/-! ## 3. Identifiers -/

/-- **In a database no row is added under a taken identifier.** -/
def Deed.Keyed (k : StoreKind) (d : Deed) : Prop :=
  k = .durable → ∀ new, d.inserted? = some new → d.before.hasId new.id = false

theorem DurableStore.insertAttempt_keyed {rows after : Table} {token : NewToken} {row : Row}
    {wire wire' : Store.Wire}
    (h : insertAttempt rows token wire = (.ok (row, after), wire')) :
    rows.hasId row.id = false := by
  obtain ⟨_, _, -, h⟩ := Store.Attempt.bind_eq_ok h
  split at h
  · cases h
  · split at h
    · cases h
    · next hfresh =>
      split at h
      · cases h
      · cases Store.Attempt.pure_eq_ok h
        exact eq_false_of_ne_true hfresh

theorem AnyStore.perform_keyed (s : AnyStore) (actor : Nat) (call : StoreCall) :
    Deed.Keyed s.kind
      ⟨actor, s.rows, call, (s.perform call).outcome, (s.perform call).store.rows⟩ := by
  intro hkind new hnew
  cases s with
  | memory m => cases hkind
  | durable d =>
    cases call with
    | insert token =>
      change Deed.inserted? ⟨actor, d.rows, .insert token, (d.perform (.insert token)).outcome, _⟩ =
        some new at hnew
      cases houtcome : (d.perform (.insert token)).outcome with
      | failed | aborted =>
        rw [houtcome] at hnew
        cases hnew
      | done row =>
        rw [houtcome] at hnew
        cases hnew
        simp only [DurableStore.perform, DurableStore.settle] at houtcome
        split at houtcome
        · next value after hok =>
          cases houtcome
          obtain ⟨_, hok⟩ := DurableStore.once_ok hok
          exact DurableStore.insertAttempt_keyed hok
        · cases houtcome
        · cases houtcome
    | _ => cases hnew

theorem Deed.Lawful.idsDistinct {k : StoreKind} {d : Deed} (lawful : d.Lawful k) (keyed : d.Keyed k)
    (ids : k = .durable → d.before.IdsDistinct) : k = .durable → d.after.IdsDistinct := by
  intro hk
  rcases lawful.adds_or_evolves with ⟨token, -, hadded, -, hafter⟩ | ⟨-, hrows⟩
  · rw [hafter]
    exact (ids hk).append_new (keyed hk _ hadded)
  · exact (ids hk).forall₂ hrows

/-- In a database identifiers stay distinct. -/
theorem History.idsDistinct {k : StoreKind} {rows after : Table} {deeds : List Deed}
    (h : History k rows deeds after) (keyed : ∀ d ∈ deeds, d.Keyed k)
    (ids : k = .durable → rows.IdsDistinct) : k = .durable → after.IdsDistinct := by
  induction h with
  | nil => exact ids
  | @cons d rest after lawful _ ih =>
    exact ih (fun e he => keyed e (List.mem_cons_of_mem d he))
      (lawful.idsDistinct (keyed d List.mem_cons_self) ids)

namespace Program

variable {α : Type} {P : Deed → Prop} {k : StoreKind}

/-- What is true of all that a store of the kind does is true of the deeds of a program. -/
theorem forall_deeds (h : ∀ (s : AnyStore) (actor : Nat) (call : StoreCall), s.kind = k →
      P ⟨actor, s.rows, call, (s.perform call).outcome, (s.perform call).store.rows⟩)
    (actor : Nat) (p : Program α) (w : World AnyStore) (hk : w.store.kind = k) :
    ∀ d ∈ p.deeds actor w, P d := by
  induction p generalizing w with
  | finish outcome => exact fun d hd => absurd hd List.not_mem_nil
  | request r next ih =>
    intro d hd
    have hkind := (history_answer actor w r).2
    unfold deeds at hd
    rcases List.mem_append.mp hd with hd | hd
    · cases r with
      | store call =>
        rw [List.mem_singleton.mp hd]
        exact h w.store actor call hk
      | secret | uuid | log => cases hd
    · rcases hanswer : answer w r with ⟨cause | reply, w'⟩
      · simp [hanswer] at hd
      · simp only [hanswer] at hd hkind
        exact ih reply w' (hkind.trans hk) d hd

end Program

theorem Session.forall_deeds {P : Deed → Prop} {k : StoreKind}
    (h : ∀ (s : AnyStore) (actor : Nat) (call : StoreCall), s.kind = k →
      P ⟨actor, s.rows, call, (s.perform call).outcome, (s.perform call).store.rows⟩)
    (s : Session) (hk : s.store.kind = k) (number : Nat) (steps : List Step) :
    ∀ d ∈ s.deeds number steps, P d := by
  induction steps generalizing s number with
  | nil => exact fun d hd => absurd hd List.not_mem_nil
  | cons step rest ih =>
    intro d hd
    rcases List.mem_append.mp hd with hd | hd
    · unfold stepDeeds at hd
      split at hd
      · exact Program.forall_deeds h _ _ _ ((AnyStore.kind_withFaults _ _).trans hk) d hd
      · cases hd
    · exact ih _ ((s.history_take number step).2.trans hk) _ d hd

/-- No step adds a row to a database under a taken identifier. -/
theorem Session.keyed (s : Session) (number : Nat) (steps : List Step) :
    ∀ d ∈ s.deeds number steps, d.Keyed s.store.kind :=
  s.forall_deeds (fun store actor call hk => hk ▸ store.perform_keyed actor call) rfl number steps

/-! ## 4. Runs -/

/-- The deed changes a cell of the row at a place. -/
def Deed.writes {α : Type} [DecidableEq α] (cell : Row → Option α) (i : Nat) (d : Deed) : Bool :=
  d.before[i]?.bind cell ≠ d.after[i]?.bind cell

/-- What stands in the cell stays in it, in every row. -/
def Deed.Fills {α : Type} (cell : Row → Option α) (d : Deed) : Prop :=
  ∀ (i : Nat) (a : α), d.before[i]?.bind cell = some a → d.after[i]?.bind cell = some a

namespace History

variable {k : StoreKind} {rows after : Table} {deeds : List Deed} {α : Type} [DecidableEq α]
  {cell : Row → Option α} {i : Nat}

/-- A cell that is filled is not written again. -/
theorem countP_writes_of_some (h : History k rows deeds after)
    (fills : ∀ d ∈ deeds, d.Fills cell) {a : α} (ha : rows[i]?.bind cell = some a) :
    deeds.countP (Deed.writes cell i) = 0 := by
  induction h with
  | nil => rfl
  | @cons d rest after lawful _ ih =>
    have hafter := fills d List.mem_cons_self i a ha
    have hnot : ¬ d.writes cell i := by simp [Deed.writes, ha, hafter]
    rw [List.countP_cons_of_neg hnot]
    exact ih (fun e he => fills e (List.mem_cons_of_mem d he)) hafter

/-- **A cell that only fills is written at most once.** -/
theorem countP_writes_le_one (h : History k rows deeds after)
    (fills : ∀ d ∈ deeds, d.Fills cell) (i : Nat) : deeds.countP (Deed.writes cell i) ≤ 1 := by
  induction h with
  | nil => exact Nat.zero_le 1
  | @cons d rest after lawful hrest ih =>
    have fills' : ∀ e ∈ rest, e.Fills cell := fun e he => fills e (List.mem_cons_of_mem d he)
    by_cases hwrites : d.writes cell i
    · rw [List.countP_cons_of_pos hwrites]
      cases hafter : d.after[i]?.bind cell with
      | some a =>
        have hnone := hrest.countP_writes_of_some fills' hafter
        omega
      | none =>
        -- to empty a cell it would have to be filled before
        cases hbefore : d.before[i]?.bind cell with
        | none => simp [Deed.writes, hbefore, hafter] at hwrites
        | some a => simp [fills d List.mem_cons_self i a hbefore] at hafter
    · rw [List.countP_cons_of_neg hwrites]
      exact ih fills'

end History

/-- A row that stays what it is lets its cells only fill. -/
theorem Deed.Framed.fills {d : Deed} {α : Type} {cell : Row → Option α} (h : d.Framed)
    (kept : ∀ r ∈ d.before, ∀ s, r.Written d s → ∀ a, cell r = some a → cell s = some a) :
    d.Fills cell := by
  intro i a ha
  obtain ⟨r, hr, hcell⟩ := Option.bind_eq_some_iff.mp ha
  rcases h with ⟨new, -, -, hafter⟩ | hrows
  · have hlt := (List.getElem?_eq_some_iff.mp hr).1
    rw [hafter, List.getElem?_append_left hlt]
    exact ha
  · obtain ⟨hlt, rfl⟩ := List.getElem?_eq_some_iff.mp hr
    have hlt' : i < d.after.length := hrows.length_eq ▸ hlt
    rw [List.getElem?_eq_getElem hlt']
    exact kept _ (List.getElem_mem hlt) _ (hrows.get hlt hlt') a hcell

/-- **Every deed of a history is framed**, where the first table has distinct hashes, paired stamps
    and, in a database, distinct identifiers. -/
theorem History.framed {k : StoreKind} {rows after : Table} {deeds : List Deed}
    (h : History k rows deeds after) (keyed : ∀ d ∈ deeds, d.Keyed k)
    (ids : k = .durable → rows.IdsDistinct) (hashes : rows.HashesDistinct) (paired : rows.Paired) :
    ∀ d ∈ deeds, d.Framed ∧ d.before.Paired := by
  induction h with
  | nil => exact fun d hd => absurd hd List.not_mem_nil
  | @cons d rest after lawful _ ih =>
    have hframed := lawful.framed ids hashes paired
    have hrest := ih (fun e he => keyed e (List.mem_cons_of_mem d he))
      (lawful.idsDistinct (keyed d List.mem_cons_self) ids) (lawful.hashesDistinct hashes)
      (hframed.paired paired)
    intro e he
    rcases List.mem_cons.mp he with rfl | he
    · exact ⟨hframed, paired⟩
    · exact hrest e he

namespace Session

/-- **The life of every row** in the course of some steps. -/
structure Lifecycle (s : Session) (steps : List Step) : Prop where
  /-- Whatever becomes of the table becomes of it in a deed. -/
  history : History s.store.kind s.store.rows (s.deeds 0 steps) (s.after steps).store.rows
  /-- No row goes away, and none changes its place, its identity or its dates. -/
  evolves : s.store.rows.Evolves (s.after steps).store.rows
  /-- No deed writes a cell that is not its own. -/
  framed : ∀ d ∈ s.deeds 0 steps, d.Framed
  /-- A deed that is not answered writes nothing. -/
  unanswered : ∀ d ∈ s.deeds 0 steps, (∀ answer, d.outcome ≠ .done answer) → d.after = d.before
  /-- Each of the four cells of a row is written at most once. -/
  once : ∀ i, (s.deeds 0 steps).countP (Deed.writes Row.consumedAt i) ≤ 1 ∧
    (s.deeds 0 steps).countP (Deed.writes Row.graceExpiresAt i) ≤ 1 ∧
      (s.deeds 0 steps).countP (Deed.writes Row.replacedBy i) ≤ 1 ∧
        (s.deeds 0 steps).countP (Deed.writes Row.revokedAt i) ≤ 1

/-- **Rows live once**: on a store of either kind, under any steps, faults and clocks, beginning
    with any table of distinct identifiers and hashes whose stamps come in pairs. -/
theorem lifecycle (s : Session) (ids : s.store.rows.IdsDistinct)
    (hashes : s.store.rows.HashesDistinct) (paired : s.store.rows.Paired) (steps : List Step) :
    s.Lifecycle steps := by
  have history := s.history 0 steps
  have framed := history.framed
    (s.forall_deeds (fun store actor call hk => hk ▸ store.perform_keyed actor call) rfl 0 steps)
    (fun _ => ids) hashes paired
  have filled {d : Deed} (hd : d ∈ s.deeds 0 steps) : d.Fills Row.consumedAt ∧
      d.Fills Row.graceExpiresAt ∧ d.Fills Row.replacedBy ∧ d.Fills Row.revokedAt := by
    obtain ⟨hframed, hpaired⟩ := framed d hd
    refine ⟨hframed.fills fun r hr t hrt a ha => ?_, hframed.fills fun r hr t hrt a ha => ?_,
      hframed.fills fun r hr t hrt a ha => ?_, hframed.fills fun r hr t hrt a ha => ?_⟩
    · rw [(hrt.consumed (by simp [ha])).1, ha]
    · have hconsumed : r.consumedAt.isSome := by simp [hpaired r hr, ha]
      rw [(hrt.consumed hconsumed).2, ha]
    · rw [hrt.replaced (by simp [ha]), ha]
    · rw [hrt.revoked (by simp [ha]), ha]
  exact ⟨history, history.evolves, fun d hd => (framed d hd).1,
    fun d hd => (history.lawful_of_mem hd).eq_of_not_done, fun i =>
    ⟨history.countP_writes_le_one (fun d hd => (filled hd).1) i,
      history.countP_writes_le_one (fun d hd => (filled hd).2.1) i,
      history.countP_writes_le_one (fun d hd => (filled hd).2.2.1) i,
      history.countP_writes_le_one (fun d hd => (filled hd).2.2.2) i⟩⟩

/-- A token is rotated twice, on a database that loses the first sweep of its subject and carries
    out two more: the deeds that write a cell of its row are one each. -/
theorem lifecycle_of_repeated_sweeps :
    let token := (Secret.ofNat 100).token
    let sample := sampleRow token "alice" (.ofLists [] [])
    let s : Session := { store := .durableOf [sample.1] { reachable := true }, draws := sample.2
                         settings := .trial .default }
    let steps := [Step.at 5 (.rotate token), Step.at 8 (.rotate token),
      { Step.at 20 (.revokeSubject "alice") with
        faults := [{ target := .statement .update, state := "57014" }] },
      Step.at 21 (.revokeSubject "alice"), Step.at 22 (.revokeSubject "alice")]
    let deeds := s.deeds 0 steps
    s.Lifecycle steps ∧ deeds.countP (Deed.writes Row.consumedAt 0) = 1 ∧
      deeds.countP (Deed.writes Row.replacedBy 0) = 1 ∧
        deeds.countP (Deed.writes Row.revokedAt 0) = 1 ∧
          deeds.countP (fun d => d.linked?.isSome) = 1 ∧
            deeds.countP (fun d => d.sweeps sample.1) = 2 := by
  intro token sample s steps deeds
  have facts : (s.store.rows.IdsDistinct ∧ s.store.rows.HashesDistinct ∧ s.store.rows.Paired) ∧
      deeds.countP (Deed.writes Row.consumedAt 0) = 1 ∧
        deeds.countP (Deed.writes Row.replacedBy 0) = 1 ∧
          deeds.countP (Deed.writes Row.revokedAt 0) = 1 ∧
            deeds.countP (fun d => d.linked?.isSome) = 1 ∧
              deeds.countP (fun d => d.sweeps sample.1) = 2 := by
    decide +kernel
  obtain ⟨⟨ids, hashes, paired⟩, counts⟩ := facts
  exact ⟨lifecycle s ids hashes paired steps, counts⟩

end Session

end TokenRotation

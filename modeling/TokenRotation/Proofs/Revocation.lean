import TokenRotation.Proofs.Acceptance
import TokenRotation.Proofs.Interleaving

/-!
# Revocation among other calls

A sweep revokes every row of a family at once. Nothing that happens afterwards lifts it; and yet a
rotation that had a token of the family accepted before the sweep may add its successor after it,
and the successor is not revoked. This file shows that there is no other way out, and that this one
is open.

The argument goes along the deeds. While all rows of a family are revoked, none of them is accepted;
whoever adds a row to the family had one accepted before; so the first to add one after the sweep
had it accepted before the sweep.

* `Deed.Lawful.dead_of_covers` -- after a sweep every row of the family is revoked;
* `History.dead_of_not_overtaken` -- and stays so, unless a rotation was overtaken by the sweep;
* `History.good_of_overtaken` -- a rotation that was overtaken leaves a token that is good;
* `Pool.revocation` -- all of it for the calls of a pool, under every schedule.
-/

namespace TokenRotation

/-! ## 1. Tables -/

namespace Table

/-- The rows of a family have one subject. -/
def OneSubject (rows : Table) : Prop :=
  ∀ r ∈ rows, ∀ s ∈ rows, r.family = s.family → r.subject = s.subject

instance (rows : Table) : Decidable rows.OneSubject :=
  inferInstanceAs (Decidable (∀ r ∈ rows, ∀ s ∈ rows, r.family = s.family → r.subject = s.subject))

/-- A row can be added whose subject is that of its family. -/
theorem OneSubject.append_new {rows : Table} {new : Row} (h : rows.OneSubject)
    (same : ∀ r ∈ rows, r.family = new.family → r.subject = new.subject) :
    OneSubject (rows ++ [new]) := by
  intro r hr s hs heq
  rcases List.mem_append.mp hr with hr | hr <;> rcases List.mem_append.mp hs with hs | hs
  · exact h r hr s hs heq
  · rw [List.mem_singleton.mp hs] at heq ⊢
    exact same r hr heq
  · rw [List.mem_singleton.mp hr] at heq ⊢
    exact (same s hs heq.symm).symm
  · rw [List.mem_singleton.mp hr, List.mem_singleton.mp hs]

theorem OneSubject.forall₂ {rows kept : Table} (h : rows.OneSubject)
    (hrows : List.Forall₂ Row.Evolves rows kept) : kept.OneSubject := by
  intro r' hr' s' hs' heq
  obtain ⟨r, hr, hrr⟩ := exists_mem_of_forall₂ hrows hr'
  obtain ⟨s, hs, hss⟩ := exists_mem_of_forall₂ hrows hs'
  rw [hrr.family, hss.family] at heq
  rw [hrr.subject, hss.subject]
  exact h r hr s hs heq

/-- Every row of the family is revoked. -/
def Dead (rows : Table) (family : Uuid) : Prop :=
  ∀ r ∈ rows, r.family = family → r.revokedAt.isSome

instance (rows : Table) (family : Uuid) : Decidable (rows.Dead family) :=
  inferInstanceAs (Decidable (∀ r ∈ rows, r.family = family → r.revokedAt.isSome))

theorem dead_sweep {rows : Table} {family : Uuid} {chosen : Row → Bool}
    (h : ∀ r ∈ rows, r.family = family → chosen r) (now : Instant) :
    (rows.sweep chosen now).Dead family := by
  intro r hr hfamily
  obtain ⟨s, hs, rfl⟩ := mem_sweep.mp hr
  split at hfamily
  · next hchosen =>
    rw [if_pos hchosen]
    have hsome := s.isNone_revokedAt_revoke now
    rwa [← Option.not_isSome, Bool.not_eq_false'] at hsome
  · next hchosen => exact absurd (h s hs hfamily) hchosen

/-- Revocations stay. -/
theorem Dead.forall₂ {rows kept : Table} {family : Uuid} (h : rows.Dead family)
    (hrows : List.Forall₂ Row.Evolves rows kept) : kept.Dead family := by
  intro s hs hfamily
  obtain ⟨r, hr, hevolves⟩ := exists_mem_of_forall₂ hrows hs
  exact hevolves.isSome_revokedAt (h r hr (hevolves.family.symm.trans hfamily))

end Table

/-! ## 2. Sweeps -/

namespace Deed

/-- The deed revoked the rows of a family: by name, through its subject, or because a token of it
    was presented after its grace window. -/
def covers (family : Uuid) : Deed → Bool
  | ⟨_, _, .revokeFamily swept _, .done _, _⟩ => swept = family
  | ⟨_, before, .revokeSubject subject _, .done _, _⟩ =>
    before.any fun r => r.family = family && r.subject = subject
  | ⟨_, _, .consume .., .done (.reused row _), _⟩ => row.family = family
  | _ => false

/-- The deed accepted a token of the family. -/
def acceptsIn (family : Uuid) (d : Deed) : Bool :=
  d.accepted?.any fun accepted => accepted.1.family = family

/-- The deed added a row to the family. -/
def addsTo (family : Uuid) (d : Deed) : Bool := d.inserted?.any fun row => row.family = family

variable {k : StoreKind} {d : Deed} {family : Uuid}

theorem acceptsIn_iff :
    d.acceptsIn family ↔ ∃ row kind, d.accepted? = some (row, kind) ∧ row.family = family := by
  simp [acceptsIn, Option.any_eq_true]

theorem addsTo_iff : d.addsTo family ↔ ∃ row, d.inserted? = some row ∧ row.family = family := by
  simp [addsTo, Option.any_eq_true]

/-- What adds a row to a family inserts it there under a free hash. -/
theorem Lawful.of_addsTo (lawful : d.Lawful k) (h : d.addsTo family) :
    ∃ token : NewToken, d.call = .insert token ∧ token.family = family ∧
      d.before.hasHash token.hash = false ∧ d.after = d.before ++ [k.keepRow token.row] := by
  obtain ⟨new, hnew, hfamily⟩ := addsTo_iff.mp h
  rcases lawful.adds_or_evolves with ⟨token, hcall, htoken, fresh, hafter⟩ | ⟨hnone, -⟩
  · rw [htoken] at hnew
    cases hnew
    rw [StoreKind.keepRow_family] at hfamily
    exact ⟨token, hcall, hfamily, fresh, hafter⟩
  · rw [hnone] at hnew
    cases hnew

/-- A sweep accepts nothing. -/
theorem not_acceptsIn_of_covers (h : d.covers family) : ¬ d.acceptsIn family := by
  have hnone : d.accepted? = none := by
    unfold covers at h
    split at h
    · rfl
    · rfl
    · rfl
    · cases h
  simp [acceptsIn, hnone]

/-- **After a sweep every row of the family is revoked.** -/
theorem Lawful.dead_of_covers (lawful : d.Lawful k) (one : d.before.OneSubject)
    (h : d.covers family) : d.after.Dead family := by
  unfold covers at h
  split at h
  · next before swept now count after =>
    change Settled k before (.revokeFamily swept now) (.done count) after at lawful
    cases lawful with
    | kept hnot => exact absurd rfl (hnot _)
    | carried hc =>
      cases hc with
      | revokeFamily => exact Table.dead_sweep (fun r _ hr => by simp_all) _
  · next before subject now count after =>
    change Settled k before (.revokeSubject subject now) (.done count) after at lawful
    obtain ⟨r, hr, hboth⟩ := List.any_eq_true.mp h
    obtain ⟨hfamily, hsubject⟩ : r.family = family ∧ r.subject = subject := by simpa using hboth
    cases lawful with
    | kept hnot => exact absurd rfl (hnot _)
    | carried hc =>
      cases hc with
      | revokeSubject =>
        refine Table.dead_sweep (fun s hs hsf => ?_) _
        have heq := one s hs r hr (hsf.trans hfamily.symm)
        simpa using heq.trans hsubject
  · next before hash clock policy row count after =>
    change Settled k before (.consume hash clock policy) (.done (.reused row count)) after at lawful
    cases lawful with
    | kept hnot => exact absurd rfl (hnot _)
    | carried hc =>
      cases hc with
      | reuse => exact Table.dead_sweep (fun r _ hr => by simp_all) _
  · cases h

/-- Only a sweep revokes: what no deed covers is not revoked by it. -/
theorem Lawful.spares (lawful : d.Lawful k) (h : ¬ d.covers family) {r : Row} (hr : r ∈ d.before)
    (hfamily : r.family = family) (hnone : r.revokedAt = none) :
    ∃ s ∈ d.after, s.family = family ∧ s.revokedAt = none := by
  obtain ⟨actor, before, call, outcome, after⟩ := d
  change Settled k before call outcome after at lawful
  change r ∈ before at hr
  -- what changes other cells of the rows keeps this row as it was in these two
  have kept {after : Table} (hrows : List.Forall₂ (fun r s : Row =>
      s.family = r.family ∧ s.revokedAt = r.revokedAt) before after) :
      ∃ s ∈ after, s.family = family ∧ s.revokedAt = none := by
    obtain ⟨i, hi, rfl⟩ := List.getElem_of_mem hr
    have hi' : i < after.length := hrows.length_eq ▸ hi
    obtain ⟨hf, hn⟩ := hrows.get hi hi'
    exact ⟨after[i], List.getElem_mem hi', hf.trans hfamily, hn.trans hnone⟩
  -- a sweep of others passes this row over
  have passed {chosen : Row → Bool} {now : Instant} (hnot : chosen r = false) :
      ∃ s ∈ before.sweep chosen now, s.family = family ∧ s.revokedAt = none :=
    ⟨r, Table.mem_sweep.mpr ⟨r, hr, by simp [hnot]⟩, hfamily, hnone⟩
  cases lawful with
  | kept => exact ⟨r, hr, hfamily, hnone⟩
  | carried hc =>
    cases hc with
    | insert => exact ⟨r, List.mem_append_left _ hr, hfamily, hnone⟩
    | unknown | refused | grace | getByHash | listFamily => exact ⟨r, hr, hfamily, hnone⟩
    | first =>
      refine kept (k.forall₂_change (fun _ => ⟨rfl, rfl⟩) (fun s _ => ?_) before)
      unfold Row.stamp
      split <;> exact ⟨rfl, rfl⟩
    | link => exact kept (k.forall₂_change (fun _ => ⟨rfl, rfl⟩) (fun _ _ => ⟨rfl, rfl⟩) before)
    | revokeFamily =>
      refine passed (decide_eq_false fun heq => h ?_)
      exact decide_eq_true (heq.symm.trans hfamily)
    | revokeSubject =>
      refine passed (decide_eq_false fun heq => h ?_)
      exact List.any_eq_true.mpr ⟨r, hr, by simp [hfamily, heq]⟩
    | reuse =>
      refine passed (decide_eq_false fun heq => h ?_)
      exact decide_eq_true (heq.symm.trans hfamily)

/-- A deed that adds no row to a family whose rows are revoked leaves them revoked. -/
theorem Lawful.dead (lawful : d.Lawful k) (h : d.before.Dead family)
    (hnot : ¬ d.addsTo family) : d.after.Dead family := by
  rcases lawful.adds_or_evolves with ⟨token, -, hins, -, hafter⟩ | ⟨-, hrows⟩
  · rw [hafter]
    intro r hr hfamily
    rcases List.mem_append.mp hr with hold | hnew
    · exact h r hold hfamily
    · rw [List.mem_singleton.mp hnew] at hfamily
      exact absurd (addsTo_iff.mpr ⟨_, hins, hfamily⟩) hnot
  · exact h.forall₂ hrows

/-- Nothing is accepted in a family whose rows are revoked. -/
theorem Lawful.not_acceptsIn_of_dead (lawful : d.Lawful k) (h : d.before.Dead family) :
    ¬ d.acceptsIn family := by
  intro haccepts
  obtain ⟨row, kind, hacc, hfamily⟩ := acceptsIn_iff.mp haccepts
  obtain ⟨-, r, found, hrow, hnone, -⟩ := lawful.of_accepted hacc
  have hsome := h r (Table.mem_of_byHash? found) (hrow.family.symm.trans hfamily)
  rw [hnone] at hsome
  cases hsome

end Deed

/-! ## 3. Subjects -/

/-- What was accepted in the past is in the table. -/
def Known (past : List Deed) (rows : Table) : Prop :=
  ∀ d ∈ past, ∀ row kind, d.accepted? = some (row, kind) →
    ∃ r ∈ rows, r.hash = row.hash ∧ r.subject = row.subject ∧ r.family = row.family

theorem Known.evolves {past : List Deed} {rows later : Table} (h : Known past rows)
    (hrows : rows.Evolves later) : Known past later := by
  intro d hd row kind hacc
  obtain ⟨r, hr, hhash, hsubject, hfamily⟩ := h d hd row kind hacc
  obtain ⟨s, hs, hrs⟩ := hrows.exists_mem hr
  exact ⟨s, hs, hrs.hash.trans hhash, hrs.subject.trans hsubject, hrs.family.trans hfamily⟩

/-- A deed makes known what it accepted. -/
theorem Known.deed {k : StoreKind} {past : List Deed} {d : Deed} (h : Known past d.before)
    (lawful : d.Lawful k) : Known (past ++ [d]) d.after := by
  intro e he row kind hacc
  rcases List.mem_append.mp he with hpast | hlast
  · exact h.evolves lawful.evolves e hpast row kind hacc
  · rw [List.mem_singleton.mp hlast] at hacc
    obtain ⟨-, r, found, hrow, -⟩ := lawful.of_accepted hacc
    obtain ⟨s, hs, hrs⟩ := lawful.evolves.exists_mem (Table.mem_of_byHash? found)
    exact ⟨s, hs, hrs.hash.trans hrow.hash.symm, hrs.subject.trans hrow.subject.symm,
      hrs.family.trans hrow.family.symm⟩

/-- A successor has the subject of its family. -/
theorem Deed.Lawful.oneSubject {k : StoreKind} {past : List Deed} {d : Deed} (lawful : d.Lawful k)
    (known : Known past d.before)
    (inherits : (Request.store d.call).Succeeds (acceptedBy d.actor past))
    (one : d.before.OneSubject) : d.after.OneSubject := by
  rcases lawful.adds_or_evolves with ⟨token, hcall, -, -, hafter⟩ | ⟨-, hrows⟩
  · rw [hcall] at inherits
    obtain ⟨row, hrow, hsubject, hfamily⟩ := inherits
    obtain ⟨a, ha, -, kind, hacc⟩ := mem_acceptedBy.mp (List.mem_of_getLast? hrow)
    obtain ⟨p, hp, -, hps, hpf⟩ := known a ha row kind hacc
    rw [hafter]
    refine one.append_new fun r hr heq => ?_
    rw [StoreKind.keepRow_family] at heq
    rw [StoreKind.keepRow_subject]
    have hsame := one r hr p hp (heq.trans (hfamily.trans hpf.symm))
    exact hsame.trans (hps.trans hsubject.symm)
  · exact one.forall₂ hrows

theorem History.oneSubject {k : StoreKind} {past deeds : List Deed} {rows after : Table}
    (h : History k rows deeds after) (inherited : Inherited past deeds) (known : Known past rows)
    (one : rows.OneSubject) : after.OneSubject := by
  induction h generalizing past with
  | nil => exact one
  | cons lawful _ ih =>
    exact ih inherited.2 (known.deed lawful) (lawful.oneSubject known inherited.1 one)

/-! ## 4. Rotations that are overtaken -/

/-- A rotation was overtaken: its actor had a token of the family accepted in the past and adds a
    row to the family in these deeds. -/
def Overtaken (family : Uuid) (past deeds : List Deed) : Prop :=
  ∃ a ∈ past, ∃ b ∈ deeds, a.actor = b.actor ∧ a.acceptsIn family ∧ b.addsTo family

instance (family : Uuid) (past deeds : List Deed) : Decidable (Overtaken family past deeds) :=
  inferInstanceAs (Decidable (∃ a ∈ past, ∃ b ∈ deeds,
    a.actor = b.actor ∧ a.acceptsIn family ∧ b.addsTo family))

/-- What accepts nothing of the family makes no difference. -/
theorem Overtaken.of_snoc {family : Uuid} {past deeds : List Deed} {d : Deed}
    (hnot : ¬ d.acceptsIn family) (h : Overtaken family (past ++ [d]) deeds) :
    Overtaken family past deeds := by
  obtain ⟨a, ha, hrest⟩ := h
  refine ⟨a, ?_, hrest⟩
  rcases List.mem_append.mp ha with hpast | hlast
  · exact hpast
  · obtain ⟨-, -, -, hacc, -⟩ := hrest
    rw [List.mem_singleton.mp hlast] at hacc
    exact absurd hacc hnot

/-- Whoever adds a row to a family had a token of it accepted. -/
theorem Deed.Lawful.overtaken {k : StoreKind} {past : List Deed} {d : Deed} {family : Uuid}
    (lawful : d.Lawful k) (inherits : (Request.store d.call).Succeeds (acceptedBy d.actor past))
    (hadds : d.addsTo family) : Overtaken family past [d] := by
  obtain ⟨token, hcall, hfamily, -⟩ := lawful.of_addsTo hadds
  rw [hcall] at inherits
  obtain ⟨row, hrow, -, hrf⟩ := inherits
  obtain ⟨a, ha, hactor, kind, hacc⟩ := mem_acceptedBy.mp (List.mem_of_getLast? hrow)
  exact ⟨a, ha, d, List.mem_singleton_self d, hactor,
    Deed.acceptsIn_iff.mpr ⟨row, kind, hacc, hrf.symm.trans hfamily⟩, hadds⟩

namespace History

variable {k : StoreKind} {past deeds : List Deed} {rows after : Table} {family : Uuid}

/-- **A family stays dead** unless a rotation was overtaken, where whoever adds a row to it had a
    token of it accepted. -/
theorem dead_of_not_overtaken (h : History k rows deeds after) (dead : rows.Dead family)
    (hnot : ¬ Overtaken family past deeds)
    (hadds : ∀ front d back, deeds = front ++ d :: back → d.addsTo family →
      Overtaken family (past ++ front) [d]) :
    after.Dead family ∧ ∀ d ∈ deeds, d.before.Dead family ∧ d.after.Dead family := by
  induction h generalizing past with
  | nil => exact ⟨dead, fun d hd => absurd hd List.not_mem_nil⟩
  | @cons d rest after lawful _ ih =>
    have hnone : ¬ d.addsTo family := by
      intro hd
      obtain ⟨a, ha, b, hb, hboth⟩ := hadds [] d rest rfl hd
      rw [List.append_nil] at ha
      refine hnot ⟨a, ha, b, ?_, hboth⟩
      rw [List.mem_singleton.mp hb]
      exact List.mem_cons_self
    have hafter := lawful.dead dead hnone
    have hrest : ¬ Overtaken family (past ++ [d]) rest := by
      intro hover
      obtain ⟨a, ha, b, hb, hboth⟩ := hover.of_snoc (lawful.not_acceptsIn_of_dead dead)
      exact hnot ⟨a, ha, b, List.mem_cons_of_mem d hb, hboth⟩
    obtain ⟨hfinal, hall⟩ := ih hafter hrest fun front e back heq he => by
      have hover := hadds (d :: front) e back (by rw [heq]; rfl) he
      rwa [List.append_assoc, List.singleton_append]
    refine ⟨hfinal, fun e he => ?_⟩
    rcases List.mem_cons.mp he with rfl | he
    · exact ⟨dead, hafter⟩
    · exact hall e he

/-- **A rotation that was overtaken leaves a token that is good**: it is found by its hash, and
    nobody has revoked or consumed it. -/
theorem good_of_overtaken (h : History k rows deeds after) (hover : Overtaken family past deeds) :
    ∃ front b back row, deeds = front ++ b :: back ∧ row.family = family ∧
      b.after.byHash? row.hash = some row ∧ row.revokedAt = none ∧ row.consumedAt = none := by
  obtain ⟨-, -, b, hb, -, -, hadds⟩ := hover
  obtain ⟨front, back, rfl⟩ := List.append_of_mem hb
  obtain ⟨-, lawful, -⟩ := h.split_cons
  obtain ⟨token, -, hfamily, fresh, hafter⟩ := lawful.of_addsTo hadds
  refine ⟨front, b, back, k.keepRow token.row, rfl, (k.keepRow_family _).trans hfamily, ?_,
    k.keepRow_revokedAt token, k.keepRow_consumedAt token⟩
  rw [hafter]
  exact Table.byHash?_append_new (by rwa [StoreKind.keepRow_hash]) rfl

/-- A row that is not revoked stays so where nothing sweeps its family. -/
theorem spares (h : History k rows deeds after) (hnot : ∀ d ∈ deeds, ¬ d.covers family)
    (hlive : ∃ r ∈ rows, r.family = family ∧ r.revokedAt = none) :
    ∃ r ∈ after, r.family = family ∧ r.revokedAt = none := by
  induction h with
  | nil => exact hlive
  | @cons d rest after lawful _ ih =>
    obtain ⟨r, hr, hfamily, hnone⟩ := hlive
    exact ih (fun e he => hnot e (List.mem_cons_of_mem d he))
      (lawful.spares (hnot d List.mem_cons_self) hr hfamily hnone)

end History

/-! ## 5. Schedules -/

/-- **What a sweep of a family comes to**, where `front` was done before it, `back` after it, and
    `final` is the table in the end. -/
structure Revocation (family : Uuid) (front : List Deed) (sweep : Deed) (back : List Deed)
    (final : Table) : Prop where
  swept : sweep.after.Dead family
  /-- The family stays dead exactly when the sweep did not overtake a rotation. -/
  dead_iff : (∀ d ∈ back, d.after.Dead family) ↔ ¬ Overtaken family front back
  /-- Then none of its tokens is accepted any more. -/
  refused : ¬ Overtaken family front back → ∀ d ∈ back, ∀ hash, d.presented? = some hash →
    ∀ r, d.before.byHash? hash = some r → r.family = family → d.accepted? = none
  /-- Then no row of it is left unrevoked in the end. -/
  dead_at_end : ¬ Overtaken family front back → final.Dead family
  /-- After the last sweep, the end tells whether a rotation was overtaken. -/
  dead_at_end_iff : (∀ d ∈ back, ¬ d.covers family) →
    (final.Dead family ↔ ¬ Overtaken family front back)
  /-- What an overtaken rotation adds is accepted whenever it is presented in time. -/
  good : Overtaken family front back → ∃ b ∈ back, ∃ row, row.family = family ∧
    b.after.byHash? row.hash = some row ∧ ∀ now g (policy : Policy), now ≤ row.expiresAt →
      policy.graceExpiresAt? now = some g → row.judge now policy = .firstUse now g

theorem History.revocation_of_covers {k : StoreKind} {rows final : Table}
    {front back : List Deed} {d : Deed} {family : Uuid}
    (h : History k rows (front ++ d :: back) final)
    (inherited : Inherited [] (front ++ d :: back)) (one : rows.OneSubject)
    (covers : d.covers family) : Revocation family front d back final := by
  obtain ⟨hfront, lawful, hback⟩ := h.split_cons
  have hone : d.before.OneSubject :=
    hfront.oneSubject inherited.front (fun e he => absurd he List.not_mem_nil) one
  have swept := lawful.dead_of_covers hone covers
  have hdead (hnot : ¬ Overtaken family front back) :=
    hback.dead_of_not_overtaken swept
      (fun hover => hnot (hover.of_snoc (Deed.not_acceptsIn_of_covers covers)))
      fun first e rest heq hadds => by
        subst heq
        exact (hback.split_cons.2.1).overtaken inherited.split_cons.2.split_cons.1 hadds
  refine ⟨swept, ⟨fun hall hover => ?_, fun hnot e he => ((hdead hnot).2 e he).2⟩,
    fun hnot e he hash hp r found hfamily => ?_, fun hnot => (hdead hnot).1,
    fun hlast => ⟨fun hfinal hover => ?_, fun hnot => (hdead hnot).1⟩, fun hover => ?_⟩
  · obtain ⟨_, b, _, row, rfl, hfamily, found, hnone, -⟩ := hback.good_of_overtaken hover
    have hsome := hall b (by simp) row (Table.mem_of_byHash? found) hfamily
    rw [hnone] at hsome
    cases hsome
  · cases hacc : e.accepted? with
    | none => rfl
    | some accepted =>
      obtain ⟨row, kind⟩ := accepted
      obtain ⟨hp', r', found', -, hnone, -⟩ := (hback.lawful_of_mem he).of_accepted hacc
      rw [hp] at hp'
      cases hp'
      rw [found] at found'
      cases found'
      have hsome := ((hdead hnot).2 e he).1 r (Table.mem_of_byHash? found) hfamily
      rw [hnone] at hsome
      cases hsome
  · obtain ⟨_, b, _, row, rfl, hfamily, found, hnone, -⟩ := hback.good_of_overtaken hover
    obtain ⟨r, hr, hrf, hrn⟩ := hback.split_cons.2.2.spares
      (fun e he => hlast e (by simp [he])) ⟨row, Table.mem_of_byHash? found, hfamily, hnone⟩
    have hsome := hfinal r hr hrf
    rw [hrn] at hsome
    cases hsome
  · obtain ⟨_, b, _, row, rfl, hfamily, found, hnone, hunused⟩ := hback.good_of_overtaken hover
    refine ⟨b, by simp, row, hfamily, found, fun now g policy hin hg => ?_⟩
    exact Row.judge_eq_firstUse_iff.mpr ⟨hnone, hin, hunused, rfl, hg⟩

/-- **Revocation under every schedule** of any number of calls, on a table whose families have one
    subject each: from a sweep on, a family stays dead exactly when the sweep did not overtake a
    rotation between the acceptance of its token and the insertion of the successor. -/
theorem Pool.revocation (settings : Settings) (world : Program.World AnyStore)
    (jobs : List (Session.Work × Clock)) (heirs : ∀ job ∈ jobs, job.1.succeedsOnly)
    (one : world.store.rows.OneSubject) (schedule : List Nat) (family : Uuid)
    (front back : List Deed) (d : Deed)
    (split : (begin settings world jobs).deeds schedule = front ++ d :: back)
    (covers : d.covers family) :
    Revocation family front d back ((begin settings world jobs).run schedule).rows := by
  have history := (begin settings world jobs).history schedule
  have inherited := Pool.inherited (heirs_begin settings world heirs) schedule
  rw [split] at history inherited
  exact history.revocation_of_covers inherited one covers

namespace Pool

/-- A token that nobody has presented, and the draws that go on from it. -/
def raceRow : Row × Draws :=
  Session.sampleRow (Secret.ofNat 100).token "alice" (.ofLists [] [])

/-- The world of the token. -/
def raceWorld : Program.World AnyStore := { store := .memoryOf [raceRow.1], draws := raceRow.2 }

/-- It is rotated while its family is revoked, and the successor is presented. -/
def raceJobs : List (Session.Work × Clock) :=
  [(.rotate (Secret.ofNat 100).token, .fixed Session.sampleInstant),
    (.revokeFamily raceRow.1.family, .fixed Session.sampleInstant),
    (.consume (Secret.ofNat 1).token, .fixed Session.sampleInstant)]

/-- The rotation gets as far as its first entry in the log, then the sweep comes, then the rotation
    goes on to its end, then the successor is presented. -/
def raceSchedule : List Nat := [0, 0, 1, 1, 0, 0, 0, 0, 0, 2, 2]

/-- The deeds of the race. -/
def raceDeeds : List Deed := (begin (.trial .default) raceWorld raceJobs).deeds raceSchedule

/-- **The sweep overtakes the rotation**: it revokes the family, and still the successor is accepted
    after it. -/
theorem revocation_of_race :
    Overtaken raceRow.1.family (raceDeeds.take 1) (raceDeeds.drop 2) ∧
      (raceDeeds.drop 2).any (Deed.acceptsIn raceRow.1.family) ∧
        ∃ sweep, Revocation raceRow.1.family (raceDeeds.take 1) sweep (raceDeeds.drop 2)
          ((begin (.trial .default) raceWorld raceJobs).run raceSchedule).rows := by
  have two : 1 < raceDeeds.length := by decide +kernel
  have split : raceDeeds = raceDeeds.take 1 ++ raceDeeds[1] :: raceDeeds.drop 2 := by
    rw [List.getElem_cons_drop, List.take_append_drop]
  have covers : raceDeeds[1]?.all (Deed.covers raceRow.1.family) := by decide +kernel
  rw [List.getElem?_eq_getElem two] at covers
  exact ⟨by decide +kernel, by decide +kernel, raceDeeds[1],
    Pool.revocation _ _ _ (by decide) (by decide +kernel) _ _ _ _ _ split covers⟩

end Pool

end TokenRotation

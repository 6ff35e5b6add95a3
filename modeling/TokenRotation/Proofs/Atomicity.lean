import TokenRotation.Proofs.Endings

/-!
# What failures leave behind

An operation that is one unit of work leaves the table as it was when it fails. A presentation that
is taken for a theft fails as well, and sweeps the family. A rotation is made of several units of
work, and one that fails leaves one of four things: nothing, that sweep, the stamps of the presented
row, or a successor without a link to it, which takes a link that failed.

* `Residue.Leaves`, `Residue.eq_of_leaves` -- the four residues, of which no two are the same;
* `Service.consume_ends`, `Service.issue_ends`, `Service.rotate_ends` -- how the services end;
* `Session.failsCleanly` -- all of it for a step of a session, with any faults on its wire.
-/

namespace TokenRotation

/-! ## 1. What can be left -/

namespace Table

/-- No two rows have one identifier. In a database a primary key sees to it. -/
def IdsDistinct (rows : Table) : Prop := (rows.map Row.id).Nodup

instance (rows : Table) : Decidable rows.IdsDistinct :=
  inferInstanceAs (Decidable (rows.map Row.id).Nodup)

section Identifiers

variable {rows later : Table}

/-- An identifier has one place. -/
theorem IdsDistinct.place (h : rows.IdsDistinct) {i j : Nat} {x z : Row} (hx : rows[i]? = some x)
    (hz : rows[j]? = some z) (same : x.id = z.id) : i = j := by
  obtain ⟨hi, rfl⟩ := List.getElem?_eq_some_iff.mp hx
  obtain ⟨hj, rfl⟩ := List.getElem?_eq_some_iff.mp hz
  have hi' : i < (rows.map Row.id).length := by rwa [List.length_map]
  have hj' : j < (rows.map Row.id).length := by rwa [List.length_map]
  refine (List.Nodup.getElem_inj_iff h).mp (?_ : (rows.map Row.id)[i] = (rows.map Row.id)[j])
  rwa [List.getElem_map, List.getElem_map]

theorem IdsDistinct.eq_of_id (h : rows.IdsDistinct) {x z : Row} (hx : x ∈ rows) (hz : z ∈ rows)
    (same : x.id = z.id) : x = z :=
  List.inj_on_of_nodup_map h hx hz same

theorem map_id_of_forall₂ (h : List.Forall₂ Row.Evolves rows later) :
    later.map Row.id = rows.map Row.id := by
  induction h with
  | nil => rfl
  | cons h _ ih => simp only [List.map_cons, h.id, ih]

theorem IdsDistinct.forall₂ (h : rows.IdsDistinct) (hrows : List.Forall₂ Row.Evolves rows later) :
    later.IdsDistinct := by
  rw [IdsDistinct, map_id_of_forall₂ hrows]
  exact h

theorem hasId_eq_false_iff {id : Uuid} : rows.hasId id = false ↔ ∀ r ∈ rows, r.id ≠ id := by
  simp [hasId]

theorem IdsDistinct.append_new {new : Row} (h : rows.IdsDistinct)
    (fresh : rows.hasId new.id = false) : IdsDistinct (rows ++ [new]) := by
  rw [IdsDistinct, List.map_append, List.map_singleton]
  refine List.Nodup.append h (List.nodup_singleton _) fun id hmem heq => ?_
  obtain ⟨r, hr, rfl⟩ := List.mem_map.mp hmem
  exact hasId_eq_false_iff.mp fresh r hr (List.mem_singleton.mp heq)

end Identifiers

/-- The family of the presented row is revoked, and nothing else is changed. -/
def Swept (rows : Table) (hash : String) (after : Table) : Prop :=
  ∃ row now, rows.byHash? hash = some row ∧ row.revokedAt = none ∧
    after = rows.sweep (fun r => r.family = row.family) now

/-- The presented row gets its two stamps, and nothing else is changed. -/
def Stamped (rows : Table) (hash : String) (after : Table) : Prop :=
  ∃ front row back c g, rows = front ++ row :: back ∧ rows.byHash? hash = some row ∧
    row.consumedAt = none ∧
      after = front ++ { row with consumedAt := some c, graceExpiresAt := some g } :: back

theorem changeFirst_append_cons {chosen : Row → Bool} {change : Row → Row} {front back : Table}
    {row : Row} (hfront : ∀ r ∈ front, chosen r = false) (hrow : chosen row) :
    changeFirst chosen change (front ++ row :: back) = front ++ change row :: back := by
  induction front with
  | nil => simp [changeFirst, hrow]
  | cons r rest ih =>
    have hr := hfront r List.mem_cons_self
    have hrest := ih fun s hs => hfront s (List.mem_cons_of_mem r hs)
    simp [changeFirst, hr, hrest]

theorem changeAll_append_cons {chosen : Row → Bool} {change : Row → Row} {front back : Table}
    {row : Row} (hfront : ∀ r ∈ front, chosen r = false) (hrow : chosen row)
    (hback : ∀ r ∈ back, chosen r = false) :
    changeAll chosen change (front ++ row :: back) = front ++ change row :: back := by
  have same {part : Table} (hpart : ∀ r ∈ part, chosen r = false) :
      part.map (fun r => if chosen r then change r else r) = part := by
    have hsame : ∀ r ∈ part, (if chosen r then change r else r) = r := fun r hr => by
      simp [hpart r hr]
    rw [List.map_congr_left hsame, List.map_id']
  simp only [changeAll, List.map_append, List.map_cons, same hfront, same hback, if_pos hrow]

/-- A store that stamps the presented row stamps no other. -/
theorem stamped_of_change {k : StoreKind} {rows : Table} {hash : String} {row : Row}
    (keyed : k = .durable → rows.IdsDistinct) (found : rows.byHash? hash = some row)
    (unused : row.consumedAt = none) (c g : Instant) :
    rows.Stamped hash (k.change (k.presented row) (fun r => r.stamp c g) rows) := by
  obtain ⟨hrow, front, back, rfl, hfront⟩ := List.find?_eq_some_iff_append.mp found
  have hhash : row.hash = hash := by simpa using hrow
  refine ⟨front, row, back, c, g, rfl, found, unused, ?_⟩
  have hstamp : row.stamp c g = { row with consumedAt := some c, graceExpiresAt := some g } := by
    simp [Row.stamp, unused]
  rw [← hstamp]
  cases k with
  | memory =>
    refine changeFirst_append_cons (fun r hr => ?_) (by simp [StoreKind.presented])
    have hne := hfront r hr
    simpa [StoreKind.presented, hhash] using hne
  | durable =>
    have hids := keyed rfl
    rw [IdsDistinct, List.map_append, List.map_cons, List.nodup_append] at hids
    obtain ⟨-, hback, hapart⟩ := hids
    refine changeAll_append_cons (fun r hr => ?_) (by simp [StoreKind.presented]) fun r hr => ?_
    · have hne := hapart r.id (List.mem_map_of_mem hr) row.id List.mem_cons_self
      simpa [StoreKind.presented] using hne
    · have hne : r.id ≠ row.id := fun heq =>
        (List.nodup_cons.mp hback).1 (heq ▸ List.mem_map_of_mem hr)
      simpa [StoreKind.presented] using hne

end Table

/-- What a rotation that fails can leave behind. -/
inductive Residue
  | nothing
  | sweep
  | stamps
  /-- A successor to which the presented row is not linked. -/
  | orphan
deriving DecidableEq, Repr

/-- **What is left**, beginning with the table that a hash was presented to. -/
def Residue.Leaves (rows : Table) (hash : String) (after : Table) : Residue → Prop
  | .nothing => after = rows
  | .sweep => rows.Swept hash after
  | .stamps => rows.Stamped hash after
  | .orphan => ∃ kept row new, rows.byHash? hash = some row ∧
    (kept = rows ∧ row.consumedAt.isSome ∨ rows.Stamped hash kept) ∧ after = kept ++ [new] ∧
      new.subject = row.subject ∧ new.family = row.family ∧ new.consumedAt = none ∧
        new.revokedAt = none

namespace Table

variable {rows after : Table} {hash : String}

/-- A sweep changes no stamp, and it does change a revocation. -/
theorem Swept.columns (h : rows.Swept hash after) :
    after.map Row.consumedAt = rows.map Row.consumedAt ∧
      after.map Row.revokedAt ≠ rows.map Row.revokedAt := by
  obtain ⟨row, now, found, hnone, rfl⟩ := h
  have hconsumed (r : Row) : (r.revoke now).consumedAt = r.consumedAt := by
    unfold Row.revoke
    split <;> rfl
  refine ⟨?_, fun heq => ?_⟩
  · simp only [sweep, changeAll, List.map_map]
    refine List.map_congr_left fun r _ => ?_
    simp only [Function.comp_apply]
    split
    · exact hconsumed r
    · rfl
  · simp only [sweep, changeAll, List.map_map] at heq
    have hrow := List.map_inj_left.mp heq row (mem_of_byHash? found)
    simp [Row.revoke, hnone] at hrow

/-- The stamps change no revocation, and they do change a stamp. -/
theorem Stamped.columns (h : rows.Stamped hash after) :
    after.map Row.revokedAt = rows.map Row.revokedAt ∧
      after.map Row.consumedAt ≠ rows.map Row.consumedAt := by
  obtain ⟨front, row, back, c, g, rfl, -, hnone, rfl⟩ := h
  refine ⟨by simp, fun heq => ?_⟩
  simp [hnone] at heq

theorem Swept.length_eq (h : rows.Swept hash after) : after.length = rows.length := by
  obtain ⟨row, now, -, -, rfl⟩ := h
  exact length_sweep _ _ _

theorem Stamped.length_eq (h : rows.Stamped hash after) : after.length = rows.length := by
  obtain ⟨front, row, back, c, g, rfl, -, -, rfl⟩ := h
  simp

end Table

namespace Residue

variable {rows after : Table} {hash : String} {residue other : Residue}

/-- Only an orphan makes the table longer. -/
theorem Leaves.length (h : residue.Leaves rows hash after) :
    after.length = rows.length + if residue = .orphan then 1 else 0 := by
  cases residue with
  | nothing =>
    rw [show after = rows from h]
    rfl
  | sweep => exact Table.Swept.length_eq h
  | stamps => exact Table.Stamped.length_eq h
  | orphan =>
    obtain ⟨kept, _, new, -, hkept, rfl, -⟩ := h
    rcases hkept with ⟨rfl, -⟩ | hkept
    · simp
    · simp [hkept.length_eq]

/-- **No two residues are the same.** -/
theorem eq_of_leaves (h : residue.Leaves rows hash after) (h' : other.Leaves rows hash after) :
    residue = other := by
  have hlength := h.length.symm.trans h'.length
  cases residue <;> cases other <;> simp at hlength
  · rfl
  · exact absurd (congrArg _ h) (Table.Swept.columns h').2
  · exact absurd (congrArg _ h) (Table.Stamped.columns h').2
  · exact absurd (congrArg _ h') (Table.Swept.columns h).2
  · rfl
  · exact absurd (Table.Swept.columns h).1 (Table.Stamped.columns h').2
  · exact absurd (congrArg _ h') (Table.Stamped.columns h).2
  · exact absurd (Table.Swept.columns h').1 (Table.Stamped.columns h).2
  · rfl
  · rfl

end Residue

/-! ## 2. Links that fail -/

/-- The deed is a link that the store did not carry out. -/
def Deed.isFailedLink : Deed → Bool
  | ⟨_, _, .link .., .done _, _⟩ => false
  | ⟨_, _, .link .., _, _⟩ => true
  | _ => false

/-! ## 3. Services -/

namespace Service

open Program

variable {k : StoreKind} {rows : Table}

/-- How the consumption of a token ends. -/
def ConsumeEnd (rows : Table) (hash : String) : Outcome ConsumedToken → Table → Prop
  | .done c, after => ∃ row, rows.byHash? hash = some row ∧ c.subject = row.subject ∧
    c.family = row.family ∧ (after = rows ∧ row.consumedAt.isSome ∨ rows.Stamped hash after)
  | .failed e, after =>
    if e = .refused .reused then rows.Swept hash after else after = rows
  | .aborted _, after => after = rows

/-- **Consuming a token**: a failure leaves the table as it was, but for a sweep when the token is
    taken for stolen. -/
theorem consume_ends (policy : Policy) (token : String) (clock : Clock)
    (keyed : k = .durable → rows.IdsDistinct) :
    (consume policy token clock).Ends k rows fun deeds outcome after =>
      deeds.any Deed.isFailedLink = false ∧ ConsumeEnd rows (hashOf token) outcome after := by
  refine ends_log (ends_store_bind (fun actor answer after h => ?_) (fun actor e hun => ?_)
    fun actor cause => ⟨rfl, rfl⟩)
  · cases h with
    | unknown absent => exact ends_log (ends_finish ⟨rfl, rfl⟩)
    | @refused _ _ _ row now reason found shown verdict =>
      refine ends_log (ends_finish ⟨rfl, ?_⟩)
      have hne : reason ≠ .reused := by
        rintro rfl
        simpa using Row.judge_eq_refuse_iff.mp verdict
      simp [ConsumeEnd, hne]
    | @first _ _ _ row now c g found shown verdict =>
      obtain ⟨-, -, hnone, -, -⟩ := Row.judge_eq_firstUse_iff.mp verdict
      have hevolves := row.evolves_stamp c g
      exact ends_log (ends_finish ⟨rfl, row, found, hevolves.subject, hevolves.family,
        .inr (Table.stamped_of_change keyed found hnone _ _)⟩)
    | @grace _ _ _ row now found shown verdict =>
      obtain ⟨-, -, hconsumed, -⟩ := Row.judge_eq_withinGrace_iff.mp verdict
      exact ends_log (ends_finish ⟨rfl, row, found, rfl, rfl, .inl ⟨rfl, hconsumed⟩⟩)
    | @reuse _ _ _ row now found shown verdict =>
      obtain ⟨hnone, -, -⟩ := Row.judge_eq_reuse_iff.mp verdict
      refine ends_log (ends_finish ⟨rfl, ?_⟩)
      simp only [ConsumeEnd, if_pos]
      exact ⟨row, _, found, hnone, rfl⟩
  · refine ⟨rfl, ?_⟩
    simp [ConsumeEnd, hun .reused]

/-- How the issue of a token ends: with one new row, or as if it had not begun. -/
def IssueEnd (k : StoreKind) (rows : Table) (subject : String) (family : Option Uuid) :
    Outcome IssuedToken → Table → Prop
  | .done _, after => ∃ token : NewToken, token.subject = subject ∧
    (∀ f, family = some f → token.family = f) ∧ after = rows ++ [k.keepRow token.row]
  | _, after => after = rows

theorem issueWithin_ends {policy : Policy} {subject : String} {family : Uuid} {now : Instant}
    {left number : Nat} :
    (issueWithin policy subject family now left number).Ends k rows fun deeds outcome after =>
      deeds.any Deed.isFailedLink = false ∧
        IssueEnd k rows subject (some family) outcome after := by
  induction left generalizing number with
  | zero => exact ends_finish ⟨rfl, rfl⟩
  | succ left ih =>
    refine ends_secret fun secret => ends_uuid fun id => ?_
    cases policy.expiresAt? now with
    | none => exact ends_finish ⟨rfl, rfl⟩
    | some expiresAt =>
      refine ends_call (fun actor answer after h => ?_) (fun actor e _ => ?_)
        fun actor cause => ⟨rfl, rfl⟩
      · cases h with
        | insert fresh =>
          exact ends_log (ends_finish ⟨rfl, _, rfl, fun f hf => by cases hf; rfl, rfl⟩)
      · cases e with
        | hashCollision => exact ends_log ih
        | database | invalidInput | notFound | refused => exact ends_finish ⟨rfl, rfl⟩

/-- **Issuing a token**: a failure leaves the table as it was, whatever collided before it. -/
theorem issue_ends (policy : Policy) (subject : String) (family : Option Uuid) (now : Instant) :
    (issue policy subject family now).Ends k rows fun deeds outcome after =>
      deeds.any Deed.isFailedLink = false ∧ IssueEnd k rows subject family outcome after := by
  refine ends_log ?_
  split
  · exact ends_finish ⟨rfl, rfl⟩
  · cases family with
    | some family => exact issueWithin_ends
    | none =>
      refine ends_uuid fun fresh => issueWithin_ends.imp fun deeds outcome after h => ?_
      refine ⟨h.1, ?_⟩
      cases outcome with
      | done issued =>
        obtain ⟨token, hsubject, -, hafter⟩ := h.2
        exact ⟨token, hsubject, nofun, hafter⟩
      | failed | aborted => exact h.2

/-- How a rotation ends that does not end in a token. -/
def RotateEnd (rows : Table) (hash : String) (deeds : List Deed) :
    Outcome RotatedToken → Table → Prop
  | .done _, _ => True
  | _, after => ∃ residue : Residue, residue.Leaves rows hash after ∧
    (residue = .orphan ↔ deeds.any Deed.isFailedLink)

/-- **Rotating a token**: a failure leaves one of the residues, and an orphan exactly when a link
    failed. -/
theorem rotate_ends (policy : Policy) (token : String) (clock : Clock)
    (keyed : k = .durable → rows.IdsDistinct) :
    (rotate policy token clock).Ends k rows fun deeds outcome after =>
      RotateEnd rows (hashOf token) deeds outcome after := by
  refine ends_bind ((consume_ends policy token clock keyed).imp fun deeds outcome kept h => ?_)
  obtain ⟨hlinks, hend⟩ := h
  cases outcome with
  | aborted cause => exact ⟨.nothing, hend, by simp [hlinks]⟩
  | failed e =>
    simp only [ConsumeEnd] at hend
    split at hend
    · exact ⟨.sweep, hend, by simp [hlinks]⟩
    · exact ⟨.nothing, hend, by simp [hlinks]⟩
  | done consumed =>
    obtain ⟨row, found, hsubject, hfamily, hkept⟩ := hend
    -- from here on a failure before the insertion leaves what the consumption left
    obtain ⟨residue, hleaves, hplain⟩ : ∃ residue : Residue,
        residue.Leaves rows (hashOf token) kept ∧ residue ≠ .orphan := by
      rcases hkept with ⟨hkept, -⟩ | hkept
      · exact ⟨.nothing, hkept, by simp⟩
      · exact ⟨.stamps, hkept, by simp⟩
    change Ends k kept (fun more => RotateEnd rows (hashOf token) (deeds ++ more))
      (Program.now clock >>= _)
    refine ends_now_bind (fun now _ => ?_) fun cause _ =>
      ⟨residue, hleaves, by simp [hlinks, hplain]⟩
    refine ends_bind ((issue_ends _ _ _ _).imp fun more outcome after h => ?_)
    obtain ⟨hmore, hissue⟩ := h
    have hnone : (deeds ++ more).any Deed.isFailedLink = false := by simp [hlinks, hmore]
    cases outcome with
    | failed e =>
      rw [show after = kept from hissue]
      exact ⟨residue, hleaves, by simp [hnone, hplain]⟩
    | aborted cause =>
      rw [show after = kept from hissue]
      exact ⟨residue, hleaves, by simp [hnone, hplain]⟩
    | done issued =>
      obtain ⟨new, hns, hnf, rfl⟩ := hissue
      have horphan : Residue.Leaves rows (hashOf token) (kept ++ [k.keepRow new.row]) .orphan :=
        ⟨kept, row, _, found, hkept, rfl, ((k.keepRow_subject _).trans hns).trans hsubject,
          ((k.keepRow_family _).trans (hnf _ rfl)).trans hfamily, k.keepRow_consumedAt new,
          k.keepRow_revokedAt new⟩
      change Ends k _ (fun last => RotateEnd rows (hashOf token) (deeds ++ (more ++ last)))
        (Program.store (.link consumed.id issued.id) >>= _)
      refine ends_store_bind (fun actor linked after _ => ?_) (fun actor e _ => ?_)
        fun actor cause => ?_
      · cases linked with
        | true => exact ends_finish trivial
        | false => exact ends_log (ends_finish trivial)
      · exact ⟨.orphan, horphan, by simp [Deed.isFailedLink]⟩
      · exact ⟨.orphan, horphan, by simp [Deed.isFailedLink]⟩

/-- A failure leaves the table as it was. -/
def Untouched {α : Type} (rows : Table) : Outcome α → Table → Prop
  | .done _, _ => True
  | _, after => after = rows

theorem ends_map {α β : Type} {p : Program α}
    (h : p.Ends k rows fun _ => Untouched rows) (f : α → β) :
    (p >>= fun a => pure (f a)).Ends k rows fun _ => Untouched rows := by
  refine ends_bind (h.imp fun deeds outcome after hend => ?_)
  cases outcome with
  | done a => exact Ends.then_pure trivial
  | failed | aborted => exact hend

theorem call_ends {α : Type} (call : StoreCall) (f : call.Answer → α) :
    (Program.store call >>= fun answer => pure (f answer)).Ends k rows
      fun _ => Untouched rows :=
  ends_store_bind (fun _ _ _ _ => ends_finish trivial) (fun _ _ _ => rfl) fun _ _ => rfl

theorem revokeFamily_ends (family : Uuid) (now : Instant) :
    (revokeFamily family now).Ends k rows fun _ => Untouched rows :=
  ends_log (ends_store_bind (fun _ _ _ _ => ends_log (ends_finish trivial)) (fun _ _ _ => rfl)
    fun _ _ => rfl)

theorem revokeSubject_ends (subject : String) (now : Instant) :
    (revokeSubject subject now).Ends k rows fun _ => Untouched rows :=
  ends_log (ends_store_bind (fun _ _ _ _ => ends_log (ends_finish trivial)) (fun _ _ _ => rfl)
    fun _ _ => rfl)

/-- Whoever asks to log out changes nothing by showing a token. -/
theorem authenticate_ends (token : String) (now : Instant) :
    (authenticate token now).Ends k rows fun _ _ after => after = rows := by
  refine ends_store_bind (fun actor found after h => ?_) (fun _ _ _ => rfl) fun _ _ => rfl
  cases h
  cases rows.byHash? (hashOf token) with
  | none => exact ends_finish rfl
  | some row =>
    dsimp only
    split
    · exact ends_finish rfl
    · exact ends_finish rfl
    · exact ends_log (ends_finish rfl)

theorem logout_ends (token : String) (now : Instant) :
    (logout token now).Ends k rows fun _ => Untouched rows := by
  refine ends_bind ((authenticate_ends token now).imp fun deeds outcome after hafter => ?_)
  subst hafter
  cases outcome with
  | done row => exact revokeFamily_ends row.family now
  | failed | aborted => exact rfl

theorem logoutEverywhere_ends (token : String) (now : Instant) :
    (logoutEverywhere token now).Ends k rows fun _ => Untouched rows := by
  refine ends_bind ((authenticate_ends token now).imp fun deeds outcome after hafter => ?_)
  subst hafter
  cases outcome with
  | done row => exact revokeSubject_ends row.subject now
  | failed | aborted => exact rfl

end Service

/-! ## 4. Steps of a session -/

namespace Session

open Program Service

/-- Work that leaves no trace when it fails. -/
def Work.isAtomic : Work → Bool
  | .consume _ | .rotate _ | .serve _ => false
  | _ => true

theorem Work.ends_of_isAtomic {work : Work} (h : work.isAtomic) (settings : Settings)
    (clock : Clock) (k : StoreKind) (rows : Table) :
    (work.program settings clock).Ends k rows fun _ => Untouched rows := by
  cases work with
  | issue subject family =>
    refine ends_now_bind (fun now _ => ends_map ?_ _) fun _ _ => rfl
    refine (issue_ends _ subject family now).imp fun deeds outcome after hend => ?_
    cases outcome with
    | done issued => trivial
    | failed | aborted => exact hend.2
  | revokeFamily family =>
    exact ends_now_bind (fun now _ => ends_map (revokeFamily_ends family now) _) fun _ _ => rfl
  | revokeSubject subject =>
    exact ends_now_bind (fun now _ => ends_map (revokeSubject_ends subject now) _) fun _ _ => rfl
  | logout token =>
    exact ends_now_bind (fun now _ => ends_map (logout_ends token now) _) fun _ _ => rfl
  | logoutEverywhere token =>
    exact ends_now_bind (fun now _ => ends_map (logoutEverywhere_ends token now) _) fun _ _ => rfl
  | link id successor => exact call_ends (.link id successor) _
  | find token => exact call_ends (.getByHash (hashOf token)) _
  | lineage family statusAt => exact call_ends (.listFamily family) _
  | call c => exact call_ends c _
  | policy | settings => exact ends_finish trivial
  | consume | rotate | serve => cases h

/-- **What a step leaves behind that does not end in its value.** -/
structure FailsCleanly (s : Session) (step : Step) : Prop where
  atomic : ∀ work, step.command = .work work → work.isAtomic →
    (∀ v, (s.take step).1.outcome ≠ .done v) → (s.take step).2.store.rows = s.store.rows
  /-- Consuming a token leaves the table as it was, unless the token is taken for stolen. -/
  consume : ∀ token, step.command = .work (.consume token) →
    (∀ v, (s.take step).1.outcome ≠ .done v) →
      if (s.take step).1.outcome = .failed (.refused .reused) then
        s.store.rows.Swept (hashOf token) (s.take step).2.store.rows
      else (s.take step).2.store.rows = s.store.rows
  /-- Rotating a token leaves exactly one of the residues, and an orphan only after a link that
      failed. -/
  rotate : ∀ token, step.command = .work (.rotate token) →
    (∀ v, (s.take step).1.outcome ≠ .done v) →
      ∃ residue : Residue,
        residue.Leaves s.store.rows (hashOf token) (s.take step).2.store.rows ∧
        (∀ other : Residue,
          other.Leaves s.store.rows (hashOf token) (s.take step).2.store.rows → other = residue) ∧
        (residue = .orphan ↔ (s.stepDeeds 0 step).any Deed.isFailedLink)

/-- **Every step fails cleanly**, on a store of either kind, with any faults on its wire and any
    collisions that were asked for. -/
theorem failsCleanly (s : Session) (keyed : s.store.kind = .durable → s.store.rows.IdsDistinct)
    (step : Step) : s.FailsCleanly step where
  atomic work asked hatomic hnot := by
    have hend := take_ends asked (Work.ends_of_isAtomic hatomic s.settings step.clock _ _) 0
    cases houtcome : (s.take step).1.outcome with
    | done v => exact absurd houtcome (hnot v)
    | failed | aborted =>
      rw [houtcome] at hend
      exact hend
  consume token asked hnot := by
    have hprogram : (Work.program s.settings step.clock (.consume token)).Ends s.store.kind
        s.store.rows fun _ outcome after => (∀ v, outcome ≠ .done v) →
          if outcome = .failed (.refused .reused) then s.store.rows.Swept (hashOf token) after
          else after = s.store.rows := by
      refine ends_bind ((consume_ends _ token step.clock keyed).imp
        fun deeds outcome after hend => ?_)
      cases outcome with
      | done c => exact Ends.then_pure fun hnone => absurd rfl (hnone _)
      | failed e =>
        intro _
        have hfailed := hend.2
        simp only [ConsumeEnd] at hfailed
        simpa using hfailed
      | aborted cause => exact fun _ => hend.2
    exact take_ends asked hprogram 0 hnot
  rotate token asked hnot := by
    have hprogram : (Work.program s.settings step.clock (.rotate token)).Ends s.store.kind
        s.store.rows fun deeds outcome after => (∀ v, outcome ≠ .done v) →
          ∃ residue : Residue, residue.Leaves s.store.rows (hashOf token) after ∧
            (residue = .orphan ↔ deeds.any Deed.isFailedLink) := by
      refine ends_bind ((rotate_ends _ token step.clock keyed).imp
        fun deeds outcome after hend => ?_)
      cases outcome with
      | done r => exact Ends.then_pure fun hnone => absurd rfl (hnone _)
      | failed | aborted => exact fun _ => hend
    obtain ⟨residue, hleaves, horphan⟩ := take_ends asked hprogram 0 hnot
    exact ⟨residue, hleaves, fun other hother => Residue.eq_of_leaves hother hleaves, horphan⟩

/-- A duplicate inside the grace window, on a database that loses its last statement: the rotation
    fails and leaves an orphan. -/
theorem failsCleanly_of_lost_link :
    let token := (Secret.ofNat 100).token
    let sample := sampleRow token "alice" (.ofLists [] [])
    let row := sample.1.stamp sampleInstant ⟨sampleInstant.nanos + Policy.default.grace.nanos⟩
    let s : Session := { store := .durableOf [row] { reachable := true }, draws := sample.2
                         settings := .trial .default }
    let step : Step := { Step.at 5 (.rotate token) with
      faults := [{ target := .statement .update, state := "57014" }] }
    s.FailsCleanly step ∧
      (s.take step).1.outcome = .failed (.database "Database operation failed") ∧
        (s.stepDeeds 0 step).any Deed.isFailedLink ∧ (s.take step).2.store.rows.length = 2 :=
  ⟨failsCleanly _ (fun _ => by decide +kernel) _, by decide +kernel, by decide +kernel,
    by decide +kernel⟩

end Session

end TokenRotation

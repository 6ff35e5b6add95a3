import TokenRotation.Proofs.Demands
import TokenRotation.Proofs.Lifecycle
import TokenRotation.Proofs.Undisturbed

/-!
# The constraints of the table

A database checks of each row that its hash has 64 characters and that its two stamps come together,
and of the table that identifiers and hashes are distinct and that a successor is a row. The store
in memory checks hardly any of it. The operations keep all of it on either store, and with it the
distances in time: a row expires its lifetime after its creation, its grace window closes as long as
the policy says after its first use, and that use was in its lifetime. A database cuts all four
instants off; where the policy counts in whole microseconds, the distances stay what they are.

So a database without faults never has a constraint to refuse an operation with.

* `Row.Coherent`, `Table.Coherent` -- the constraints, and the distances in time;
* `Row.Stays` -- what may become of a coherent row;
* `Stage.Rooted` -- a row that is held was consumed, and a successor that is pending is a row;
* `Standing.deed` -- every deed of an operation keeps all of it;
* `Session.constrained` -- **the constraints hold in every run of operations**, and no call of a
  database without faults breaks one.
-/

namespace TokenRotation

/-! ## 1. Rows and tables -/

/-- **The row is one that a database takes in, and its instants are those of the policy.** -/
structure Row.Coherent (policy : Policy) (r : Row) : Prop where
  /-- The hash has 64 characters. -/
  hash : r.hash.length = 64
  /-- The stamps are both set, or neither is. -/
  paired : r.consumedAt.isSome = r.graceExpiresAt.isSome
  /-- The row expires its lifetime after its creation. -/
  expiry : r.expiresAt = ⟨r.createdAt.nanos + policy.lifetime.nanos⟩
  /-- The grace window opens with the first use. -/
  grace : ∀ c ∈ r.consumedAt, ∀ g ∈ r.graceExpiresAt, g = ⟨c.nanos + policy.grace.nanos⟩
  /-- The row was not used after it had expired. -/
  intime : ∀ c ∈ r.consumedAt, c ≤ r.expiresAt
  /-- A row with a successor was consumed. -/
  successor : r.replacedBy.isSome → r.consumedAt.isSome

/-- **The table satisfies the constraints of a database, and its rows are coherent.** -/
structure Table.Coherent (policy : Policy) (rows : Table) : Prop where
  /-- No two rows have one identifier. -/
  ids : rows.IdsDistinct
  /-- No two rows have one hash. -/
  hashes : rows.HashesDistinct
  each : ∀ r ∈ rows, r.Coherent policy
  /-- A successor is a row of the table. -/
  referenced : ∀ r ∈ rows, ∀ y ∈ r.replacedBy, rows.hasId y

/-- **The policy counts in whole microseconds**: tokens live for a while, and their grace window
    does not close before it opens. -/
structure Policy.IsWhole (p : Policy) : Prop where
  lives : 0 < p.lifetime.nanos
  opens : 0 ≤ p.grace.nanos
  lifetime : nanosPerMicrosecond ∣ p.lifetime.nanos
  grace : nanosPerMicrosecond ∣ p.grace.nanos

instance (p : Policy) : Decidable p.IsWhole :=
  decidable_of_iff (0 < p.lifetime.nanos ∧ 0 ≤ p.grace.nanos ∧
      nanosPerMicrosecond ∣ p.lifetime.nanos ∧ nanosPerMicrosecond ∣ p.grace.nanos)
    ⟨fun h => ⟨h.1, h.2.1, h.2.2.1, h.2.2.2⟩, fun h => ⟨h.lives, h.opens, h.lifetime, h.grace⟩⟩

/-- The clock shows no instant before the year 2000. -/
def Clock.IsRecent (clock : Clock) : Prop := ∀ t ∈ clock.now.toOption, Instant.databaseEpoch ≤ t

instance (clock : Clock) : Decidable clock.IsRecent :=
  inferInstanceAs (Decidable (∀ t ∈ clock.now.toOption, Instant.databaseEpoch ≤ t))

theorem Clock.IsRecent.le {clock : Clock} (h : clock.IsRecent) {t : Instant}
    (shown : clock.now = .ok t) : Instant.databaseEpoch ≤ t :=
  h t (by rw [shown]; rfl)

namespace StoreKind

variable (k : StoreKind) {t : Instant}

theorem keepRow_createdAt (r : Row) : (k.keepRow r).createdAt = k.keep r.createdAt := by
  cases k <;> rfl

theorem keepRow_expiresAt (r : Row) : (k.keepRow r).expiresAt = k.keep r.expiresAt := by
  cases k <;> rfl

/-- A store of either kind keeps distances of whole microseconds. -/
theorem keep_add {d : Duration} (late : Instant.databaseEpoch ≤ t) (forward : 0 ≤ d.nanos)
    (whole : nanosPerMicrosecond ∣ d.nanos) :
    k.keep ⟨t.nanos + d.nanos⟩ = ⟨(k.keep t).nanos + d.nanos⟩ := by
  cases k with
  | memory => rfl
  | durable => exact Instant.stored_add late forward whole

theorem keep_le (late : Instant.databaseEpoch ≤ t) : k.keep t ≤ t := by
  cases k with
  | memory => exact Int.le_refl _
  | durable => exact (Instant.stored_le late).1

end StoreKind

/-! ## 2. What keeps rows coherent -/

namespace Row.Coherent

variable {policy : Policy} {r : Row}

theorem revoke (h : r.Coherent policy) (t : Instant) : (r.revoke t).Coherent policy := by
  unfold Row.revoke
  split
  · exact ⟨h.hash, h.paired, h.expiry, h.grace, h.intime, h.successor⟩
  · exact h

theorem link (h : r.Coherent policy) (consumed : r.consumedAt.isSome) (y : Uuid) :
    Coherent policy { r with replacedBy := some y } :=
  ⟨h.hash, h.paired, h.expiry, h.grace, h.intime, fun _ => consumed⟩

/-- Stamps that keep their distance can be set while the row lives. -/
theorem stamp (h : r.Coherent policy) {c g : Instant} (closes : g = ⟨c.nanos + policy.grace.nanos⟩)
    (intime : c ≤ r.expiresAt) : (r.stamp c g).Coherent policy := by
  unfold Row.stamp
  split
  · refine ⟨h.hash, rfl, h.expiry, fun c' hc g' hg => ?_, fun c' hc => ?_, fun _ => rfl⟩
    · cases hc
      cases hg
      exact closes
    · cases hc
      exact intime
  · exact h

/-- **A new row is coherent** if it goes by a clock and the policy, as far as it is kept. -/
theorem keepRow {clock : Clock} {token : NewToken} (whole : policy.IsWhole)
    (recent : clock.IsRecent) (goes : (StoreCall.insert token).GoesBy policy clock)
    (k : StoreKind) : (k.keepRow token.row).Coherent policy := by
  obtain ⟨shown, expires, text, hash⟩ := goes
  obtain ⟨expires, -⟩ := Instant.add?_eq_some_iff.mp expires
  obtain ⟨unused, undated, unlinked, -⟩ := k.isPristine_keepRow token
  refine ⟨?_, ?_, ?_, ?_, ?_, ?_⟩
  · rw [k.keepRow_hash]
    exact (congrArg String.length hash).trans (length_hashOf text)
  · rw [unused, undated]
  · rw [k.keepRow_expiresAt, k.keepRow_createdAt]
    refine (congrArg k.keep expires).trans ?_
    exact k.keep_add (recent.le shown) (Int.le_of_lt whole.lives) whole.lifetime
  · simp [unused]
  · simp [unused]
  · simp [unlinked]

end Row.Coherent

/-- **What may become of a row beside the rows of a table**: it evolves, stays coherent, and a
    successor that it gets is one of those rows. -/
structure Row.Stays (policy : Policy) (rows : Table) (r s : Row) : Prop
    extends Row.Evolves r s where
  coherent : r.Coherent policy → s.Coherent policy
  referenced : ∀ y ∈ s.replacedBy, y ∈ r.replacedBy ∨ rows.hasId y

namespace Row.Stays

variable {policy : Policy} {rows : Table} {r : Row}

theorem refl (r : Row) : r.Stays policy rows r :=
  { Evolves.refl r with
    coherent := fun h => h
    referenced := fun _ hy => .inl hy }

theorem revoke (r : Row) (t : Instant) : r.Stays policy rows (r.revoke t) :=
  { r.evolves_revoke t with
    coherent := fun h => h.revoke t
    referenced := fun _ hy => .inl (r.replacedBy_revoke t ▸ hy) }

theorem stamp {c g : Instant} (closes : g = ⟨c.nanos + policy.grace.nanos⟩)
    (intime : c ≤ r.expiresAt) : r.Stays policy rows (r.stamp c g) :=
  { r.evolves_stamp c g with
    coherent := fun h => h.stamp closes intime
    referenced := fun _ hy => .inl (r.replacedBy_stamp c g ▸ hy) }

theorem link {y : Uuid} (unlinked : r.replacedBy = none) (consumed : r.consumedAt.isSome)
    (known : rows.hasId y) : r.Stays policy rows { r with replacedBy := some y } :=
  { evolves_link unlinked y with
    coherent := fun h => h.link consumed y
    referenced := fun z hz => by
      cases hz
      exact .inr known }

end Row.Stays

/-! ## 3. What keeps tables coherent -/

namespace Table

variable {policy : Policy} {rows later : Table}

theorem hasId_iff {id : Uuid} : rows.hasId id ↔ ∃ r ∈ rows, r.id = id := by
  simp [hasId]

theorem Evolves.hasId {id : Uuid} (h : rows.Evolves later) (known : rows.hasId id) :
    later.hasId id := by
  obtain ⟨r, hr, rfl⟩ := hasId_iff.mp known
  obtain ⟨s, hs, hrs⟩ := h.exists_mem hr
  exact hasId_iff.mpr ⟨s, hs, hrs.id⟩

/-- A row with the identifier was consumed. -/
def HasConsumed (rows : Table) (id : Uuid) : Prop := ∃ r ∈ rows, r.id = id ∧ r.consumedAt.isSome

theorem Evolves.hasConsumed {id : Uuid} (h : rows.Evolves later) (consumed : rows.HasConsumed id) :
    later.HasConsumed id := by
  obtain ⟨r, hr, rfl, used⟩ := consumed
  obtain ⟨s, hs, hrs⟩ := h.exists_mem hr
  exact ⟨s, hs, hrs.id, hrs.isSome_consumedAt used⟩

namespace Coherent

theorem nil : Coherent policy [] where
  ids := List.nodup_nil
  hashes := List.nodup_nil
  each _ h := absurd h List.not_mem_nil
  referenced _ h := absurd h List.not_mem_nil

theorem stays (h : rows.Coherent policy) (hrows : List.Forall₂ (Row.Stays policy rows) rows later) :
    later.Coherent policy := by
  have evolves : List.Forall₂ Row.Evolves rows later := hrows.imp fun _ _ hrs => hrs.toEvolves
  refine ⟨h.ids.forall₂ evolves, ?_, fun s hs => ?_, fun s hs y hy => ?_⟩
  · rw [HashesDistinct, map_hash_of_forall₂ evolves]
    exact h.hashes
  · obtain ⟨r, hr, hrs⟩ := exists_mem_of_forall₂ hrows hs
    exact hrs.coherent (h.each r hr)
  · obtain ⟨r, hr, hrs⟩ := exists_mem_of_forall₂ hrows hs
    have known : rows.hasId y := (hrs.referenced y hy).elim (h.referenced r hr y) id
    exact (Evolves.of_forall₂ evolves).hasId known

theorem append_new {new : Row} (h : rows.Coherent policy) (freshId : rows.hasId new.id = false)
    (hashes : HashesDistinct (rows ++ [new])) (coherent : new.Coherent policy)
    (unlinked : new.replacedBy = none) : Coherent policy (rows ++ [new]) := by
  refine ⟨h.ids.append_new freshId, hashes, fun r hr => ?_, fun r hr y hy => ?_⟩
  · rcases List.mem_append.mp hr with hr | hr
    · exact h.each r hr
    · rw [List.mem_singleton.mp hr]
      exact coherent
  · rcases List.mem_append.mp hr with hr | hr
    · exact (evolves_append rows [new]).hasId (h.referenced r hr y hy)
    · rw [List.mem_singleton.mp hr, unlinked] at hy
      cases hy

/-- The only row with an identifier is the one that was consumed. -/
theorem isSome_consumedAt (h : rows.Coherent policy) {r : Row} (hr : r ∈ rows)
    (consumed : rows.HasConsumed r.id) : r.consumedAt.isSome := by
  obtain ⟨x, hx, same, used⟩ := consumed
  exact h.ids.eq_of_id hx hr same ▸ used

end Coherent

end Table

/-! ## 4. Stages and the table -/

/-- **What a stage says of the table**: the row that is held was consumed, and the successor that is
    pending is a row. -/
def Stage.Rooted (rows : Table) : Stage → Prop
  | .holding row => rows.HasConsumed row.id
  | .pending row new => rows.HasConsumed row.id ∧ rows.hasId new.id
  | _ => True

namespace Stage.Rooted

variable {rows later : Table} {st : Stage}

theorem evolves (h : st.Rooted rows) (hrows : rows.Evolves later) : st.Rooted later := by
  cases st with
  | founding | idle | settled => exact trivial
  | holding row => exact hrows.hasConsumed h
  | pending row new => exact ⟨hrows.hasConsumed h.1, hrows.hasId h.2⟩

/-- Whoever adds a row has it pending, if it is to succeed another. -/
theorem added (h : st.Rooted rows) (new : Row) : (st.added new).Rooted (rows ++ [new]) := by
  cases st with
  | founding | idle | pending | settled => exact trivial
  | holding row =>
    have known : Table.hasId (rows ++ [new]) new.id :=
      Table.hasId_iff.mpr ⟨new, List.mem_append_right rows (List.mem_singleton.mpr rfl), rfl⟩
    exact ⟨(Table.evolves_append rows [new]).hasConsumed h, known⟩

/-- **Every deed leads to a stage that is rooted** in the table after it. -/
theorem told {k : StoreKind} {d : Deed} (h : st.Rooted d.before) (lawful : d.Lawful k) :
    (st.told d).Rooted d.after := by
  obtain ⟨actor, before, call, outcome, after⟩ := d
  change Settled k before call outcome after at lawful
  cases lawful with
  | kept hnot =>
    rw [told_of_not_done hnot]
    exact h
  | @carried answer _ hc =>
    have stay : st.Rooted after := h.evolves hc.evolves
    change (st.hear call answer).Rooted after
    cases hc with
    | unknown | refused | reuse | revokeFamily | revokeSubject | getByHash | listFamily =>
      exact stay
    | link => exact trivial
    | insert => exact h.added _
    | @grace hash clock policy row now found shown verdict =>
      obtain ⟨-, -, used, -⟩ := Row.judge_eq_withinGrace_iff.mp verdict
      exact ⟨row, Table.mem_of_byHash? found, rfl, used⟩
    | @first hash clock policy row now c g found shown verdict =>
      obtain ⟨-, -, unused, -⟩ := Row.judge_eq_firstUse_iff.mp verdict
      have hrow := Table.mem_of_byHash? (k.byHash?_change_presented
        (fun r => (r.evolves_stamp (k.keep c) (k.keep g)).hash) found)
      refine ⟨row.stamp (k.keep c) (k.keep g), hrow, ?_, ?_⟩
      · rw [(row.evolves_stamp _ _).id, (row.evolves_stamp _ _).id]
      · simp [Row.stamp, unused]

end Stage.Rooted

/-! ## 5. Deeds -/

/-- The constraints of a database have nothing against the call, but for that on hashes. -/
def StoreCall.Admitted (rows : Table) : StoreCall → Prop
  | .insert token => token.hash.length = 64 ∧ rows.hasId token.id = false
  | .link _ successor => rows.hasId successor
  | _ => True

/-- **The invariant** of an operation at a stage: a coherent table, and a stage that is rooted in
    it. -/
structure Standing (policy : Policy) (st : Stage) (rows : Table) : Prop where
  coherent : rows.Coherent policy
  rooted : st.Rooted rows

namespace Standing

variable {k : StoreKind} {policy : Policy} {clock : Clock} {st : Stage} {d : Deed}

/-- A link is made to a row that is there, from the row that was consumed. -/
theorem of_link {rows : Table} {id successor : Uuid} (h : Standing policy st rows)
    (allowed : st.Allows (.link id successor)) : rows.HasConsumed id ∧ rows.hasId successor := by
  cases hstage : st with
  | founding | idle | holding | settled =>
    rw [hstage] at allowed
    exact allowed.elim
  | pending row new =>
    have rooted := h.rooted
    rw [hstage] at allowed rooted
    obtain ⟨rfl, rfl⟩ := allowed
    exact rooted

/-- **An operation asks for nothing that a constraint would refuse.** -/
theorem admitted {rows : Table} {call : StoreCall} (h : Standing policy st rows)
    (allowed : st.Allows call) (goes : call.GoesBy policy clock) (new : call.IsNew rows) :
    call.Admitted rows := by
  cases call with
  | insert token =>
    obtain ⟨-, -, text, hash⟩ := goes
    exact ⟨hash ▸ length_hashOf text, new⟩
  | link id successor => exact (h.of_link allowed).2
  | consume | revokeFamily | revokeSubject | getByHash | listFamily => exact trivial

/-- **Every deed of an operation** keeps the table coherent. -/
theorem coherent_deed (h : Standing policy st d.before) (whole : policy.IsWhole)
    (recent : clock.IsRecent) (lawful : d.Lawful k) (allowed : st.Allows d.call)
    (goes : d.call.GoesBy policy clock) (new : d.call.IsNew d.before) :
    d.after.Coherent policy := by
  have hashes := lawful.hashesDistinct h.coherent.hashes
  obtain ⟨actor, before, call, outcome, after⟩ := d
  change Settled k before call outcome after at lawful
  change after.HashesDistinct at hashes
  change Standing policy st before at h
  have coherent := h.coherent
  cases lawful with
  | kept => exact coherent
  | carried hc =>
    have swept (chosen : Row → Bool) (t : Instant) : (before.sweep chosen t).Coherent policy :=
      coherent.stays (Table.forall₂_changeAll (.refl) (fun r _ => .revoke r t) before)
    cases hc with
    | unknown | refused | grace | getByHash | listFamily => exact coherent
    | reuse | revokeFamily | revokeSubject => exact swept _ _
    | @insert token _ =>
      have freshId : before.hasId (k.keepRow token.row).id = false := by
        rw [k.keepRow_id]
        exact new
      exact coherent.append_new freshId hashes (.keepRow whole recent goes k)
        (k.keepRow_replacedBy token)
    | @first hash clock' policy' row now c g found shown verdict =>
      obtain ⟨rfl, rfl⟩ := goes
      obtain ⟨-, intime, -, rfl, closes⟩ := Row.judge_eq_firstUse_iff.mp verdict
      obtain ⟨rfl, -⟩ := Instant.add?_eq_some_iff.mp closes
      have late := recent.le shown
      have hrow := Table.mem_of_byHash? found
      refine coherent.stays (k.forall₂_change_of_mem (.refl) fun r hr hchosen => ?_)
      obtain rfl := k.eq_of_presented (fun _ => coherent.ids) coherent.hashes hrow hr hchosen
      exact .stamp (k.keep_add late whole.opens whole.grace) (Int.le_trans (k.keep_le late) intime)
    | @link id successor _ =>
      obtain ⟨consumed, known⟩ := h.of_link allowed
      refine coherent.stays (k.forall₂_change_of_mem (.refl) fun r hr hchosen => ?_)
      obtain ⟨rfl, unlinked⟩ : r.id = id ∧ r.replacedBy = none := by
        simpa [Row.unlinked] using hchosen
      exact .link unlinked (coherent.isSome_consumedAt hr consumed) known

/-- **All the deeds of an operation** keep the table coherent, and none asks for what a constraint
    would refuse. -/
theorem deeds {rows after : Table} {deeds : List Deed} (h : Standing policy st rows)
    (whole : policy.IsWhole) (recent : clock.IsRecent) (history : History k rows deeds after)
    (follows : st.Follows deeds) (goes : ∀ d ∈ deeds, d.call.GoesBy policy clock)
    (new : ∀ d ∈ deeds, d.call.IsNew d.before) :
    after.Coherent policy ∧ ∀ d ∈ deeds, d.after.Coherent policy ∧ d.call.Admitted d.before := by
  induction history generalizing st with
  | nil => exact ⟨h.coherent, fun d hd => absurd hd List.not_mem_nil⟩
  | @cons d rest after lawful _ ih =>
    have hgoes := goes d List.mem_cons_self
    have hnew := new d List.mem_cons_self
    have hafter := h.coherent_deed whole recent lawful follows.1 hgoes hnew
    obtain ⟨hend, hrest⟩ := ih ⟨hafter, h.rooted.told lawful⟩ follows.2
      (fun e he => goes e (List.mem_cons_of_mem d he))
      fun e he => new e (List.mem_cons_of_mem d he)
    refine ⟨hend, fun e he => ?_⟩
    rcases List.mem_cons.mp he with rfl | he
    · exact ⟨hafter, h.admitted follows.1 hgoes hnew⟩
    · exact hrest e he

end Standing

/-! ## 6. Databases without faults -/

/-- What the constraints admit fails for another cause, if it fails at all. -/
theorem StoreKind.respond_of_admitted {k : StoreKind} {server : Store.Server} {rows : Table}
    {call : StoreCall} (admitted : call.Admitted rows) (detail : String) :
    (k.respond server rows call).outcome ≠ .failed (.invalidInput detail) := by
  unfold respond
  split
  · simp
  · cases call with
    | insert token =>
      obtain ⟨length, freshId⟩ := admitted
      cases taken : rows.hasHash token.hash <;> simp [undertake, length, freshId, taken]
    | link id successor =>
      have known : rows.hasId successor = true := admitted
      simp [undertake, known]
    | consume hash clock policy =>
      simp only [undertake, present]
      repeat' split
      all_goals simp
    | revokeFamily | revokeSubject | getByHash | listFamily => simp [undertake]

/-- The deed came to what the table and the call decide on a database. -/
def Deed.IsUndisturbed (server : Store.Server) (d : Deed) : Prop :=
  d.outcome = (StoreKind.durable.respond server d.before d.call).outcome

namespace Program

/-- On a database that is ready one request is answered undisturbed, and leaves it ready. -/
theorem undisturbed_answer {w : World AnyStore} (database : w.store.kind = .durable)
    (ready : w.store.IsReady) (actor : Nat) (r : Request) :
    (∀ d ∈ observed actor w r, d.IsUndisturbed w.store.server) ∧
      (answer w r).2.store.server = w.store.server ∧ (answer w r).2.store.IsReady := by
  cases r with
  | store call =>
    have responds := (ready.undisturbed call).responds
    rw [store_answer]
    refine ⟨fun d hd => ?_, AnyStore.server_perform _ _, responds.ready ready (.inl database)⟩
    rw [List.mem_singleton.mp hd, Deed.IsUndisturbed, ← database]
    exact responds.outcome
  | secret | uuid | log => exact ⟨fun d hd => absurd hd List.not_mem_nil, rfl, ready⟩

/-- **On a database that is ready every deed of a program is undisturbed**, and the database is
    ready again. -/
theorem undisturbed_deeds {α : Type} {w : World AnyStore} (database : w.store.kind = .durable)
    (ready : w.store.IsReady) (actor : Nat) (p : Program α) :
    (∀ d ∈ p.deeds actor w, d.IsUndisturbed w.store.server) ∧ (p.run w).2.store.IsReady := by
  induction p generalizing w with
  | finish outcome => exact ⟨fun d hd => absurd hd List.not_mem_nil, ready⟩
  | request r next ih =>
    obtain ⟨hfirst, hserver, hready⟩ := undisturbed_answer database ready actor r
    have hkind := (history_answer actor w r).2
    rcases hanswer : answer w r with ⟨reply, w'⟩
    rw [hanswer] at hserver hready hkind
    simp only [deeds, run, hanswer]
    cases reply with
    | ok reply =>
      obtain ⟨hrest, hend⟩ := ih reply (hkind.trans database) hready
      refine ⟨fun d hd => ?_, hend⟩
      rcases List.mem_append.mp hd with hd | hd
      · exact hfirst d hd
      · exact hserver ▸ hrest d hd
    | error cause =>
      refine ⟨fun d hd => hfirst d ?_, hready⟩
      simpa using hd

end Program

/-! ## 7. Sessions -/

namespace Session

open Program

/-- One operation keeps the table coherent. -/
theorem coherent_take {s : Session} {step : Step} (actor : Nat)
    (coherent : s.store.rows.Coherent s.settings.policy) (whole : s.settings.policy.IsWhole)
    (asked : step.isUseCase) (recent : step.clock.IsRecent)
    (new : ∀ d ∈ s.stepDeeds actor step, d.call.IsNew d.before) :
    (s.take step).2.store.rows.Coherent s.settings.policy ∧ ∀ d ∈ s.stepDeeds actor step,
      d.after.Coherent s.settings.policy ∧ d.call.Admitted d.before := by
  obtain ⟨goes, st, hst, follows⟩ := s.useCase_stepDeeds actor asked
  have rooted : st.Rooted s.store.rows := by
    rcases hst with rfl | rfl <;> exact trivial
  have standing : Standing s.settings.policy st s.store.rows := ⟨coherent, rooted⟩
  exact standing.deeds whole recent (s.history_take actor step).1 follows goes new

/-- Operations keep the table coherent, one after the other. -/
theorem coherent_after {s : Session} {steps : List Step} (number : Nat)
    (coherent : s.store.rows.Coherent s.settings.policy) (whole : s.settings.policy.IsWhole)
    (asked : ∀ step ∈ steps, step.isUseCase) (recent : ∀ step ∈ steps, step.clock.IsRecent)
    (new : ∀ d ∈ s.deeds number steps, d.call.IsNew d.before) :
    (s.after steps).store.rows.Coherent s.settings.policy ∧ ∀ d ∈ s.deeds number steps,
      d.after.Coherent s.settings.policy ∧ d.call.Admitted d.before := by
  induction steps generalizing s number with
  | nil => exact ⟨coherent, fun d hd => absurd hd List.not_mem_nil⟩
  | cons step rest ih =>
    obtain ⟨hstep, hdeeds⟩ := coherent_take number coherent whole (asked step List.mem_cons_self)
      (recent step List.mem_cons_self) fun d hd => new d (List.mem_append_left _ hd)
    obtain ⟨hend, hrest⟩ := ih (s := (s.take step).2) (number + 1) hstep whole
      (fun e he => asked e (List.mem_cons_of_mem step he))
      (fun e he => recent e (List.mem_cons_of_mem step he))
      fun d hd => new d (List.mem_append_right _ hd)
    refine ⟨hend, fun d hd => ?_⟩
    rcases List.mem_append.mp hd with hd | hd
    · exact hdeeds d hd
    · exact hrest d hd

/-- A database that can be reached carries out a step without faults undisturbed. -/
theorem undisturbed_take {s : Session} {step : Step} (actor : Nat)
    (database : s.store.kind = .durable) (ready : (s.store.withFaults []).IsReady)
    (faultless : step.faults = []) :
    (∀ d ∈ s.stepDeeds actor step, d.IsUndisturbed s.store.server) ∧
      ((s.take step).2.store.withFaults []).IsReady := by
  have hready : (s.world step).store.IsReady := by
    rw [Session.world, faultless]
    exact ready
  have hkind : (s.world step).store.kind = .durable :=
    (AnyStore.kind_withFaults _ _).trans database
  have hserver : (s.world step).store.server = s.store.server := AnyStore.server_withFaults _ _
  unfold stepDeeds take carryOut
  cases step.command with
  | work work =>
    obtain ⟨hdeeds, hend⟩ :=
      undisturbed_deeds hkind hready actor (work.program s.settings step.clock)
    exact ⟨fun d hd => hserver ▸ hdeeds d hd, hend.withFaults_nil⟩
  | isEmpty => exact ⟨fun d hd => absurd hd List.not_mem_nil, hready.withFaults_nil⟩
  | failInserts count =>
    refine ⟨fun d hd => absurd hd List.not_mem_nil, ?_⟩
    -- a database cannot be asked for collisions
    change (((s.world step).store.failInserts count).withFaults []).IsReady
    cases hstore : (s.world step).store with
    | memory m =>
      rw [hstore] at hkind
      cases hkind
    | durable d =>
      rw [hstore] at hready
      exact hready.withFaults_nil

theorem deeds_undisturbed {s : Session} {steps : List Step} (number : Nat)
    (database : s.store.kind = .durable) (ready : (s.store.withFaults []).IsReady)
    (faultless : ∀ step ∈ steps, step.faults = []) :
    ∀ d ∈ s.deeds number steps, d.IsUndisturbed s.store.server := by
  induction steps generalizing s number with
  | nil => exact fun d hd => absurd hd List.not_mem_nil
  | cons step rest ih =>
    obtain ⟨hstep, hready⟩ :=
      undisturbed_take number database ready (faultless step List.mem_cons_self)
    intro d hd
    rcases List.mem_append.mp hd with hd | hd
    · exact hstep d hd
    · rw [← s.server_take step]
      exact ih (number + 1) ((s.history_take number step).2.trans database) hready
        (fun e he => faultless e (List.mem_cons_of_mem step he)) d hd

/-- **The constraints hold in the course of some steps.** -/
structure Constrained (s : Session) (steps : List Step) : Prop where
  /-- The table that the steps come to satisfies them, and its instants are those of the policy. -/
  coherent : (s.after steps).store.rows.Coherent s.settings.policy
  /-- So does the table after every call on the way. -/
  throughout : ∀ d ∈ s.deeds 0 steps, d.after.Coherent s.settings.policy
  /-- A database without faults refuses no call for a constraint, but for that on hashes, which is
      told as a collision. -/
  unbroken : s.store.kind = .durable → s.store.isReachable → (∀ step ∈ steps, step.faults = []) →
    ∀ d ∈ s.deeds 0 steps, ∀ detail, d.outcome ≠ .failed (.invalidInput detail)

/-- **The constraints hold in every run of operations** that begins with an empty table: on a store
    of either kind, under any faults and with any collisions that were asked for, by clocks from the
    year 2000 on and a policy of whole microseconds, where every row that is offered has an
    identifier that no row has. -/
theorem constrained (s : Session) (empty : s.store.rows = []) (whole : s.settings.policy.IsWhole)
    {steps : List Step} (asked : ∀ step ∈ steps, step.isUseCase)
    (recent : ∀ step ∈ steps, step.clock.IsRecent)
    (new : ∀ d ∈ s.deeds 0 steps, d.call.IsNew d.before) : s.Constrained steps := by
  have start : s.store.rows.Coherent s.settings.policy := empty ▸ .nil
  obtain ⟨hend, hdeeds⟩ := coherent_after 0 start whole asked recent new
  refine ⟨hend, fun d hd => (hdeeds d hd).1, fun database reachable faultless d hd detail => ?_⟩
  have ready : (s.store.withFaults []).IsReady := by
    cases hs : s.store with
    | memory m => exact absurd database (by rw [hs]; exact nofun)
    | durable d =>
      rw [hs] at reachable
      exact ⟨reachable, rfl⟩
  have undisturbed : d.IsUndisturbed s.store.server :=
    deeds_undisturbed 0 database ready faultless d hd
  rw [undisturbed]
  exact StoreKind.respond_of_admitted (hdeeds d hd).2 detail

/-- A token is issued and rotated twice on a database, each time some nanoseconds after a
    microsecond: what is kept of the instants is as far apart as the policy says. -/
theorem constrained_of_nanoseconds :
    let token := (Secret.ofNat 1).token
    let s : Session := { store := .durableOf [] { reachable := true }, draws := .ofLists [] []
                         settings := .trial .default }
    let after (nanos : Int) : Clock := .fixed ⟨sampleInstant.nanos + nanos⟩
    let steps : List Step := [{ command := .work (.issue "alice" none), clock := after 999 },
      { command := .work (.rotate token), clock := after 1999 },
      { command := .work (.rotate token), clock := after 2500 }]
    s.Constrained steps ∧ (∀ step ∈ steps, step.faults = []) ∧
      (s.after steps).store.rows.map Row.createdAt =
        [sampleInstant, ⟨sampleInstant.nanos + 1000⟩, ⟨sampleInstant.nanos + 2000⟩] ∧
      (s.after steps).store.rows.map Row.consumedAt =
        [some ⟨sampleInstant.nanos + 1000⟩, none, none] ∧
      (s.after steps).store.rows.map (fun r => r.replacedBy.isSome) = [true, false, false] := by
  intro token s after steps
  have facts : (s.settings.policy.IsWhole ∧ (∀ step ∈ steps, step.isUseCase) ∧
      (∀ step ∈ steps, step.clock.IsRecent) ∧ ∀ d ∈ s.deeds 0 steps, d.call.IsNew d.before) ∧
      (∀ step ∈ steps, step.faults = []) ∧
        (s.after steps).store.rows.map Row.createdAt =
          [sampleInstant, ⟨sampleInstant.nanos + 1000⟩, ⟨sampleInstant.nanos + 2000⟩] ∧
        (s.after steps).store.rows.map Row.consumedAt =
          [some ⟨sampleInstant.nanos + 1000⟩, none, none] ∧
        (s.after steps).store.rows.map (fun r => r.replacedBy.isSome) = [true, false, false] := by
    decide +kernel
  obtain ⟨⟨whole, asked, recent, new⟩, ends⟩ := facts
  exact ⟨constrained s rfl whole asked recent new, ends⟩

end Session

end TokenRotation

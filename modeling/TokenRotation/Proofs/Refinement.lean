import TokenRotation.Proofs.Mirrors
import TokenRotation.Session.Sample

/-!
# The two stores refine each other

A session on a store in memory and one on a durable store, begun with the same rows and the same
chance, tell the same in every step and keep the same rows, as a database keeps them: success and
failure, kinds and reasons, counts, the log, and where a step is broken off. That is so as long as
no constraint of the database is broken, no text is sent that it cannot keep, nothing is decided at
an instant that has passed a deadline and not what is kept of it, or the other way round, and no
work that was broken off has poisoned the lock of the store in memory.

* `Step.Fits`, `Session.Fits` -- what is asked of a step, and of the steps of a session;
* `Value.Agrees`, `Report.Agrees` -- two answers that are the same as far as a database can tell;
* `Session.refinement` -- **the sessions agree in every step**, and stay twins;
* `Session.refinement_limits` -- what happens at a text that cannot be kept, between a deadline
  before 2000 and what is kept of it, and behind a lock that is poisoned.
-/

namespace TokenRotation

open Store

namespace Session

/-! ## 1. Values -/

/-- The value as a database keeps the instants in it. -/
def Value.stored : Value → Value
  | .issued token => .issued token.stored
  | .rotated token => .rotated token.stored
  | .row r => .row (r.map Row.stored)
  | .outcome o => .outcome o.stored
  | value => value

/-- **The values are the same** as far as a database can tell. The members of a family may come in
    different orders, unless they were created apart. -/
def Value.Agrees (apart : Prop) : Value → Value → Prop
  | .lineage a, .lineage b => b.Perm a ∧ (apart → b = a)
  | a, b => b.stored = a.stored

theorem Value.agrees_self (apart : Prop) (value : Value) : value.Agrees apart value := by
  cases value with
  | lineage members => exact ⟨.refl _, fun _ => rfl⟩
  | _ => rfl

theorem Value.Agrees.imp {apart apart' : Prop} {a b : Value} (h : a.Agrees apart b)
    (himp : apart' → apart) : a.Agrees apart' b := by
  unfold Value.Agrees at h ⊢
  split
  · exact ⟨h.1, fun known => h.2 (himp known)⟩
  · next other =>
    split at h
    · exact absurd rfl (other _ _ rfl)
    · exact h

theorem Value.row_agrees (apart : Prop) (r : Option Row) :
    Value.Agrees apart (.row r) (.row (r.map Row.stored)) := by
  cases r with
  | none => rfl
  | some row => exact congrArg (Value.row ∘ some) row.stored_stored

/-- The family that a command lists. -/
def Work.listed? : Work → Option Uuid
  | .lineage family _ | .call (.listFamily family) => some family
  | _ => none

/-- No two members of a family that is listed were created at one instant, as far as a database can
    tell. -/
def Work.Apart (rows : Table) (work : Work) : Prop :=
  ∀ family ∈ work.listed?, rows.CreatedApart family

/-! ## 2. Work -/

/-- **The work is such that a database has no objection to it**, and whatever it decides about a
    row it decides at an instant that the row may be judged at. -/
def Work.Fits (rows : Table) (clock : Clock) : Work → Prop
  | .issue subject _ | .revokeSubject subject => Keepable subject
  | .consume token | .rotate token | .logout token | .logoutEverywhere token =>
    rows.Timely (hashOf token) clock
  | .serve request => ∀ token ∈ request.token?, rows.Timely (hashOf token) clock
  | .link _ successor => rows.hasId successor
  | .lineage family statusAt => ∀ t ∈ statusAt, ∀ r ∈ rows.familyRows family, r.Timely t
  | .call c => c.Fits rows
  | .revokeFamily _ | .find _ | .policy | .settings => True

instance (rows : Table) (clock : Clock) (work : Work) : Decidable (work.Fits rows clock) := by
  cases work <;> unfold Work.Fits <;> infer_instance

open Program

theorem members_map_stored {statusAt : Option Instant} {rows : Table}
    (alike : ∀ t ∈ statusAt, ∀ r ∈ rows, r.Alike t) :
    members statusAt (rows.map Row.stored) = members statusAt rows := by
  simp only [members, List.map_map]
  refine List.map_congr_left fun r hr => ?_
  cases statusAt with
  | none => rfl
  | some t => exact congrArg (r.id, some ·) (Row.status_stored (alike t rfl r hr))

/-- The members of a family are told alike. -/
theorem members_agree {rows a b : Table} {family : Uuid} {statusAt : Option Instant} {apart : Prop}
    (alike : ∀ t ∈ statusAt, ∀ r ∈ a, r.Alike t) (known : apart → rows.CreatedApart family)
    (h : (StoreCall.listFamily family).Agrees rows a b) :
    Value.Agrees apart (.lineage (members statusAt a)) (.lineage (members statusAt b)) := by
  obtain ⟨hperm, hsame⟩ := h
  rw [← members_map_stored alike]
  exact ⟨hperm.map _, fun apart => congrArg (members statusAt) (hsame (known apart))⟩

/-- The answers to a call are told alike. -/
theorem ofAnswer_agrees {rows : Table} {call : StoreCall} {a b : call.Answer}
    (h : call.Agrees rows a b) :
    Value.Agrees ((Work.call call).Apart rows) (ofAnswer call a) (ofAnswer call b) := by
  cases call with
  | insert token =>
    obtain rfl : b = a.stored := h
    exact Value.row_agrees _ (some a)
  | consume hash clock policy => exact congrArg Value.outcome h
  | revokeFamily | revokeSubject | link =>
    obtain rfl : b = a := h
    rfl
  | getByHash hash =>
    obtain rfl : b = a.map Row.stored := h
    exact Value.row_agrees _ a
  | listFamily family => exact members_agree nofun (fun apart => apart family rfl) h

/-- **Every piece of work mirrors itself.** -/
theorem Work.mirrors (settings : Settings) {clock : Clock} {rows : Table} {work : Work}
    (shown : clock.now.isOk) (fits : work.Fits rows clock) :
    Mirrors rows (fun _ => Value.Agrees (work.Apart rows)) (work.program settings clock)
      (work.program settings clock) := by
  obtain ⟨now, hnow⟩ := Clock.exists_now shown
  have alike {token : String} (timely : rows.Timely (hashOf token) clock) :
      ∀ row ∈ rows.byHash? (hashOf token), row.Alike now :=
    fun row hrow => (timely row hrow now (by rw [hnow]; rfl)).alike
  have same {α : Type} (f : α → Value) {a b : α} (h : b = a) :
      Value.Agrees (work.Apart rows) (f a) (f b) := h ▸ Value.agrees_self _ _
  cases work with
  | issue subject family =>
    refine mirrors_now_bind hnow (mirrors_map (Service.issue_mirrors fits) fun after a b h => ?_)
    obtain ⟨rfl, -⟩ := h
    exact congrArg Value.issued a.stored_stored
  | consume token =>
    exact mirrors_map (Service.consume_mirrors shown fits) fun after a b h => same .consumed h.1
  | rotate token =>
    refine mirrors_map (Service.rotate_mirrors shown fits) fun after a b h => ?_
    obtain rfl : b = a.stored := h
    exact congrArg Value.rotated a.stored_stored
  | revokeFamily family =>
    exact mirrors_now_bind hnow
      (mirrors_map (Service.revokeFamily_mirrors family now) fun after a b h => same .count h)
  | revokeSubject subject =>
    exact mirrors_now_bind hnow
      (mirrors_map (Service.revokeSubject_mirrors fits now) fun after a b h => same .count h)
  | link id successor =>
    have hlink : (StoreCall.link id successor).Fits rows := fits
    exact mirrors_store_bind hlink fun a b after _ _ h => mirrors_finish (.done (same .flag h))
  | find token =>
    refine mirrors_map (Service.find_mirrors token) fun after a b h => ?_
    obtain ⟨-, rfl⟩ := h
    exact Value.row_agrees _ a
  | lineage family statusAt =>
    have hlist : (StoreCall.listFamily family).Fits rows := trivial
    refine mirrors_store_bind hlist fun a b after _ carried h => mirrors_finish (.done ?_)
    cases carried with
    | listFamily =>
      refine members_agree (fun t ht r hr => (fits t ht r ?_).alike)
        (fun apart => apart family rfl) h
      exact List.mem_mergeSort.mp hr
  | logout token =>
    exact mirrors_now_bind hnow
      (mirrors_map (Service.logout_mirrors (alike fits)) fun after a b h => same .count h)
  | logoutEverywhere token =>
    exact mirrors_now_bind hnow
      (mirrors_map (Service.logoutEverywhere_mirrors (alike fits)) fun after a b h => same .count h)
  | call c =>
    exact mirrors_store_bind fits fun a b after _ _ h => mirrors_finish (.done (ofAnswer_agrees h))
  | policy | settings => exact mirrors_finish (.done rfl)
  | serve request =>
    exact mirrors_map (Http.serve_mirrors settings shown fits) fun after a b h => same .response h

/-! ## 3. Steps -/

/-- **What is asked of a command**: work has to fit, and no collision is forced. -/
def Command.Fits (rows : Table) (clock : Clock) : Command → Prop
  | .work w => w.Fits rows clock
  | .isEmpty => True
  | .failInserts count => count = 0

instance (rows : Table) (clock : Clock) (command : Command) :
    Decidable (command.Fits rows clock) := by
  cases command <;> unfold Command.Fits <;> infer_instance

/-- No two members of a family that the command lists were created at one instant, as far as a
    database can tell. -/
def Command.Apart (rows : Table) : Command → Prop
  | .work w => w.Apart rows
  | _ => True

/-- The instants that the step goes by: that of its clock, and those that its command names. -/
def Step.instants (step : Step) : List Instant :=
  step.clock.now.toOption.toList ++
    match step.command with
    | .work (.lineage _ statusAt) => statusAt.toList
    | .work (.call (.insert token)) => [token.createdAt]
    | .work (.call (.consume _ clock _)) => clock.now.toOption.toList
    | .work (.call (.revokeFamily _ now)) | .work (.call (.revokeSubject _ now)) => [now]
    | _ => []

/-- **What is asked of a step**: the store can be reached, no fault waits, the clock shows an
    instant, all instants are from 2000 on, the command fits, and the rows that it would add have
    identifiers that no row has. -/
structure Step.Fits (s : Session) (step : Step) : Prop where
  standing : s.store.isReachable
  faultless : step.faults = []
  shown : step.clock.now.isOk
  since : ∀ t ∈ step.instants, Instant.databaseEpoch ≤ t
  command : step.command.Fits s.store.rows step.clock
  new : ∀ d ∈ s.stepDeeds 0 step, d.call.IsNew d.before

instance (s : Session) (step : Step) : Decidable (step.Fits s) :=
  decidable_of_iff (s.store.isReachable ∧ step.faults = [] ∧ step.clock.now.isOk ∧
      (∀ t ∈ step.instants, Instant.databaseEpoch ≤ t) ∧
        step.command.Fits s.store.rows step.clock ∧
          ∀ d ∈ s.stepDeeds 0 step, d.call.IsNew d.before)
    ⟨fun h => ⟨h.1, h.2.1, h.2.2.1, h.2.2.2.1, h.2.2.2.2.1, h.2.2.2.2.2⟩,
      fun h => ⟨h.standing, h.faultless, h.shown, h.since, h.command, h.new⟩⟩

/-- Every step of the session fits. -/
def Fits : Session → List Step → Prop
  | _, [] => True
  | s, step :: rest => step.Fits s ∧ (s.take step).2.Fits rest

instance decidableFits : (s : Session) → (steps : List Step) → Decidable (s.Fits steps)
  | _, [] => isTrue trivial
  | s, step :: rest =>
    have := decidableFits (s.take step).2 rest
    inferInstanceAs (Decidable (step.Fits s ∧ (s.take step).2.Fits rest))

/-- **The reports are the same** as far as a database can tell. -/
structure Report.Agrees (apart : Prop) (a b : Report) : Prop where
  outcome : a.outcome.Agrees (Value.Agrees apart) b.outcome
  log : b.log = a.log
  rows : b.rows = a.rows

theorem Report.Agrees.imp {apart apart' : Prop} {a b : Report} (h : a.Agrees apart b)
    (himp : apart' → apart) : a.Agrees apart' b :=
  ⟨h.outcome.imp fun _ _ h => h.imp himp, h.log, h.rows⟩

/-- **Twin sessions**: the same settings and the same chance, and stores that are twins as soon as
    no fault waits. -/
structure Twins (m p : Session) : Prop where
  sound : m.store.rows.Sound
  stores : m.store.Twins (p.store.withFaults [])
  draws : p.draws = m.draws
  settings : p.settings = m.settings

theorem Twins.world {m p : Session} (h : m.Twins p) {step : Step} (faultless : step.faults = []) :
    (m.world step).Twins (p.world step) := by
  refine ⟨?_, ?_, h.draws, rfl⟩
  · rw [Session.world, AnyStore.rows_withFaults]
    exact h.sound
  · rw [Session.world, Session.world, faultless, h.stores.withFaults_left]
    exact h.stores

/-- **Twins take a step alike**, and stay twins. -/
theorem Twins.take {m p : Session} (h : m.Twins p) {step : Step} (fits : step.Fits m) :
    (m.take step).2.Twins (p.take step).2 ∧
      Report.Agrees (step.command.Apart m.store.rows) (m.take step).1 (p.take step).1 := by
  have carried : (m.carryOut step.clock (m.world step) step.command).2.Twins
      (p.carryOut step.clock (p.world step) step.command).2 ∧
        (m.carryOut step.clock (m.world step) step.command).1.Agrees
          (Value.Agrees (step.command.Apart m.store.rows))
            (p.carryOut step.clock (p.world step) step.command).1 := by
    have twins := h.world fits.faultless
    have hrows : (m.world step).store.rows = m.store.rows := AnyStore.rows_withFaults _ _
    have reachable : (m.world step).store.isReachable := by
      simpa [Session.world] using fits.standing
    have hfits := fits.command
    have hnew := fits.new
    unfold stepDeeds at hnew
    unfold carryOut
    rw [h.settings]
    cases hcommand : step.command with
    | work work =>
      rw [hcommand] at hfits hnew
      exact Work.mirrors m.settings fits.shown hfits 0 _ _ twins reachable hrows hnew
    | isEmpty =>
      refine ⟨twins, ?_⟩
      rw [twins.stores.isEmpty reachable]
      exact Outcome.Agrees.refl (fun value => value.agrees_self _) _
    | failInserts count =>
      rw [hcommand] at hfits
      obtain rfl : count = 0 := hfits
      refine ⟨⟨?_, twins.stores.failInserts, twins.draws, twins.log⟩, .done rfl⟩
      rw [AnyStore.rows_failInserts]
      exact twins.sound
  obtain ⟨twins, hend⟩ := carried
  have hlength := congrArg List.length twins.stores.rows
  rw [List.length_map] at hlength
  exact ⟨⟨twins.sound, twins.stores.withFaults_right, twins.draws, h.settings⟩,
    hend, twins.log, hlength⟩

/-! ## 4. Sessions -/

theorem Twins.after {m p : Session} (h : m.Twins p) {steps : List Step} (fits : m.Fits steps) :
    (m.after steps).Twins (p.after steps) := by
  induction steps generalizing m p with
  | nil => exact h
  | cons step rest ih => exact ih (h.take fits.1).1 fits.2

theorem Fits.append {s : Session} {steps more : List Step} (h : s.Fits (steps ++ more)) :
    s.Fits steps ∧ (s.after steps).Fits more := by
  induction steps generalizing s with
  | nil => exact ⟨trivial, h⟩
  | cons step rest ih =>
    obtain ⟨hrest, hmore⟩ := ih h.2
    exact ⟨⟨h.1, hrest⟩, hmore⟩

/-- **The second session refines the first, and the first the second**, in every step and in all
    that is told. -/
structure Refines (m p : Session) (steps : List Step) : Prop where
  /-- A step is told alike; if it lists a family that was created apart, in one order. -/
  taken : ∀ front step back, steps = front ++ step :: back →
    Report.Agrees (step.command.Apart (m.after front).store.rows) ((m.after front).take step).1
      ((p.after front).take step).1
  /-- After every step both keep the same rows in the order of their creation, the second
      rounded. -/
  kept : ∀ front back, steps = front ++ back →
    (p.after front).store.rows = (m.after front).store.rows.map Row.stored
  /-- After every step every family has the same members, in one order if it was created apart. -/
  lineages : ∀ front back, steps = front ++ back → ∀ family,
    let members := (m.store.kind.lineage (m.after front).store.rows family).map Row.stored
    (p.store.kind.lineage (p.after front).store.rows family).Perm members ∧
      ((m.after front).store.rows.CreatedApart family →
        p.store.kind.lineage (p.after front).store.rows family = members)
  /-- As many steps are told: one is broken off in a session if it is in the other. -/
  reports : List.Forall₂ (Report.Agrees False) (m.run steps) (p.run steps)

theorem Twins.reports {m p : Session} (h : m.Twins p) {steps : List Step} (fits : m.Fits steps) :
    List.Forall₂ (Report.Agrees False) (m.run steps) (p.run steps) := by
  induction steps generalizing m p with
  | nil => exact .nil
  | cons step rest ih =>
    obtain ⟨twins, agrees⟩ := h.take fits.1
    have hrest := ih twins fits.2
    simp only [run, agrees.outcome.isAborted_eq]
    split
    · exact .cons (agrees.imp False.elim) .nil
    · exact .cons (agrees.imp False.elim) hrest

theorem Twins.rows {m p : Session} (h : m.Twins p) :
    p.store.rows = m.store.rows.map Row.stored := by
  rw [← h.stores.rows, AnyStore.rows_withFaults]

/-- Twins refine each other in all that they do. -/
theorem Twins.refines {m p : Session} (h : m.Twins p) {steps : List Step} (fits : m.Fits steps) :
    m.Refines p steps where
  taken := by
    rintro front step back rfl
    obtain ⟨hfront, hstep⟩ := fits.append
    exact ((h.after hfront).take hstep.1).2
  kept := by
    rintro front back rfl
    exact (h.after fits.append.1).rows
  lineages := by
    rintro front back rfl family members
    have hkind : p.store.kind = .durable :=
      (AnyStore.kind_withFaults [] p.store).symm.trans h.stores.kind_right
    simp only [members, hkind, h.stores.kind, (h.after fits.append.1).rows]
    exact ⟨Table.lineage_map_stored_perm _ family, Table.lineage_map_stored⟩
  reports := h.reports fits

/-- A service that keeps its rows in memory. -/
def inMemory (rows : Table) (draws : Draws) (settings : Settings) : Session :=
  { store := .memoryOf rows, draws, settings }

/-- A service that keeps its rows in a database behind a wire. -/
def onWire (rows : Table) (wire : Wire) (draws : Draws) (settings : Settings) : Session :=
  { store := .durableOf rows wire, draws, settings }

/-- **The two stores refine each other**: from any table that a database could hold, under any
    settings and any chance, in all steps that fit. -/
theorem refinement {rows : Table} (sound : rows.Sound) {wire : Wire} (reachable : wire.reachable)
    (draws : Draws) (settings : Settings) {steps : List Step}
    (fits : (inMemory rows draws settings).Fits steps) :
    (inMemory rows draws settings).Refines (onWire rows wire draws settings) steps := by
  have twins : (inMemory rows draws settings).Twins (onWire rows wire draws settings) :=
    ⟨sound, .intro rows false ⟨reachable, rfl⟩, rfl, rfl⟩
  exact twins.refines fits

/-- A token is rotated a nanosecond after a whole second, presented again inside its grace window
    and once after it, and the family is listed: the sessions agree, and tell a theft. -/
theorem refinement_of_replay :
    let token := (Secret.ofNat 100).token
    let sample := sampleRow token "alice" (.ofLists [] [])
    let m := inMemory [sample.1] sample.2 (.trial .default)
    let p := onWire [sample.1] { reachable := true } sample.2 (.trial .default)
    let late (nanos : Int) (work : Work) : Step :=
      { command := .work work, clock := .fixed ⟨sampleInstant.nanos + nanos⟩ }
    let steps := [late 1 (.rotate token), late 5000000001 (.consume token),
      late 30000000001 (.consume token),
      late 30000000002 (.lineage sample.1.family (some sampleInstant))]
    m.Refines p steps ∧ (p.run steps).length = 4 ∧
      (p.run steps)[2]?.map (·.outcome) = some (.failed (.refused .reused)) :=
  ⟨refinement (by decide +kernel) rfl _ _ (by decide +kernel), by decide +kernel,
    by decide +kernel⟩

/-- Beyond what fits the two stores differ. A hash of 64 characters U+0000 is unknown to one and no
    text for the other. A row that expired in the last microsecond before 2000 is kept as if it
    expired with the first instant of 2000: presented then, it is refused by one and accepted by the
    other, though that instant is not after what is kept of its expiry. And a presentation whose
    grace window would outlast the calendar is broken off by both, but only the one can still be
    looked at: the lock of the other is poisoned. -/
theorem refinement_limits :
    (let hash := String.ofList (List.replicate 64 '\x00')
      let step : Step :=
        { command := .work (.call (.getByHash hash)), clock := .fixed sampleInstant }
      let draws : Draws := .ofLists [] []
      hash.length = 64 ∧
        ((inMemory [] draws (.trial .default)).take step).1.outcome = .done (.row none) ∧
          ((onWire [] { reachable := true } draws (.trial .default)).take step).1.outcome =
            .failed (.database "Database operation failed")) ∧
      (let token := (Secret.ofNat 100).token
        let sample := sampleRow token "alice" (.ofLists [] [])
        let now := Instant.databaseEpoch
        let row : Row := { sample.1 with createdAt := ⟨now.nanos - 1000⟩
                                         expiresAt := ⟨now.nanos - 500⟩ }
        Table.Sound [row] ∧ ¬ (row.expiresAt.stored < now ∧ now ≤ row.expiresAt) ∧
          ((inMemory [row] sample.2 (.trial .default)).consumption token now).1 =
            .failed (.refused .expired) ∧
          ((onWire [row] { reachable := true } sample.2 (.trial .default)).consumption token
              now).1 =
            .done (.consumed { id := row.id, subject := "alice", family := row.family
                               kind := .first })) ∧
      (let token := (Secret.ofNat 100).token
        let sample := sampleRow token "alice" (.ofLists [] [])
        let row : Row := { sample.1 with expiresAt := Instant.last }
        let late := Step.consuming token ⟨Instant.last.nanos - 999999999⟩
        let m := inMemory [row] sample.2 (.trial .default)
        let p := onWire [row] { reachable := true } sample.2 (.trial .default)
        Table.Sound [row] ∧ late.Fits m ∧ (m.take late).1.outcome = .aborted .overflow ∧
          (p.take late).1.outcome = .aborted .overflow ∧
            ((m.take late).2.take (.at 0 (.find token))).1.outcome = .aborted .poisoned ∧
              ((p.take late).2.take (.at 0 (.find token))).1.outcome = .done (.row row.stored)) :=
  ⟨⟨by decide +kernel, by decide +kernel, by decide +kernel⟩,
    ⟨by decide +kernel, by decide +kernel, by decide +kernel, by decide +kernel⟩,
    by decide +kernel, by decide +kernel, by decide +kernel, by decide +kernel, by decide +kernel,
    by decide +kernel⟩

end Session

end TokenRotation

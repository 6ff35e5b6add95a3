import TokenRotation.Proofs.Confinement
import TokenRotation.Proofs.Sweeps

/-!
# Logouts and presentations

Whether a token is good for a logout is read off the status of its row, whether it is good for a
successor off the verdict on it. The two look at a row in different orders and ask different things
of it, and yet they object to the same tokens for the same reasons: to a token without a row, to one
that is revoked, and to one that is expired. A logout stops there, so a token that was consumed is
as good for it as any other, also where its presentation would be taken for a theft.

* `Table.objection?` -- what there is to object to a token at an instant;
* `Session.consumption_refused_iff`, `Session.take_logout_refused` -- presentations and logouts are
  refused for just that;
* `Session.judgesAlike` -- **a logout judges a token as its presentation does**, and what it leaves
  when it goes through.
-/

namespace TokenRotation

open Store

/-! ## 1. Objections -/

/-- Why the row is good for nothing at an instant. -/
def Row.objection? (r : Row) (now : Instant) : Option Refusal :=
  if r.revokedAt.isSome then some .revoked
  else if r.expiresAt < now then some .expired
  else none

namespace Row

variable {r : Row} {now : Instant}

theorem objection?_eq_none_iff :
    r.objection? now = none ↔ r.revokedAt = none ∧ now ≤ r.expiresAt := by
  unfold objection?
  cases r.revokedAt with
  | some t => simp
  | none => by_cases late : r.expiresAt < now <;> simp [late, ← Instant.not_lt]

/-- The verdict on a row refuses it for the objection to it. -/
theorem judge_of_objection? {reason : Refusal} (h : r.objection? now = some reason)
    (policy : Policy) : r.judge now policy = .refuse reason := by
  rw [judge_eq_refuse_iff]
  unfold objection? at h
  cases live : r.revokedAt with
  | some t =>
    simp only [live, Option.isSome_some, if_true, Option.some.injEq] at h
    exact .inl ⟨rfl, h.symm⟩
  | none =>
    simp only [live, Option.isSome_none, Bool.false_eq_true, if_false] at h
    split at h
    · next late => exact .inr ⟨rfl, late, (Option.some.inj h).symm⟩
    · cases h

/-- So does its status, whatever else it may tell. -/
theorem status_of_objection? {reason : Refusal} (h : r.objection? now = some reason) :
    reason = .revoked ∧ r.status now = .revoked ∨ reason = .expired ∧ r.status now = .expired := by
  unfold objection? at h
  unfold status
  split at h
  · next revoked => exact .inl ⟨(Option.some.inj h).symm, if_pos revoked⟩
  · next unrevoked =>
    rw [if_neg unrevoked]
    split at h
    · next late => exact .inr ⟨(Option.some.inj h).symm, if_pos late⟩
    · cases h

end Row

/-- **What there is to object to a token at an instant**: it has no row, or there is an objection to
    its row. -/
def Table.objection? (rows : Table) (hash : String) (now : Instant) : Option Refusal :=
  match rows.byHash? hash with
  | none => some .unknown
  | some row => row.objection? now

theorem Table.objection?_eq_none_iff {rows : Table} {hash : String} {now : Instant} :
    rows.objection? hash now = none ↔
      ∃ row, rows.byHash? hash = some row ∧ row.objection? now = none := by
  unfold objection?
  cases rows.byHash? hash <;> simp

/-- Nobody objects that a token was reused. -/
theorem Table.mem_of_objection? {rows : Table} {hash : String} {now : Instant} {reason : Refusal}
    (h : rows.objection? hash now = some reason) :
    reason ∈ [Refusal.unknown, .expired, .revoked] := by
  unfold objection? at h
  split at h
  · cases h
    decide
  · rcases Row.status_of_objection? h with ⟨rfl, -⟩ | ⟨rfl, -⟩ <;> decide

/-! ## 2. Presentations -/

namespace Session

open Program

variable {s : Session} {token : String} {now : Instant} {reason : Refusal}

/-- A presentation that there is an objection to is refused for it, and changes nothing. -/
theorem consumption_of_objection? (reachable : s.store.isReachable)
    (h : s.store.rows.objection? (hashOf token) now = some reason) :
    s.consumption token now = (.failed (.refused reason), s.store.rows) := by
  unfold Table.objection? at h
  cases found : s.store.rows.byHash? (hashOf token) with
  | none =>
    rw [found] at h
    cases h
    rw [consumption_eq_present reachable]
    simp only [StoreKind.present, found]
    rfl
  | some row =>
    rw [found] at h
    exact consumption_eq reachable found (by rw [Row.judge_of_objection? h]; rfl)

/-- A presentation without an objection to it is accepted, taken for a theft, or broken off because
    its grace window would leave the calendar. -/
theorem consumption_of_unobjected (reachable : s.store.isReachable)
    (h : s.store.rows.objection? (hashOf token) now = none) :
    (∃ consumed, (s.consumption token now).1 = .done (.consumed consumed)) ∨
      (s.consumption token now).1 = .failed (.refused .reused) ∨
        (s.consumption token now).1 = .aborted .overflow := by
  obtain ⟨row, found, unobjected⟩ := Table.objection?_eq_none_iff.mp h
  obtain ⟨live, intime⟩ := Row.objection?_eq_none_iff.mp unobjected
  rw [consumption_eq_present reachable]
  simp only [StoreKind.present, found]
  cases verdict : row.judge now s.settings.policy with
  | refuse reason =>
    rcases Row.judge_eq_refuse_iff.mp verdict with ⟨revoked, -⟩ | ⟨-, late, -⟩
    · rw [live] at revoked
      cases revoked
    · exact absurd late (Instant.not_lt.mpr intime)
  | firstUse | withinGrace => exact .inl ⟨_, rfl⟩
  | reuse => exact .inr (.inl rfl)
  | overflow => exact .inr (.inr rfl)

/-- **A presentation is refused for the objection to it**, or taken for a theft. -/
theorem consumption_refused_iff (reachable : s.store.isReachable) (honest : reason ≠ .reused) :
    (s.consumption token now).1 = .failed (.refused reason) ↔
      s.store.rows.objection? (hashOf token) now = some reason := by
  constructor
  · intro refused
    cases h : s.store.rows.objection? (hashOf token) now with
    | some other =>
      rw [consumption_of_objection? reachable h] at refused
      cases refused
      rfl
    | none =>
      rcases consumption_of_unobjected reachable h with ⟨consumed, done⟩ | reused | aborted
      · rw [done] at refused
        cases refused
      · rw [reused] at refused
        cases refused
        exact absurd rfl honest
      · rw [aborted] at refused
        cases refused
  · intro h
    rw [consumption_of_objection? reachable h]

/-- What a sweep chose is revoked from then on, and refused for it whenever it is presented. -/
theorem consumption_of_swept {rows : Table} {chosen : Row → Bool} {t : Instant} {r : Row}
    (reachable : s.store.isReachable) (hashes : rows.HashesDistinct)
    (swept : s.store.rows = rows.sweep chosen t) (hr : r ∈ s.store.rows) (hchosen : chosen r) :
    r.revokedAt.isSome ∧ ∀ (text : String) (later : Instant), r.hash = hashOf text →
      s.consumption text later = (.failed (.refused .revoked), s.store.rows) := by
  have revoked : r.revokedAt.isSome := Table.isSome_revokedAt_of_sweep (swept ▸ hr) hchosen
  refine ⟨revoked, fun text later hhash => consumption_of_objection? reachable ?_⟩
  have distinct : s.store.rows.HashesDistinct := by
    rw [swept, Table.HashesDistinct, Table.map_hash_of_forall₂ (Table.forall₂_sweep _ _ _)]
    exact hashes
  have found := Table.byHash?_of_mem distinct hr
  rw [hhash] at found
  simp only [Table.objection?, found, Row.objection?, revoked, if_true]

/-! ## 3. Logouts -/

/-- The ways of logging out: to end the family of the presented token, or all that its subject
    holds. -/
inductive Logout
  | here
  | everywhere
deriving DecidableEq, Repr

namespace Logout

/-- The work of a logout. -/
def work (token : String) : Logout → Work
  | .here => .logout token
  | .everywhere => .logoutEverywhere token

/-- The sweep of a logout, for the row of the presented token. -/
def sweep (row : Row) : Logout → Sweep
  | .here => .family row.family
  | .everywhere => .subject row.subject

theorem covers_row (row : Row) (way : Logout) : (way.sweep row).covers row := by
  cases way <;> simp [sweep, Sweep.covers]

/-- A logout shows the token first, and asks for its sweep if there is nothing to object. -/
theorem program_work (settings : Settings) (token : String) (now : Instant) (way : Logout) :
    ∃ sweeping : Row → Work,
      (∀ row, sweeping row ∈ (way.sweep row).works now) ∧
        (way.work token).program settings (.fixed now) =
          Service.authenticate token now >>= fun row =>
            (sweeping row).program settings (.fixed now) := by
  cases way with
  | here =>
    refine ⟨fun row => .revokeFamily row.family, fun row => List.mem_cons_self, ?_⟩
    simp only [work, Work.program, now_bind (Clock.now_fixed now), Service.logout,
      LawfulMonad.bind_assoc]
  | everywhere =>
    refine ⟨fun row => .revokeSubject row.subject, fun row => List.mem_cons_self, ?_⟩
    simp only [work, Work.program, now_bind (Clock.now_fixed now), Service.logoutEverywhere,
      LawfulMonad.bind_assoc]

end Logout

/-- Looking up a token comes to its row, and changes nothing. -/
theorem run_find_bind {α : Type} (w : World CalmStore) (f : Option Row → Program α) :
    (Service.find token >>= f).run w = (f (w.store.rows.byHash? (hashOf token))).run w := by
  refine run_store_bind_calm (.getByHash (hashOf token)) nofun (fun _ text htext => ?_) rfl
  exact List.mem_singleton.mp htext ▸ nul_not_mem_hashOf token

/-- Whoever shows a token on a calm store is refused for the objection to it, or is answered its
    row. -/
theorem run_authenticate_of_objection? {w : World CalmStore}
    (h : w.store.rows.objection? (hashOf token) now = some reason) :
    (Service.authenticate token now).run w = (.failed (.refused reason), w) := by
  unfold Table.objection? at h
  rw [Service.authenticate, run_find_bind]
  cases found : w.store.rows.byHash? (hashOf token) with
  | none =>
    rw [found] at h
    cases h
    rfl
  | some row =>
    rw [found] at h
    rcases Row.status_of_objection? h with ⟨rfl, hstatus⟩ | ⟨rfl, hstatus⟩ <;>
      simp only [hstatus] <;> rfl

theorem run_authenticate_of_unobjected {w : World CalmStore} {row : Row}
    (found : w.store.rows.byHash? (hashOf token) = some row) (h : row.objection? now = none) :
    (Service.authenticate token now).run w =
      (.done row,
        { w with log := w.log ++ [.logoutAccepted row.family row.id (row.status now)] }) := by
  obtain ⟨live, intime⟩ := Row.objection?_eq_none_iff.mp h
  rw [Service.authenticate, run_find_bind, found]
  have hstatus : row.status now ≠ .revoked ∧ row.status now ≠ .expired := by
    unfold Row.status
    rw [live, if_neg (by simp), if_neg (Instant.not_lt.mpr intime)]
    split
    · simp
    · split <;> simp
  simp only
  split
  · next revoked => exact absurd revoked hstatus.1
  · next expired => exact absurd expired hstatus.2
  · rfl

/-- A logout at an instant, with no fault waiting. -/
def leave (s : Session) (way : Logout) (token : String) (now : Instant) : Report × Session :=
  s.take (.doing (way.work token) now)

/-- **A logout that there is an objection to** is refused for it, and changes nothing. -/
theorem take_logout_refused (way : Logout) (reachable : s.store.isReachable)
    (h : s.store.rows.objection? (hashOf token) now = some reason) :
    (s.leave way token now).1.outcome = .failed (.refused reason) ∧
      (s.leave way token now).2.store.rows = s.store.rows := by
  have hcalm := take_calm reachable (way.work token) (.fixed now)
  obtain ⟨sweeping, -, hprogram⟩ := way.program_work s.settings token now
  rw [hprogram, run_bind, run_authenticate_of_objection? (s.rows_calm.symm ▸ h)] at hcalm
  exact ⟨hcalm.outcome, hcalm.rows.trans s.rows_calm⟩

/-- **A logout without an objection to it** sweeps. -/
theorem take_logout (way : Logout) (reachable : s.store.isReachable) {row : Row}
    (found : s.store.rows.byHash? (hashOf token) = some row) (h : row.objection? now = none)
    (sendable : (way.sweep row).Sendable s.store.kind) :
    let left := s.leave way token now
    left.1.outcome = .done (.count (s.store.rows.sweepCount (way.sweep row).covers)) ∧
      left.2.store.rows =
        s.store.rows.sweep (way.sweep row).covers (s.store.kind.keep now) ∧
          left.2.store.isReachable := by
  intro left
  have hcalm := take_calm reachable (way.work token) (.fixed now)
  obtain ⟨sweeping, asks, hprogram⟩ := way.program_work s.settings token now
  rw [hprogram, run_bind, run_authenticate_of_unobjected (s.rows_calm.symm ▸ found) h] at hcalm
  obtain ⟨log, hrun⟩ := run_sweep
    (w := { s.calm with log := s.calm.log ++ [.logoutAccepted row.family row.id (row.status now)] })
    s.settings (asks row) (s.kind_calm.symm ▸ sendable)
  simp only [hrun, s.rows_calm, s.kind_calm] at hcalm
  exact ⟨hcalm.outcome, hcalm.rows, hcalm.reachable (.inr rfl)⟩

/-- **A logout judges a token as its presentation does.** -/
structure JudgesAlike (s : Session) (token : String) (now : Instant) (way : Logout) : Prop where
  /-- Both are refused for the same reasons. -/
  refused : ∀ reason ∈ [Refusal.unknown, .expired, .revoked],
    ((s.leave way token now).1.outcome = .failed (.refused reason) ↔
      (s.consumption token now).1 = .failed (.refused reason))
  /-- A logout ends in no other way than a refusal or a count, and a refusal changes nothing. -/
  unchanged : (∀ value, (s.leave way token now).1.outcome ≠ .done value) →
    (∃ reason ∈ [Refusal.unknown, .expired, .revoked],
      (s.leave way token now).1.outcome = .failed (.refused reason)) ∧
      (s.leave way token now).2.store.rows = s.store.rows
  /-- A logout goes through exactly where a presentation is accepted, taken for a theft, or broken
      off at the end of the calendar. -/
  accepted : (∃ value, (s.leave way token now).1.outcome = .done value) ↔
    (∃ consumed, (s.consumption token now).1 = .done (.consumed consumed)) ∨
      (s.consumption token now).1 = .failed (.refused .reused) ∨
        (s.consumption token now).1 = .aborted .overflow
  /-- A logout that goes through revokes at its instant all that was not revoked of the family or
      the subject of the token, at least one row; it changes no other cell, and from then on every
      token of that family or subject is refused as revoked. -/
  swept : ∀ value, (s.leave way token now).1.outcome = .done value →
    ∃ row count, s.store.rows.byHash? (hashOf token) = some row ∧ value = .count count ∧
      1 ≤ count ∧
      s.store.rows.SweptExactly (way.sweep row).covers (s.store.kind.keep now) count
        (s.leave way token now).2.store.rows ∧
      ∀ r ∈ (s.leave way token now).2.store.rows, (way.sweep row).covers r →
        r.revokedAt.isSome ∧
        ∀ (text : String) (later : Instant), r.hash = hashOf text →
          (s.leave way token now).2.consumption text later =
            (.failed (.refused .revoked), (s.leave way token now).2.store.rows)

/-- **A logout and a presentation judge a token alike**, on a store of either kind that can be
    reached, for every table of distinct hashes, every text and every instant. A database is asked
    for nothing but subjects that it keeps. -/
theorem judgesAlike (s : Session) (reachable : s.store.isReachable)
    (hashes : s.store.rows.HashesDistinct)
    (kept : s.store.kind = .durable → ∀ r ∈ s.store.rows, Keepable r.subject) (token : String)
    (now : Instant) (way : Logout) : s.JudgesAlike token now way := by
  cases h : s.store.rows.objection? (hashOf token) now with
  | some reason =>
    obtain ⟨houtcome, hrows⟩ := take_logout_refused way reachable h
    have hconsumption := consumption_of_objection? reachable h
    have honest := Table.mem_of_objection? h
    refine ⟨fun _ _ => ?_, fun _ => ⟨⟨reason, honest, houtcome⟩, hrows⟩, ?_, fun value done => ?_⟩
    · rw [houtcome, hconsumption]
    · rw [houtcome, hconsumption]
      refine iff_of_false (by simp) ?_
      rintro (⟨_, done⟩ | reused | aborted)
      · cases done
      · cases reused
        exact absurd honest (by decide)
      · cases aborted
    · rw [houtcome] at done
      cases done
  | none =>
    obtain ⟨row, found, unobjected⟩ := Table.objection?_eq_none_iff.mp h
    have hrow := Table.mem_of_byHash? found
    have sendable : (way.sweep row).Sendable s.store.kind := by
      cases way with
      | here => trivial
      | everywhere => exact fun durable => kept durable row hrow
    obtain ⟨houtcome, hrows, hreach⟩ := take_logout way reachable found unobjected sendable
    refine ⟨fun reason honest => ?_, fun undone => absurd houtcome (undone _), ?_,
      fun value done => ?_⟩
    · have hne : reason ≠ .reused := by
        rintro rfl
        exact absurd honest (by decide)
      rw [houtcome, consumption_refused_iff reachable hne, h]
      simp
    · exact iff_of_true ⟨_, houtcome⟩ (consumption_of_unobjected reachable h)
    · rw [houtcome] at done
      cases done
      refine ⟨row, _, found, rfl, ?_, hrows ▸ Table.sweptExactly _ _ _, fun r hr covered =>
        consumption_of_swept hreach hashes hrows hr covered⟩
      -- the row of the token is one of those that are revoked
      obtain ⟨live, -⟩ := Row.objection?_eq_none_iff.mp unobjected
      exact List.countP_pos_iff.mpr ⟨row, hrow, by simp [live, way.covers_row row]⟩

/-- A minute after its token was consumed on a database, a presentation is taken for a theft; a
    logout goes through all the same, and revokes the two rows of the family that were not revoked,
    or the one row more that the subject has elsewhere. -/
theorem judgesAlike_of_replayed :
    let first := sampleRow "first" "alice" (.ofLists [] [])
    let elsewhere := sampleRow "elsewhere" "alice" first.2
    let deadline : Instant := ⟨sampleInstant.nanos + Policy.default.grace.nanos⟩
    let replayed := first.1.stamp sampleInstant deadline
    let sibling : Row := { first.1 with id := .ofNat 7, hash := hashOf "sibling" }
    let ended : Row := { first.1 with
      id := .ofNat 8, hash := hashOf "ended", revokedAt := some sampleInstant }
    let s : Session := { store := .durableOf [replayed, sibling, elsewhere.1, ended]
                           { reachable := true }
                         draws := elsewhere.2, settings := .trial .default }
    let now : Instant := ⟨sampleInstant.nanos + (Duration.ofSeconds 60).nanos⟩
    (s.JudgesAlike "first" now .here ∧ s.JudgesAlike "first" now .everywhere) ∧
      (s.consumption "first" now).1 = .failed (.refused .reused) ∧
      (s.leave .here "first" now).1.outcome = .done (.count 2) ∧
      (s.leave .everywhere "first" now).1.outcome = .done (.count 3) ∧
      (s.leave .here "ended" now).1.outcome = .failed (.refused .revoked) := by
  intro first elsewhere deadline replayed sibling ended s now
  have distinct : s.store.rows.HashesDistinct := by decide +kernel
  have kept : s.store.kind = .durable → ∀ r ∈ s.store.rows, Keepable r.subject := by
    intro _ r hr
    have halice : r.subject = "alice" :=
      (by decide +kernel : ∀ r ∈ s.store.rows, r.subject = "alice") r hr
    rw [halice]
    decide
  have alike := judgesAlike s rfl distinct kept "first" now
  exact ⟨⟨alike .here, alike .everywhere⟩, by decide +kernel, by decide +kernel,
    by decide +kernel, by decide +kernel⟩

end Session

end TokenRotation

import TokenRotation.Proofs.Endings
import TokenRotation.Proofs.Presentation

/-!
# Deadlines to the nanosecond

A deadline belongs to the time it ends: at the very instant a grace window closes a duplicate is
still answered, and at the very instant a token expires it is still good. A database keeps deadlines
in microseconds, and a token is judged at the nanosecond. So on a durable store the boundary holds
exactly where the deadline is kept as it is; where it is kept early, the instant that ends it comes
after what was kept, and a duplicate in time is taken for a theft.

* `Session.Deadlines` -- what becomes of a token at exactly its two deadlines;
* `Session.deadlines` -- all of it on a durable store, whatever is done in between;
* `Session.deadlines_of_nanosecond` -- a nanosecond is enough to lose a family.
-/

namespace TokenRotation

open Instant

/-! ## 1. What is kept of a deadline -/

namespace Service

open Program

variable {k : StoreKind} {rows : Table}

/-- What a consume does when it is the first of its token: the row is found with its two stamps, as
    the store keeps them. -/
def Stamps (k : StoreKind) (policy : Policy) (token : String) (clock : Clock)
    (outcome : Outcome ConsumedToken) (after : Table) : Prop :=
  ∀ c, outcome = .done c → c.kind = .first → ∃ row now deadline, clock.now = .ok now ∧
    policy.graceExpiresAt? now = some deadline ∧ row.consumedAt = some (k.keep now) ∧
      row.graceExpiresAt = some (k.keep deadline) ∧
        c = { id := row.id, subject := row.subject, family := row.family, kind := .first } ∧
          after.byHash? (hashOf token) = some row

theorem consume_stamps (policy : Policy) (token : String) (clock : Clock) :
    (consume policy token clock).Ends k rows fun _ outcome after =>
      Stamps k policy token clock outcome after := by
  refine ends_log (ends_store_bind (fun actor answer after h => ?_) (fun actor e _ => nofun)
    fun actor cause => nofun)
  cases h with
  | unknown | refused | reuse => exact ends_log (ends_finish nofun)
  | grace =>
    refine ends_log (ends_finish fun c hc hfirst => ?_)
    cases hc
    cases hfirst
  | @first _ _ _ row now c g found shown verdict =>
    refine ends_log (ends_finish fun consumed hconsumed _ => ?_)
    cases hconsumed
    obtain ⟨-, -, unused, rfl, deadline⟩ := Row.judge_eq_firstUse_iff.mp verdict
    have hstamp (c g : Instant) :
        row.stamp c g = { row with consumedAt := some c, graceExpiresAt := some g } := by
      simp [Row.stamp, unused]
    refine ⟨row.stamp (k.keep c) (k.keep g), c, g, shown, deadline, ?_, ?_, ?_,
      k.byHash?_change_presented (fun r => (r.evolves_stamp _ _).hash) found⟩
    · rw [hstamp]
    · rw [hstamp]
    · simp only [hstamp]

/-- What an issue does when it answers a token: it adds a row under the free hash of that token, in
    the given family if one was given, and tells the row as the store keeps it. -/
def Adds (k : StoreKind) (rows : Table) (policy : Policy) (subject : String) (given : Option Uuid)
    (now : Instant) (outcome : Outcome IssuedToken) (after : Table) : Prop :=
  ∀ issued, outcome = .done issued → ∃ family secret id expiry, (∀ f ∈ given, family = f) ∧
    policy.expiresAt? now = some expiry ∧ rows.hasHash (hashOf secret.token) = false ∧
      let row := k.keepRow (newToken subject family now expiry secret id).row
      after = rows ++ [row] ∧
        issued = { token := secret.token, id := row.id, family := row.family
                   expiresAt := row.expiresAt }

theorem issueWithin_adds {policy : Policy} {subject : String} {family : Uuid} {now : Instant}
    {left number : Nat} :
    (issueWithin policy subject family now left number).Ends k rows fun _ outcome after =>
      Adds k rows policy subject (some family) now outcome after := by
  induction left generalizing number with
  | zero => exact ends_finish nofun
  | succ left ih =>
    refine ends_secret fun secret => ends_uuid fun id => ?_
    cases hexpiry : policy.expiresAt? now with
    | none => exact ends_finish nofun
    | some expiry =>
      refine ends_call (fun actor answer after h => ?_) (fun actor e _ => ?_)
        fun actor cause => nofun
      · cases h with
        | insert fresh =>
          refine ends_log (ends_finish fun issued hissued => ?_)
          cases hissued
          exact ⟨family, secret, id, expiry, by simp, hexpiry, fresh, rfl, rfl⟩
      · cases e with
        | hashCollision => exact ends_log ih
        | database | invalidInput | notFound | refused => exact ends_finish nofun

/-- **An issue that answers a token adds its row.** -/
theorem issue_adds (policy : Policy) (subject : String) (given : Option Uuid) (now : Instant) :
    (issue policy subject given now).Ends k rows fun _ outcome after =>
      Adds k rows policy subject given now outcome after := by
  refine ends_log ?_
  split
  · exact ends_finish nofun
  · cases given with
    | some family => exact issueWithin_adds
    | none =>
      refine ends_uuid fun fresh => issueWithin_adds.imp fun _ _ _ h issued hissued => ?_
      obtain ⟨family, secret, id, expiry, -, hrow⟩ := h issued hissued
      exact ⟨family, secret, id, expiry, nofun, hrow⟩

/-- What an issue to a subject does when it answers a token: the row of that token is found, with
    its expiry as the store keeps it. -/
def Issues (k : StoreKind) (policy : Policy) (subject : String) (now : Instant)
    (outcome : Outcome IssuedToken) (after : Table) : Prop :=
  ∀ issued, outcome = .done issued → ∃ row expiry, policy.expiresAt? now = some expiry ∧
    row.expiresAt = k.keep expiry ∧ row.id = issued.id ∧ row.subject = subject ∧
      row.family = issued.family ∧ after.byHash? (hashOf issued.token) = some row

theorem issue_issues (policy : Policy) (subject : String) (family : Option Uuid) (now : Instant) :
    (issue policy subject family now).Ends k rows fun _ outcome after =>
      Issues k policy subject now outcome after := by
  refine (issue_adds policy subject family now).imp fun _ outcome after h issued hissued => ?_
  obtain ⟨family, secret, id, expiry, -, expires, fresh, rfl, rfl⟩ := h issued hissued
  refine ⟨_, expiry, expires, ?_, rfl, k.keepRow_subject _, rfl,
    Table.byHash?_append_new fresh (k.keepRow_hash _)⟩
  cases k <;> rfl

end Service

/-! ## 2. What is kept early -/

/-- A deadline that is whole seconds after an instant is kept early unless the instant is kept as it
    is, or the deadline is before 2000. -/
theorem Instant.le_stored_deadline_iff {t deadline : Instant} {n : Int}
    (h : t.add? (.ofSeconds n) = some deadline) :
    deadline ≤ deadline.stored ↔ t.stored = t ∨ deadline < databaseEpoch := by
  obtain ⟨rfl, -⟩ := add?_eq_some_iff.mp h
  rw [le_stored_iff, stored_add_seconds_iff]

namespace Session

open Program

/-! ## 3. Steps -/

/-- **A token at exactly its two deadlines**, under a policy of whole seconds and whatever is done
    in between. -/
structure Deadlines (s : Session) : Prop where
  /-- A token is consumed at `t`, and again when its grace window closes. The duplicate is in time,
      and it is answered and changes nothing if the deadline was not kept early; otherwise it is
      taken for a theft, and the family is lost. -/
  grace : ∀ {token : String} {t deadline : Instant} {n : Int} {c : Service.ConsumedToken},
    s.settings.policy.grace = .ofSeconds n →
    s.settings.policy.graceExpiresAt? t = some deadline →
    (s.consumption token t).1 = .done (.consumed c) → c.kind = .first →
    ∀ between : List Step, let later := s.after (.consuming token t :: between)
      ∃ row, later.store.rows.byHash? (hashOf token) = some row ∧
        (row.revokedAt = none → deadline ≤ row.expiresAt →
          later.consumption token deadline =
            if t.stored = t ∨ deadline < databaseEpoch then
              (.done (.consumed { c with kind := .grace }), later.store.rows)
            else
              (.failed (.refused .reused),
                later.store.rows.sweep (fun r => r.family = c.family) deadline.stored))
  /-- A token is issued at `t`, and first consumed when its lifetime ends. -/
  lifetime : ∀ {step : Step} {subject : String} {family : Option Uuid} {t expiry deadline : Instant}
    {n : Int} {issued : Service.IssuedToken}, s.settings.policy.lifetime = .ofSeconds n →
    step.command = .work (.issue subject family) → step.clock.now = .ok t →
    s.settings.policy.expiresAt? t = some expiry →
    s.settings.policy.graceExpiresAt? expiry = some deadline →
    (s.take step).1.outcome = .done (.issued issued) →
    ∀ between : List Step, let later := s.after (step :: between)
      ∃ row, later.store.rows.byHash? (hashOf issued.token) = some row ∧
        (row.revokedAt = none → row.consumedAt = none →
          later.consumption issued.token expiry =
            if t.stored = t ∨ expiry < databaseEpoch then
              (.done (.consumed
                  { id := issued.id, subject, family := issued.family, kind := .first }),
                later.store.rows.changeAll (fun r => r.id = row.id) fun r =>
                  r.stamp expiry.stored deadline.stored)
            else (.failed (.refused .expired), later.store.rows))

/-- A consume that is the first of its token leaves the row with its two stamps. -/
theorem stamps_of_first {s : Session} {token : String} {t : Instant} {c : Service.ConsumedToken}
    (consumed : (s.consumption token t).1 = .done (.consumed c)) (first : c.kind = .first) :
    ∃ row deadline, s.settings.policy.graceExpiresAt? t = some deadline ∧
      row.consumedAt = some (s.store.kind.keep t) ∧
        row.graceExpiresAt = some (s.store.kind.keep deadline) ∧
          c = { id := row.id, subject := row.subject, family := row.family, kind := .first } ∧
            (s.consumption token t).2.byHash? (hashOf token) = some row := by
  have hprogram : (Work.program s.settings (.fixed t) (.consume token)).Ends s.store.kind
      s.store.rows fun _ outcome after => ∀ c, outcome = .done (.consumed c) →
        Service.Stamps s.store.kind s.settings.policy token (.fixed t) (.done c) after := by
    refine (ends_map_done (Service.consume_stamps _ token _) Value.consumed).imp
      fun deeds outcome after h c hc => ?_
    obtain ⟨_, ⟨⟩, hstamps⟩ := h _ hc
    exact hstamps
  have asked : (Step.consuming token t).command = .work (.consume token) := rfl
  obtain ⟨row, now, deadline, shown, hrow⟩ :=
    take_ends asked hprogram 0 c consumed c rfl first
  cases shown
  exact ⟨row, deadline, hrow⟩

/-- An issue that answers a token leaves its row with its expiry. -/
theorem expiry_of_issue {s : Session} {step : Step} {subject : String} {family : Option Uuid}
    {t : Instant} {issued : Service.IssuedToken}
    (asked : step.command = .work (.issue subject family)) (shown : step.clock.now = .ok t)
    (answered : (s.take step).1.outcome = .done (.issued issued)) :
    ∃ row expiry, s.settings.policy.expiresAt? t = some expiry ∧
      row.expiresAt = s.store.kind.keep expiry ∧ row.id = issued.id ∧ row.subject = subject ∧
        row.family = issued.family ∧
          (s.take step).2.store.rows.byHash? (hashOf issued.token) = some row := by
  have hprogram : (Work.program s.settings step.clock (.issue subject family)).Ends s.store.kind
      s.store.rows fun _ outcome after => ∀ issued, outcome = .done (.issued issued) →
        Service.Issues s.store.kind s.settings.policy subject t (.done issued) after := by
    refine ends_now_bind (fun now shown' => ?_) fun cause _ => nofun
    rw [shown] at shown'
    cases shown'
    refine (ends_map_done (Service.issue_issues _ subject family t) Value.issued).imp
      fun deeds outcome after h issued hissued => ?_
    obtain ⟨_, ⟨⟩, hissues⟩ := h _ hissued
    exact hissues
  exact take_ends asked hprogram 0 issued answered issued rfl

/-- **Deadlines on a durable store.** -/
theorem deadlines (s : Session) (durable : s.store.kind = .durable)
    (reachable : s.store.isReachable) : s.Deadlines where
  grace := by
    intro token t deadline n c whole closes consumed first between later
    obtain ⟨row₀, g, closes', hconsumed, hgrace, hc, found₀⟩ := stamps_of_first consumed first
    rw [closes] at closes'
    cases closes'
    obtain ⟨row, found, hrow⟩ :=
      ((s.take (.consuming token t)).2.history 0 between).evolves.byHash? found₀
    have lasting := isReachable_after_of_durable durable reachable
    refine ⟨row, found, fun live intime => ?_⟩
    have stamped : row.consumedAt.isSome := hrow.isSome_consumedAt (by simp [hconsumed])
    have kept : row.graceExpiresAt = some deadline.stored := by
      rw [(hrow.consumed (by simp [hconsumed])).2, hgrace, durable]
      rfl
    rw [Policy.graceExpiresAt?, whole] at closes
    have inside_iff := Instant.le_stored_deadline_iff closes
    have hfamily : row.family = c.family := by rw [hc, hrow.family]
    split
    · next inside =>
      have verdict : row.judge deadline s.settings.policy = .withinGrace :=
        Row.judge_eq_withinGrace_iff.mpr ⟨live, intime, stamped, _, kept, inside_iff.mpr inside⟩
      have hsame : ({ c with kind := .grace } : Service.ConsumedToken) =
          { id := row.id, subject := row.subject, family := row.family, kind := .grace } := by
        rw [hc, hrow.id, hrow.subject, hrow.family]
      rw [hsame]
      exact consumption_after (_ :: between) (lasting _) found (by rw [verdict]; rfl)
    · next outside =>
      have verdict : row.judge deadline s.settings.policy = .reuse := by
        refine Row.judge_eq_reuse_iff.mpr ⟨live, intime, stamped, fun g hg => ?_⟩
        rw [kept] at hg
        cases hg
        exact Int.not_le.1 (mt inside_iff.mp outside)
      rw [← hfamily]
      exact consumption_after (_ :: between) (lasting _) found (by rw [verdict, durable]; rfl)
  lifetime := by
    intro step subject family t expiry deadline n issued whole asked shown expires closes answered
      between later
    obtain ⟨row₀, e, expires', hexpiry, hid, hsubject, hfamily, found₀⟩ :=
      expiry_of_issue asked shown answered
    rw [expires] at expires'
    cases expires'
    obtain ⟨row, found, hrow⟩ := ((s.take step).2.history 0 between).evolves.byHash? found₀
    have lasting := isReachable_after_of_durable durable reachable
    refine ⟨row, found, fun live unused => ?_⟩
    have kept : row.expiresAt = expiry.stored := by
      rw [hrow.expiresAt, hexpiry, durable]
      rfl
    rw [Policy.expiresAt?, whole] at expires
    have inside_iff := Instant.le_stored_deadline_iff expires
    split
    · next inside =>
      have verdict : row.judge expiry s.settings.policy = .firstUse expiry deadline :=
        Row.judge_eq_firstUse_iff.mpr
          ⟨live, kept ▸ inside_iff.mpr inside, unused, rfl, closes⟩
      have htold : (ConsumeOutcome.accepted (row.stamp expiry deadline) .first).told =
          .done { id := issued.id, subject, family := issued.family, kind := .first } := by
        have hstamp := row.evolves_stamp expiry deadline
        simp only [ConsumeOutcome.told, hstamp.id, hstamp.subject, hstamp.family, hrow.id,
          hrow.subject, hrow.family, hid, hsubject, hfamily]
      have hend := consumption_after (_ :: between) (lasting _) found
        (show s.store.kind.obey _ row expiry _ = some (_, _) by rw [verdict, durable]; rfl)
      rw [htold] at hend
      exact hend
    · next outside =>
      have verdict : row.judge expiry s.settings.policy = .refuse .expired := by
        refine Row.judge_eq_refuse_iff.mpr (.inr ⟨live, ?_, rfl⟩)
        rw [kept]
        exact Int.not_le.1 (mt inside_iff.mp outside)
      exact consumption_after (_ :: between) (lasting _) found (by rw [verdict]; rfl)

/-- A token is consumed a nanosecond after a whole second, and again exactly ten seconds later, when
    its grace window closes: the duplicate is taken for a theft, and no row is left unrevoked. -/
theorem deadlines_of_nanosecond :
    let token := (Secret.ofNat 100).token
    let sample := sampleRow token "alice" (.ofLists [] [])
    let s : Session := { store := .durableOf [sample.1] { reachable := true }, draws := sample.2
                         settings := .trial .default }
    let t : Instant := ⟨sampleInstant.nanos + 1⟩
    let deadline : Instant := ⟨t.nanos + Policy.default.grace.nanos⟩
    s.Deadlines ∧
      (s.consumption token t).1 = .done (.consumed { id := sample.1.id, subject := "alice"
                                                     family := sample.1.family, kind := .first }) ∧
        ((s.after [.consuming token t]).consumption token deadline).1 = .failed (.refused .reused) ∧
          ((s.after [.consuming token t]).consumption token deadline).2.all fun r =>
            r.revokedAt.isSome :=
  ⟨deadlines _ rfl rfl, by decide +kernel, by decide +kernel, by decide +kernel⟩

end Session

end TokenRotation

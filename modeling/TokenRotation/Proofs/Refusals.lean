import TokenRotation.Proofs.Readiness
import TokenRotation.Proofs.Surface
import TokenRotation.Proofs.Theft

/-!
# Refusals look alike

Whoever presents a token over HTTP and is refused learns that and no more: the response is the same
for an unknown token as for an expired, a revoked or a replayed one, at every endpoint and in every
state of the store. Where nothing else stands in its way, a refresh is answered with this response
exactly when the token is lost: when no row has its hash, or the row is revoked, expired, or
consumed with no open grace window.

* `Http.refusal` -- the one response;
* `Row.isLost_iff`, `Session.exists_accepted` -- which rows are refused, and which are accepted;
* `Session.refusals` -- **all refusals are one response**, and a refresh is refused only for a token
  that is lost.
-/

namespace TokenRotation

open Store

/-! ## 1. The one response -/

namespace Http

/-- The response to every presentation that is refused. -/
def refusal (settings : Settings) : Response where
  status := 401
  headers := ("content-type", "application/json") :: commonHeaders settings
  content := .error .invalidCredentials none

theorem refusal_eq (settings : Settings) (reason : Refusal) :
    (Response.ofFailure (.refused reason)).guarded settings.corsOrigin = refusal settings := by
  simp [refusal, Response.ofFailure, Response.withContent, Response.guarded, Content.type?,
    commonHeaders, Response.sharingHeaders, Response.guardHeaders]

end Http

namespace Session

open Http

/-- **Work that ends in a refusal**, of whatever kind, is answered with the one response. -/
theorem served_of_refused {s : Session} {r : Http.Request} {endpoint : Endpoint} {token : String}
    {clock : Clock} {faults : List Fault} {reason : Refusal}
    (asks : r.asks? = some (endpoint, token))
    (refused : (s.take { command := .work (endpoint.work token), clock, faults }).1.outcome =
      .failed (.refused reason)) :
    (s.take { command := .work (.serve r), clock, faults }).1.outcome =
      .done (.response (refusal s.settings)) := by
  rw [take_work] at refused
  rw [take_serve, run_serve_of_asks asks, ← refusal_eq s.settings reason]
  rcases hrun : ((endpoint.work token).program s.settings clock).run
    { store := s.store.withFaults faults, draws := s.draws } with ⟨outcome, w⟩
  rw [hrun] at refused
  obtain rfl : outcome = .failed (.refused reason) := refused
  rfl

end Session

/-! ## 2. Lost tokens -/

namespace Row

/-- The row is revoked, expired, or consumed with no grace window open. -/
def IsLost (r : Row) (now : Instant) : Prop :=
  r.revokedAt.isSome ∨ r.expiresAt < now ∨
    (r.consumedAt.isSome ∧ ∀ g ∈ r.graceExpiresAt, g < now)

instance (r : Row) (now : Instant) : Decidable (r.IsLost now) :=
  inferInstanceAs (Decidable (_ ∨ _ ∨ _))

/-- Exactly the lost rows are refused or taken for stolen. -/
theorem isLost_iff {r : Row} {now : Instant} (policy : Policy) :
    r.IsLost now ↔
      (∃ reason, r.judge now policy = .refuse reason) ∨ r.judge now policy = .reuse := by
  constructor
  · intro lost
    by_cases refused : ∃ reason, r.judge now policy = .refuse reason
    · exact .inl refused
    · obtain ⟨live, intime⟩ := live_of_judge fun reason h => refused ⟨reason, h⟩
      rcases lost with revoked | expired | ⟨consumed, late⟩
      · simp [live] at revoked
      · exact absurd expired (Instant.not_lt.2 intime)
      · exact .inr (judge_eq_reuse_iff.mpr ⟨live, intime, consumed, late⟩)
  · rintro (⟨reason, refused⟩ | reused)
    · rcases judge_eq_refuse_iff.mp refused with ⟨revoked, -⟩ | ⟨-, expired, -⟩
      · exact .inl revoked
      · exact .inr (.inl expired)
    · obtain ⟨-, -, consumed, late⟩ := judge_eq_reuse_iff.mp reused
      exact .inr (.inr ⟨consumed, late⟩)

end Row

/-- No row has the hash of the token, or its row is lost. -/
def Table.Lost (rows : Table) (token : String) (now : Instant) : Prop :=
  rows.byHash? (hashOf token) = none ∨
    ∃ row, rows.byHash? (hashOf token) = some row ∧ row.IsLost now

/-- What no row has the hash of is unknown. -/
theorem Carried.unknown_of_absent {k : StoreKind} {rows after : Table} {hash : String}
    {clock : Clock} {policy : Policy} {outcome : ConsumeOutcome}
    (h : Carried k rows (.consume hash clock policy) outcome after)
    (absent : rows.byHash? hash = none) : outcome = .unknown := by
  cases h with
  | unknown => rfl
  | refused found | first found | grace found | reuse found =>
    rw [absent] at found
    cases found

namespace Session

open Http

variable {s : Session} {token : String} {now : Instant}

/-- A lost token is refused. -/
theorem refused_of_lost (reachable : s.store.isReachable) (lost : s.store.rows.Lost token now) :
    ∃ reason, (s.take (.rotating token now)).1.outcome = .failed (.refused reason) := by
  have presents : Step.Presents (.rotating token now) token now := ⟨rfl, rfl, rfl⟩
  rcases lost with absent | ⟨row, found, lost⟩
  · have hanswered : ∃ answer, ((s.world (.rotating token now)).store.perform
        (.consume (hashOf token) (.fixed now) s.settings.policy)).outcome = .done answer := by
      refine AnyStore.perform_consume_done reachable (Clock.now_fixed now) fun row found => ?_
      rw [absent] at found
      cases found
    obtain ⟨answer, hdone⟩ := hanswered
    have hsettled := (s.world (.rotating token now)).store.perform_settled
      (.consume (hashOf token) (.fixed now) s.settings.policy)
    have hrows : (s.world (.rotating token now)).store.rows = s.store.rows :=
      AnyStore.rows_withFaults _ _
    rw [hdone, hrows] at hsettled
    obtain rfl := hsettled.carried_of_done.unknown_of_absent absent
    exact ⟨.unknown, (take_refused presents.asked hdone rfl).1⟩
  · obtain ⟨refuses, reuses⟩ := take_of_judged reachable presents found
    rcases (Row.isLost_iff s.settings.policy).mp lost with ⟨reason, verdict⟩ | verdict
    · exact ⟨reason, (refuses reason verdict).1⟩
    · exact ⟨.reused, (reuses verdict).1⟩

/-- A row that is not lost is accepted, if the calendar holds the end of its grace window. -/
theorem exists_accepted (k : StoreKind) (rows : Table) {row : Row} {policy : Policy}
    (kept : ¬ row.IsLost now) (closes : (policy.graceExpiresAt? now).isSome) :
    ∃ seen kind mid,
      k.obey rows row now (row.judge now policy) = some (.accepted seen kind, mid) := by
  have unrefused := mt (Row.isLost_iff policy).mpr kept
  cases verdict : row.judge now policy with
  | refuse reason => exact absurd (.inl ⟨reason, verdict⟩) unrefused
  | reuse => exact absurd (.inr verdict) unrefused
  | firstUse c g => exact ⟨_, _, _, rfl⟩
  | withinGrace => exact ⟨_, _, _, rfl⟩
  | overflow =>
    obtain ⟨-, -, -, never⟩ := Row.judge_eq_overflow_iff.mp verdict
    simp [never] at closes

/-! ## 3. Refreshes -/

/-- **Nothing but the token stands in the way of a refresh**: no fault waits and no collision is
    due, the subject of its row is not blank and one that a database can keep, the next draws are
    fresh, and the calendar holds the dates. -/
structure CanRefresh (s : Session) (token : String) (now : Instant) : Prop where
  ready : (s.store.withFaults []).IsReady
  named : ∀ row ∈ s.store.rows.byHash? (hashOf token), Text.isBlank row.subject = false
  kept : s.store.kind = .durable →
    ∀ row ∈ s.store.rows.byHash? (hashOf token), Keepable row.subject
  fresh : s.draws.IsFresh s.store.rows
  expires : (s.settings.policy.expiresAt? now).isSome
  closes : (s.settings.policy.graceExpiresAt? now).isSome

/-- A token that is not lost is rotated. -/
theorem rotated_of_kept (can : s.CanRefresh token now) (kept : ¬ s.store.rows.Lost token now) :
    ∃ value, (s.take (.rotating token now)).1.outcome = .done value := by
  unfold Table.Lost at kept
  rw [not_or, ← ne_eq, Option.ne_none_iff_exists'] at kept
  obtain ⟨⟨row, found⟩, unlost⟩ := kept
  obtain ⟨expiry, expires⟩ := Option.isSome_iff_exists.mp can.expires
  obtain ⟨seen, kind, mid, obeyed⟩ :=
    exists_accepted s.store.kind s.store.rows (fun lost => unlost ⟨row, found, lost⟩) can.closes
  exact ⟨_, (take_rotating can.ready found obeyed (can.named row found)
    (fun durable => can.kept durable row found) expires can.fresh).1⟩

/-- **What a client can learn from a refusal** of a service with these settings. -/
structure Refusals (settings : Settings) : Prop where
  /-- Two requests that present tokens, to whatever endpoints and in whatever states of the store,
      and that are both refused, are answered with the same response. -/
  alike : ∀ {s t : Session} {r q : Http.Request} {e f : Endpoint} {a b : String} {c d : Clock}
    {reason other : Refusal}, s.settings = settings → t.settings = settings →
    r.asks? = some (e, a) → q.asks? = some (f, b) →
    (s.take { command := .work (e.work a), clock := c }).1.outcome = .failed (.refused reason) →
    (t.take { command := .work (f.work b), clock := d }).1.outcome = .failed (.refused other) →
    ∃ response,
      (s.take { command := .work (.serve r), clock := c }).1.outcome = .done (.response response) ∧
        (t.take { command := .work (.serve q), clock := d }).1.outcome = .done (.response response)
  /-- A refresh that only its token stands in the way of is answered with anything but 200 exactly
      when the token is lost, and then always with the one response. -/
  refresh : ∀ {s : Session} {r : Http.Request} {token : String} {now : Instant},
    s.settings = settings → r.asks? = some (.refresh, token) → s.CanRefresh token now →
    ∃ response,
      (s.take { command := .work (.serve r), clock := .fixed now }).1.outcome =
        .done (.response response) ∧
        (response.status ≠ 200 ↔ s.store.rows.Lost token now) ∧
          (response.status ≠ 200 → response = refusal settings)

/-- **All refusals are one response**, and a refresh is refused only for a token that is lost. -/
theorem refusals (settings : Settings) : Refusals settings where
  alike := by
    rintro s t r q e f a b c d reason other rfl hsettings asks asks' refused refused'
    refine ⟨refusal s.settings, served_of_refused asks refused, ?_⟩
    rw [← hsettings]
    exact served_of_refused asks' refused'
  refresh := by
    rintro s r token now rfl asks can
    by_cases lost : s.store.rows.Lost token now
    · obtain ⟨reason, refused⟩ := refused_of_lost (AnyStore.IsReady.isReachable can.ready) lost
      have unsuccessful : (refusal s.settings).status ≠ 200 := show 401 ≠ 200 by decide
      exact ⟨_, served_of_refused asks refused, iff_of_true unsuccessful lost, fun _ => rfl⟩
    · obtain ⟨value, done⟩ := rotated_of_kept can lost
      obtain ⟨rotated, row, response, -, -, told, status, -⟩ :=
        (s.servedBy asks (.fixed now) []).refreshed rfl value done
      exact ⟨response, told, iff_of_false (not_not_intro status) lost, fun h => absurd status h⟩

/-- A token is rotated. A refresh with it a minute later, which revokes its family, is answered with
    the same response as a logout with a token that was never issued; a refresh with the successor,
    in their place, is answered with 200. -/
theorem refusals_of_replay :
    let request (path token : String) : Http.Request :=
      { method := "POST", target := path, headers := [("content-type", "application/json")]
        body := ("[\"" ++ token ++ "\"]").toUTF8.toList }
    let sample := sampleRow "first" sampleSubject (.ofLists [] [])
    let s : Session := { store := .durableOf [sample.1] { reachable := true }, draws := sample.2
                         settings := .trial .default }
    let later := s.after [.at 5 (.rotate "first")]
    let now : Instant := ⟨sampleInstant.nanos + (Duration.ofSeconds 60).nanos⟩
    let served (path token : String) : Outcome Value :=
      (later.take { command := .work (.serve (request path token)), clock := .fixed now }).1.outcome
    (∃ response, served "/api/auth/refresh" "first" = .done (.response response) ∧
      served "/api/auth/logout" "other" = .done (.response response)) ∧
      ∃ response, served "/api/auth/refresh" (Secret.ofNat 1).token = .done (.response response) ∧
        response.status = 200 := by
  intro request sample s later now served
  have settled := refusals (.trial .default)
  have asks : (request "/api/auth/refresh" "first").asks? = some (.refresh, "first") ∧
      (request "/api/auth/logout" "other").asks? = some (.logout, "other") ∧
        (request "/api/auth/refresh" (Secret.ofNat 1).token).asks? =
          some (.refresh, (Secret.ofNat 1).token) := by
    decide +kernel
  have facts : (later.take { command := .work (.rotate "first"), clock := .fixed now }).1.outcome =
        .failed (.refused .reused) ∧
      (later.take { command := .work (.logout "other"), clock := .fixed now }).1.outcome =
        .failed (.refused .unknown) ∧
      (∀ row ∈ later.store.rows.byHash? (hashOf (Secret.ofNat 1).token),
        Text.isBlank row.subject = false ∧ Keepable row.subject ∧ ¬ row.IsLost now) ∧
      later.store.rows.byHash? (hashOf (Secret.ofNat 1).token) ≠ none ∧
        (later.store.withFaults []).IsReady ∧ later.draws.IsFresh later.store.rows ∧
          (later.settings.policy.expiresAt? now).isSome ∧
            (later.settings.policy.graceExpiresAt? now).isSome := by
    decide +kernel
  obtain ⟨refused, refused', row, found, ready, fresh, expires, closes⟩ := facts
  have can : later.CanRefresh (Secret.ofNat 1).token now :=
    ⟨ready, fun r hr => (row r hr).1, fun _ r hr => (row r hr).2.1, fresh, expires, closes⟩
  have kept : ¬ later.store.rows.Lost (Secret.ofNat 1).token now := by
    rintro (absent | ⟨r, hr, lost⟩)
    · exact found absent
    · exact (row r hr).2.2 lost
  obtain ⟨response, told, lost, -⟩ := settled.refresh rfl asks.2.2 can
  exact ⟨settled.alike rfl rfl asks.1 asks.2.1 refused refused', response, told,
    not_not.mp (mt lost.mp kept)⟩

end Session

end TokenRotation

import TokenRotation.Proofs.Births
import TokenRotation.Proofs.Presentation
import TokenRotation.Proofs.Revocation

/-!
# Theft

A token that was consumed and is presented again after its grace window is taken for stolen, and the
whole login that it descends from ends: whoever holds a token of it is refused from then on,
whatever else is done. Other logins do not notice.

* `Session.take_of_judged` -- what a presentation comes to is what the verdict on the row says;
* `Session.dead_after` -- a dead family stays dead, whatever is done by whole operations;
* `Session.theft_detected` -- all of it, in every session that begins with an empty table;
* `Session.TheftDetected.refused_of_rotate` -- the tokens that rotations answered are among those
  that are refused.
-/

namespace TokenRotation

open Session

/-! ## 1. Presentations -/

/-- Why the store does not accept. -/
def ConsumeOutcome.refusal? : ConsumeOutcome → Option Refusal
  | .unknown => some .unknown
  | .rejected reason => some reason
  | .reused .. => some .reused
  | .accepted .. => none

/-- What the store does to a presented row is what the verdict on the row says. -/
theorem Carried.of_judged {k : StoreKind} {rows after : Table} {hash : String} {clock : Clock}
    {policy : Policy} {outcome : ConsumeOutcome} {row : Row} {now : Instant}
    (h : Carried k rows (.consume hash clock policy) outcome after)
    (found : rows.byHash? hash = some row) (shown : clock.now = .ok now) :
    (∀ reason, row.judge now policy = .refuse reason →
      outcome.refusal? = some reason ∧ after = rows) ∧
    (row.judge now policy = .reuse → outcome.refusal? = some .reused ∧
      after = rows.sweep (fun r => r.family = row.family) (k.keep now)) := by
  have hobeys := h.obeys found shown
  refine ⟨fun reason verdict => ?_, fun verdict => ?_⟩
  · rw [verdict] at hobeys
    cases hobeys
    exact ⟨rfl, rfl⟩
  · rw [verdict] at hobeys
    cases hobeys
    exact ⟨rfl, rfl⟩

namespace Service

/-- A presentation that the store does not accept fails with the reason. -/
theorem run_consume_refused {policy : Policy} {token : String} {clock : Clock}
    {w : Program.World AnyStore} {outcome : ConsumeOutcome} {reason : Refusal}
    (answered : (w.store.perform (.consume (hashOf token) clock policy)).outcome = .done outcome)
    (refusal : outcome.refusal? = some reason) :
    ∃ w', (consume policy token clock).run w = (.failed (.refused reason), w') ∧
      w'.store = (w.store.perform (.consume (hashOf token) clock policy)).store := by
  obtain ⟨hrun, hstore⟩ := run_consume answered
  have htold : outcome.told = .failed (.refused reason) := by
    cases outcome <;> cases refusal <;> rfl
  exact ⟨_, Prod.ext (hrun.trans htold) rfl, hstore⟩

/-- A rotation fails as its presentation does. -/
theorem run_rotate_refused {policy : Policy} {token : String} {clock : Clock}
    {w : Program.World AnyStore} {outcome : ConsumeOutcome} {reason : Refusal}
    (answered : (w.store.perform (.consume (hashOf token) clock policy)).outcome = .done outcome)
    (refusal : outcome.refusal? = some reason) :
    ∃ w', (rotate policy token clock).run w = (.failed (.refused reason), w') ∧
      w'.store = (w.store.perform (.consume (hashOf token) clock policy)).store := by
  obtain ⟨w', hrun, hstore⟩ := run_consume_refused answered refusal
  refine ⟨w', ?_, hstore⟩
  rw [rotate, Program.run_bind, hrun]

end Service

namespace Session

/-- The token that a command presents, to be consumed or to be rotated. -/
def Command.presents? : Command → Option String
  | .work (.consume token) | .work (.rotate token) => some token
  | .work (.serve r) =>
    if r.method = "POST" ∧ Http.Endpoint.ofPath? r.path = some .refresh then
      (Http.presentedToken r).toOption
    else none
  | _ => none

/-- The step presents the token at an instant, and no fault waits. -/
structure Step.Presents (step : Step) (token : String) (now : Instant) : Prop where
  asked : step.command.presents? = some token
  shown : step.clock.now = .ok now
  faultless : step.faults = []

/-- **The presentation is refused for that reason.** A client of the service is told no more than
    that it is refused; the reason goes to the log. -/
def Report.Refuses (settings : Settings) (command : Command) (reason : Refusal)
    (report : Report) : Prop :=
  match command with
  | .work (.serve _) =>
    report.outcome = .done (.response
      ((Http.Response.ofFailure (.refused reason)).guarded settings.corsOrigin)) ∧
      Event.requestRefused reason ∈ report.log
  | _ => report.outcome = .failed (.refused reason)

/-- A request to refresh is answered with the refusal of the rotation. -/
theorem run_serve_refused {settings : Settings} {r : Http.Request} {token : String} {clock : Clock}
    {w w' : Program.World AnyStore} {reason : Refusal}
    (presents : (Command.work (.serve r)).presents? = some token)
    (rotated : (Service.rotate settings.policy token clock).run w =
      (.failed (.refused reason), w')) :
    (Http.serve settings r clock).run w =
      (.done ((Http.Response.ofFailure (.refused reason)).guarded settings.corsOrigin),
        { w' with log := w'.log ++ [.requestRefused reason] }) := by
  simp only [Command.presents?] at presents
  split at presents
  · next hendpoint =>
    obtain ⟨hpost, hrefresh⟩ := hendpoint
    have hoptions : r.method ≠ "OPTIONS" := by
      rw [hpost]
      decide
    have htoken : Http.presentedToken r = .ok token := by
      cases hpresented : Http.presentedToken r with
      | error response => simp [hpresented, Except.toOption] at presents
      | ok found =>
        rw [hpresented] at presents
        cases presents
        rfl
    have hhandle : (Http.Endpoint.refresh.handle settings.policy token clock).run w =
        (.failed (.refused reason), w') := by
      rw [Http.Endpoint.handle, Program.run_bind, rotated]
    have hmethod : ¬ r.method ≠ "POST" := not_not_intro hpost
    rw [Http.serve, if_neg hoptions, Program.run_bind, Http.respond, hrefresh]
    simp only [if_neg hmethod, htoken, Http.run_handled, hhandle]
    rfl
  · cases presents

/-- A step is what the run of its program is. -/
theorem take_of_run {s : Session} {step : Step} {work : Work} {outcome : Outcome Value}
    {w' : Program.World AnyStore} (asked : step.command = .work work)
    (hrun : (work.program s.settings step.clock).run (s.world step) = (outcome, w')) :
    (s.take step).1.outcome = outcome ∧ (s.take step).1.log = w'.log ∧
      (s.take step).2.store = w'.store := by
  obtain ⟨command, clock, faults⟩ := step
  cases asked
  simp only [world] at hrun
  simp only [take, carryOut, hrun]
  exact ⟨trivial, trivial, trivial⟩

/-- **A presentation that the store does not accept** is refused, and does to the table what the
    store did. -/
theorem take_refused {s : Session} {step : Step} {token : String} {outcome : ConsumeOutcome}
    {reason : Refusal} (presents : step.command.presents? = some token)
    (answered : ((s.world step).store.perform
      (.consume (hashOf token) step.clock s.settings.policy)).outcome = .done outcome)
    (refusal : outcome.refusal? = some reason) :
    (s.take step).1.Refuses s.settings step.command reason ∧
      (s.take step).2.store = ((s.world step).store.perform
        (.consume (hashOf token) step.clock s.settings.policy)).store := by
  cases hcommand : step.command with
  | isEmpty | failInserts =>
    rw [hcommand] at presents
    cases presents
  | work work =>
    rw [hcommand] at presents
    cases work with
    | consume presented =>
      cases presents
      obtain ⟨w', hrun, hstore⟩ := Service.run_consume_refused answered refusal
      obtain ⟨houtcome, -, htaken⟩ := take_of_run hcommand
        (by rw [Work.program, Program.run_bind, hrun])
      exact ⟨houtcome, htaken.trans hstore⟩
    | rotate presented =>
      cases presents
      obtain ⟨w', hrun, hstore⟩ := Service.run_rotate_refused answered refusal
      obtain ⟨houtcome, -, htaken⟩ := take_of_run hcommand
        (by rw [Work.program, Program.run_bind, hrun])
      exact ⟨houtcome, htaken.trans hstore⟩
    | serve r =>
      obtain ⟨w', hrun, hstore⟩ := Service.run_rotate_refused answered refusal
      obtain ⟨houtcome, hlog, htaken⟩ := take_of_run hcommand
        (by rw [Work.program, Program.run_bind, run_serve_refused presents hrun])
      exact ⟨⟨houtcome, by simp [hlog]⟩, htaken.trans hstore⟩
    | issue | revokeFamily | revokeSubject | link | find | lineage | logout | logoutEverywhere
    | call | policy | settings => cases presents

/-- **What a presentation comes to is what the verdict on the row says.** -/
theorem take_of_judged {s : Session} {step : Step} {token : String} {now : Instant} {row : Row}
    (reachable : s.store.isReachable) (presents : step.Presents token now)
    (found : s.store.rows.byHash? (hashOf token) = some row) :
    (∀ reason, row.judge now s.settings.policy = .refuse reason →
      (s.take step).1.Refuses s.settings step.command reason ∧
        (s.take step).2.store.rows = s.store.rows) ∧
    (row.judge now s.settings.policy = .reuse →
      (s.take step).1.Refuses s.settings step.command .reused ∧
        (s.take step).2.store.rows =
          s.store.rows.sweep (fun r => r.family = row.family) (s.store.kind.keep now)) := by
  have hrows : (s.world step).store.rows = s.store.rows := AnyStore.rows_withFaults _ _
  have hkind : (s.world step).store.kind = s.store.kind := AnyStore.kind_withFaults _ _
  -- the store answers, and does what the verdict says
  have carried (hnot : row.judge now s.settings.policy ≠ .overflow) : ∃ outcome,
      ((s.world step).store.perform
        (.consume (hashOf token) step.clock s.settings.policy)).outcome = .done outcome ∧
      Carried s.store.kind s.store.rows (.consume (hashOf token) step.clock s.settings.policy)
        outcome ((s.world step).store.perform
          (.consume (hashOf token) step.clock s.settings.policy)).store.rows := by
    have hanswered : ∃ outcome, ((s.world step).store.perform
        (.consume (hashOf token) step.clock s.settings.policy)).outcome = .done outcome := by
      rw [world, presents.faultless]
      refine AnyStore.perform_consume_done reachable presents.shown fun r hr => ?_
      rw [found] at hr
      cases hr
      exact hnot
    obtain ⟨outcome, hdone⟩ := hanswered
    have hsettled := (s.world step).store.perform_settled
      (.consume (hashOf token) step.clock s.settings.policy)
    rw [hrows, hkind, hdone] at hsettled
    exact ⟨outcome, hdone, hsettled.carried_of_done⟩
  refine ⟨fun reason hreason => ?_, fun hreuse => ?_⟩
  · obtain ⟨outcome, hdone, hcarried⟩ := carried (by simp [hreason])
    obtain ⟨hrefusal, hafter⟩ := (hcarried.of_judged found presents.shown).1 reason hreason
    obtain ⟨hrefuses, hstore⟩ := take_refused presents.asked hdone hrefusal
    exact ⟨hrefuses, hstore ▸ hafter⟩
  · obtain ⟨outcome, hdone, hcarried⟩ := carried (by simp [hreuse])
    obtain ⟨hrefusal, hafter⟩ := (hcarried.of_judged found presents.shown).2 hreuse
    obtain ⟨hrefuses, hstore⟩ := take_refused presents.asked hdone hrefusal
    exact ⟨hrefuses, hstore ▸ hafter⟩

end Session

/-! ## 3. Dead families -/

/-- **A dead family stays dead** in legitimate deeds by actors that had accepted nothing of it. -/
theorem History.dead_of_legitimate {k : StoreKind} {past deeds : List Deed} {rows after : Table}
    {family : Uuid} (h : History k rows deeds after) (legitimate : Legitimate past deeds)
    (dead : rows.Dead family) (present : ∃ r ∈ rows, r.family = family)
    (hnot : ¬ Overtaken family past deeds) : after.Dead family := by
  refine (h.dead_of_not_overtaken dead hnot fun front d back heq hadds => ?_).1
  subst heq
  obtain ⟨hfront, lawful, -⟩ := h.split_cons
  rcases legitimate.split_cons with hsucceeds | ⟨-, hfresh⟩
  · exact lawful.overtaken hsucceeds hadds
  · -- the family of a login has no row yet, and this one has
    obtain ⟨token, hcall, hfamily, -⟩ := lawful.of_addsTo hadds
    obtain ⟨r, hr, hrf⟩ := present
    obtain ⟨s, hs, hrs⟩ := hfront.evolves.exists_mem hr
    exact absurd (hrs.family.trans (hrf.trans hfamily.symm)) (hfresh token hcall s hs)

/-! ## 4. Late replays -/

namespace Session

/-- What presents a token starts no family. -/
theorem Step.Presents.isOrdinary {step : Step} {token : String} {now : Instant}
    (h : step.Presents token now) : step.isOrdinary := by
  have hasked := h.asked
  unfold Step.isOrdinary
  cases hcommand : step.command with
  | isEmpty | failInserts => rfl
  | work work =>
    rw [hcommand] at hasked
    cases work with
    | consume | rotate | serve => rfl
    | issue | revokeFamily | revokeSubject | link | find | lineage | logout | logoutEverywhere
    | call | policy | settings => cases hasked

/-- What presents a token draws no family. -/
theorem Step.Presents.freshLogins {s : Session} {early late : List Step} {step : Step}
    {token : String} {now : Instant} (h : step.Presents token now) (fresh : s.FreshLogins early)
    (later : ((s.after early).take step).2.FreshLogins late) :
    s.FreshLogins (early ++ step :: late) := by
  refine fresh.append ⟨fun subject hlogin => ?_, later⟩
  have hasked := h.asked
  rw [hlogin] at hasked
  cases hasked

/-- **A dead family stays dead**, whatever ordinary steps follow. -/
theorem dead_after {s : Session} {front back : List Step} {family : Uuid}
    (ordinary : ∀ step ∈ back, step.isOrdinary) (fresh : (s.after front).FreshLogins back)
    (dead : (s.after front).store.rows.Dead family)
    (present : ∃ r ∈ (s.after front).store.rows, r.family = family) :
    (s.after (front ++ back)).store.rows.Dead family := by
  have legitimate := (s.after front).legitimate ordinary fresh
    fun d (hd : d ∈ s.deeds 0 front) => (actor_of_mem_deeds hd).2
  rw [after_append]
  refine ((s.after front).history _ back).dead_of_legitimate legitimate dead present ?_
  -- no later step has the number of an earlier one
  rintro ⟨a, ha, b, hb, hactor, -⟩
  have hfront := (actor_of_mem_deeds ha).2
  have hback := (actor_of_mem_deeds hb).1
  omega

/-- A token of a dead family is refused as revoked. -/
theorem refused_of_dead {s : Session} {step : Step} {token : String} {now : Instant} {row : Row}
    (reachable : s.store.isReachable) (presents : step.Presents token now)
    (dead : s.store.rows.Dead row.family) (found : s.store.rows.byHash? (hashOf token) = some row) :
    (s.take step).1.Refuses s.settings step.command .revoked := by
  have hrevoked := dead row (Table.mem_of_byHash? found) rfl
  have hverdict : row.judge now s.settings.policy = .refuse .revoked :=
    Row.judge_eq_refuse_iff.mpr (.inl ⟨hrevoked, rfl⟩)
  exact ((take_of_judged reachable presents found).1 _ hverdict).1

/-- Where the family of a login is dead, every token that descends from the login is refused. -/
theorem refused_of_sameLogin {s : Session} {steps : List Step} {token other : String}
    {family : Uuid} {again : Step} {now : Instant} (empty : s.store.rows = [])
    (reachable : (s.after steps).store.isReachable) (ordinary : ∀ step ∈ steps, step.isOrdinary)
    (fresh : s.FreshLogins steps)
    (born : (hashOf token, family) ∈ (s.after steps).store.rows.births)
    (dead : (s.after steps).store.rows.Dead family)
    (same : SameLogin (s.deeds 0 steps) (hashOf token) (hashOf other))
    (presents : again.Presents other now) :
    ((s.after steps).take again).1.Refuses s.settings again.command .revoked := by
  have lineage := s.lineage empty ordinary fresh
  obtain ⟨f, hf, hother⟩ := lineage.family_of_sameLogin same
  obtain ⟨r, hr, hrhash, hrf⟩ := Table.mem_births.mp hother
  have hfamily : r.family = family := hrf.trans (lineage.family_unique hf born)
  have distinct : (s.after steps).store.rows.HashesDistinct := by
    refine (s.history 0 steps).hashesDistinct ?_
    rw [empty]
    exact List.nodup_nil
  have found := Table.byHash?_of_mem distinct hr
  rw [hrhash] at found
  have hrefused := refused_of_dead reachable presents (hfamily ▸ dead) found
  rwa [settings_after] at hrefused

/-- **A late replay**: a token that was consumed and is not revoked is presented after its grace
    window and not after its expiry. -/
def LateReplay (s : Session) (step : Step) (token : String) : Prop :=
  ∃ now row g, step.Presents token now ∧ s.store.rows.byHash? (hashOf token) = some row ∧
    row.revokedAt = none ∧ row.consumedAt.isSome ∧ row.graceExpiresAt = some g ∧ g < now ∧
      now ≤ row.expiresAt

/-- **A theft is detected** when the token is presented in `step`, with `early` before it: `s` is
    the session before all that. -/
structure TheftDetected (s : Session) (early : List Step) (step : Step) (token : String) :
    Prop where
  refused : ((s.after early).take step).1.Refuses s.settings step.command .reused
  /-- The token descends from a login. -/
  descends : SameLogin (s.deeds 0 early) (hashOf token) (hashOf token)
  /-- The rows of that login are revoked at one instant, and all others stay as they are. -/
  swept : ∃ t, List.Forall₂ (fun r r' : Row =>
      (SameLogin (s.deeds 0 early) (hashOf token) r.hash → r' = r.revoke t) ∧
        (¬ SameLogin (s.deeds 0 early) (hashOf token) r.hash → r' = r))
    (s.after early).store.rows ((s.after early).take step).2.store.rows
  /-- Whatever is done later, as long as the store can be reached, every token that by then descends
      from the same login is refused as revoked, at every instant. -/
  ended : ∀ late : List Step, (∀ step ∈ late, step.isOrdinary) →
    ((s.after early).take step).2.FreshLogins late →
      (s.after (early ++ step :: late)).store.isReachable → ∀ other,
      SameLogin (s.deeds 0 (early ++ step :: late)) (hashOf token) (hashOf other) →
        ∀ (again : Step) (now : Instant), again.Presents other now →
          ((s.after (early ++ step :: late)).take again).1.Refuses s.settings again.command .revoked

/-- **Theft is detected** in every session that begins with an empty table: on a store of either
    kind, after any ordinary steps whose logins draw fresh families and that leave the store
    reachable, as they do unless one of them is broken off. -/
theorem theft_detected (s : Session) (empty : s.store.rows = []) {early : List Step}
    (ordinary : ∀ step ∈ early, step.isOrdinary) (fresh : s.FreshLogins early)
    (reachable : (s.after early).store.isReachable) {step : Step} {token : String}
    (replay : (s.after early).LateReplay step token) : TheftDetected s early step token := by
  obtain ⟨now, row, g, presents, found, hlive, hconsumed, hgrace, hlate, hexpiry⟩ := replay
  have hmem := Table.mem_of_byHash? found
  have hhash := Table.hash_of_byHash? found
  have lineage := s.lineage empty ordinary fresh
  have hverdict : row.judge now (s.after early).settings.policy = .reuse := by
    refine Row.judge_eq_reuse_iff.mpr ⟨hlive, hexpiry, hconsumed, fun g' hg' => ?_⟩
    rw [hgrace] at hg'
    cases hg'
    exact hlate
  obtain ⟨hrefuses, hrows⟩ := (take_of_judged reachable presents found).2 hverdict
  have hsame (r : Row) (hr : r ∈ (s.after early).store.rows) :
      SameLogin (s.deeds 0 early) (hashOf token) r.hash ↔ r.family = row.family := by
    rw [← hhash, lineage.sameLogin_iff (Table.mem_births.mpr ⟨row, hmem, rfl, rfl⟩)
      (Table.mem_births.mpr ⟨r, hr, rfl, rfl⟩), eq_comm]
  refine ⟨settings_after s early ▸ hrefuses, ?_, ⟨(s.after early).store.kind.keep now, ?_⟩,
    fun late hordinary hfresh hreach other hother again instant hagain => ?_⟩
  · have hself := (hsame row hmem).mpr rfl
    rwa [hhash] at hself
  · rw [hrows, Table.sweep, Table.changeAll, List.forall₂_map_right_iff]
    refine List.forall₂_same.mpr fun r hr => ⟨fun hlogin => ?_, fun hlogin => ?_⟩
    · simp [(hsame r hr).mp hlogin]
    · simp [mt (hsame r hr).mpr hlogin]
  · have hsteps : early ++ step :: late = early ++ [step] ++ late := by simp
    have hafter : s.after (early ++ [step]) = ((s.after early).take step).2 :=
      after_append s early [step]
    have hall : ∀ e ∈ early ++ step :: late, e.isOrdinary := by
      intro e he
      rcases List.mem_append.mp he with hearly | hrest
      · exact ordinary e hearly
      · rcases List.mem_cons.mp hrest with rfl | hlater
        · exact presents.isOrdinary
        · exact hordinary e hlater
    have hlogins := presents.freshLogins fresh hfresh
    have born : (hashOf token, row.family) ∈
        (s.after (early ++ step :: late)).store.rows.births := by
      obtain ⟨r, hr, hrow⟩ := (s.evolves_after early (step :: late)).exists_mem hmem
      exact Table.mem_births.mpr ⟨r, hr, hrow.hash.trans hhash, hrow.family⟩
    have dead : (s.after (early ++ step :: late)).store.rows.Dead row.family := by
      rw [hsteps]
      refine dead_after hordinary (hafter ▸ hfresh) ?_ ?_
      · rw [hafter, hrows]
        exact Table.dead_sweep (fun r _ hr => decide_eq_true hr) _
      · obtain ⟨r, hr, hrow⟩ := (s.evolves_after early [step]).exists_mem hmem
        exact ⟨r, hr, hrow.family⟩
    exact refused_of_sameLogin empty hreach hall hlogins born dead hother hagain

/-- **The successors that rotations answered are refused** once a theft is detected, those from
    before it and those from after it. -/
theorem TheftDetected.refused_of_rotate {s : Session} {early late front back : List Step}
    {step rotation : Step} {token parent : String} {rotated : Service.RotatedToken}
    (theft : TheftDetected s early step token) (ordinary : ∀ step ∈ late, step.isOrdinary)
    (fresh : ((s.after early).take step).2.FreshLogins late)
    (reachable : (s.after (early ++ step :: late)).store.isReachable)
    (taken : early ++ step :: late = front ++ [rotation] ++ back)
    (same : SameLogin (s.deeds 0 front) (hashOf token) (hashOf parent))
    (asked : rotation.command = .work (.rotate parent))
    (answered : ((s.after front).take rotation).1.outcome = .done (.rotated rotated))
    {again : Step} {now : Instant} (presents : again.Presents rotated.issued.token now) :
    ((s.after (early ++ step :: late)).take again).1.Refuses s.settings again.command
      .revoked := by
  refine theft.ended late ordinary fresh reachable rotated.issued.token ?_ again now presents
  rw [taken, deeds_append]
  exact (sameLogin_of_rotate same asked answered).append _

/-- A login is rotated, and its first token is presented after its grace window: the theft is
    detected, and the successor is refused. -/
theorem theft_detected_of_replay :
    let token := (Secret.ofNat 1).token
    let early := [Step.at 0 (.issue "alice" none), Step.at 9 (.rotate token)]
    let replay := Step.at 30 (.consume token)
    TheftDetected (trial []) early replay token ∧
      (((trial []).after (early ++ [replay])).take
        (Step.at 31 (.consume (Secret.ofNat 2).token))).1.outcome =
          .failed (.refused .revoked) := by
  intro token early replay
  let now : Instant := ⟨sampleInstant.nanos + (Duration.ofSeconds 30).nanos⟩
  have found : (((trial []).after early).store.rows.byHash? (hashOf token)).any fun row =>
      row.revokedAt = none ∧ row.consumedAt.isSome ∧ row.graceExpiresAt.any (· < now) ∧
        now ≤ row.expiresAt := by
    decide +kernel
  have late : ((trial []).after early).LateReplay replay token := by
    obtain ⟨row, hrow, hstamps⟩ := (Option.any_eq_true _ _).mp found
    obtain ⟨hlive, hconsumed, hgrace, hexpiry⟩ := of_decide_eq_true hstamps
    obtain ⟨g, hg, hlate⟩ := (Option.any_eq_true _ _).mp hgrace
    exact ⟨now, row, g, ⟨rfl, rfl, rfl⟩, hrow, hlive, hconsumed, hg, of_decide_eq_true hlate,
      hexpiry⟩
  have fresh : (trial []).FreshLogins early :=
    ⟨fun _ _ r hr => absurd hr List.not_mem_nil, nofun, trivial⟩
  have theft := theft_detected (trial []) rfl (by decide) fresh (by decide +kernel) late
  refine ⟨theft, ?_⟩
  let login := Step.at 0 (.issue "alice" none)
  let rotation := Step.at 9 (.rotate token)
  let again := Step.at 31 (.consume (Secret.ofNat 2).token)
  let issued : Service.IssuedToken :=
    { token, id := .random 2, family := .random 1
      expiresAt := ⟨sampleInstant.nanos + (Duration.ofDays 7).nanos⟩ }
  let rotated : Service.RotatedToken :=
    { issued := { token := (Secret.ofNat 2).token, id := .random 3, family := .random 1
                  expiresAt := ⟨sampleInstant.nanos + (Duration.ofSeconds 9).nanos +
                    (Duration.ofDays 7).nanos⟩ }
      subject := "alice", previousId := issued.id }
  have answered : ((trial []).take login).1.outcome = .done (.issued issued) := by decide +kernel
  have succeeded : (((trial []).after [login]).take rotation).1.outcome =
      .done (.rotated rotated) := by decide +kernel
  have reachable : ((trial []).after (early ++ [replay])).store.isReachable := by decide +kernel
  -- From here on, what the session comes to is a matter of these facts.
  generalize trial [] = s at theft answered succeeded reachable ⊢
  have same := @sameLogin_of_login s login [] "alice" issued rfl answered
  have presents : again.Presents rotated.issued.token
    ⟨sampleInstant.nanos + (Duration.ofSeconds 31).nanos⟩ := ⟨rfl, rfl, rfl⟩
  have refused := @TheftDetected.refused_of_rotate s early [] [login] [replay] replay rotation token
    token rotated theft (fun _ h => absurd h List.not_mem_nil) trivial reachable rfl same rfl
    succeeded again _ presents
  generalize ((s.after (early ++ [replay])).take again).1 = report at refused ⊢
  exact refused

end Session

end TokenRotation

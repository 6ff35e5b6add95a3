import TokenRotation.Proofs.Boundary
import TokenRotation.Proofs.Lifecycle
import TokenRotation.Proofs.Theft

/-!
# From issue to first use

What an issue tells of its token is what a first use of it comes to: the same identifier, family and
subject, and the very expiry that was told, to the nanosecond. Whatever is done between the two, by
whom and with whatever faults, if only nobody presents the token and nobody revokes its row, and
nothing is broken off behind the lock of a table in memory: who comes to that lock afterwards is
broken off as well.

The row is found again because no hash ever stops finding its row. It is still unused because a row
is consumed only by a unit of work that presents its hash, and a program presents no hash but that
of the token it was given.

* `Program.Spares` -- the program never presents the hash;
* `Session.deeds_spare` -- what steps are not given to present, none of their deeds presents;
* `History.unstamped` -- a row whose hash is not presented stays as unused as it was;
* `Session.roundTrip` -- **an issued token that nobody has touched is accepted until its expiry**;
* `Session.roundTrip_limits` -- what another presentation that overflows does to it in memory.
-/

namespace TokenRotation

/-! ## 1. Programs that spare a hash -/

/-- The hash that a call presents. -/
def StoreCall.presents? : StoreCall → Option String
  | .consume hash _ _ => some hash
  | _ => none

theorem Deed.presented?_eq (d : Deed) : d.presented? = d.call.presents? := by
  obtain ⟨_, _, call, _, _⟩ := d
  cases call <;> rfl

namespace Program

variable {α β : Type} {hash : String} {p : Program α}

/-- **Whatever it is replied, the program never presents the hash.** -/
def Spares (hash : String) : Program α → Prop
  | .finish _ => True
  | .request r next =>
    (∀ call, r = .store call → call.presents? ≠ some hash) ∧ ∀ reply, (next reply).Spares hash

theorem spares_bind {f : α → Program β} (h : p.Spares hash) (hf : ∀ a, (f a).Spares hash) :
    (p >>= f).Spares hash := by
  induction p with
  | finish outcome =>
    cases outcome with
    | done a => exact hf a
    | failed | aborted => exact trivial
  | request r next ih => exact ⟨h.1, fun reply => ih reply (h.2 reply)⟩

theorem spares_attempt (h : p.Spares hash) : p.attempt.Spares hash := by
  induction p with
  | finish outcome => cases outcome <;> exact trivial
  | request r next ih => exact ⟨h.1, fun reply => ih reply (h.2 reply)⟩

theorem spares_store {call : StoreCall} (h : call.presents? ≠ some hash) :
    (store call).Spares hash := by
  refine ⟨fun _ heq => ?_, fun reply => ?_⟩
  · cases heq
    exact h
  · cases reply <;> exact trivial

theorem spares_log_bind {event : Event} {f : Unit → Program α} (h : (f ()).Spares hash) :
    (log event >>= f).Spares hash := ⟨nofun, fun _ => h⟩

theorem spares_now (clock : Clock) : (now clock).Spares hash := by
  unfold now
  split <;> exact trivial

/-- No deed of a program that spares a hash presents it. -/
theorem Spares.deeds {σ : Type} [TokenStore σ] (h : p.Spares hash) (actor : Nat) (w : World σ) :
    ∀ d ∈ p.deeds actor w, d.presented? ≠ some hash := by
  induction p generalizing w with
  | finish outcome => exact fun d hd => absurd hd List.not_mem_nil
  | request r next ih =>
    intro d hd
    unfold Program.deeds at hd
    rcases List.mem_append.mp hd with hd | hd
    · cases r with
      | store call =>
        rw [List.mem_singleton.mp hd, Deed.presented?_eq]
        exact h.1 call rfl
      | secret | uuid | log => cases hd
    · split at hd
      · next reply w' _ => exact ih reply (h.2 reply) w' d hd
      · cases hd

end Program

/-! ## 2. What the services spare -/

namespace Service

open Program

variable {hash token : String}

theorem consume_spares (other : hashOf token ≠ hash) (policy : Policy) (clock : Clock) :
    (consume policy token clock).Spares hash := by
  refine spares_log_bind ?_
  refine spares_bind (spares_store (mt Option.some.inj other)) fun outcome => ?_
  cases outcome with
  | accepted | unknown | rejected | reused => exact spares_log_bind trivial

theorem issueWithin_spares {policy : Policy} {subject : String} {family : Uuid} {now : Instant}
    {left number : Nat} : (issueWithin policy subject family now left number).Spares hash := by
  induction left generalizing number with
  | zero => exact trivial
  | succ left ih =>
    refine ⟨nofun, fun secret => ⟨nofun, fun id => ?_⟩⟩
    cases policy.expiresAt? now with
    | none => exact trivial
    | some expiresAt =>
      refine ⟨fun call heq => ?_, fun reply => ?_⟩
      · cases heq
        exact nofun
      · match reply with
        | .ok row => exact ⟨nofun, fun _ => trivial⟩
        | .error .hashCollision => exact ⟨nofun, fun _ => ih⟩
        | .error (.database _) | .error (.invalidInput _) | .error .notFound
        | .error (.refused _) => exact trivial

theorem issue_spares (policy : Policy) (subject : String) (given : Option Uuid) (now : Instant) :
    (issue policy subject given now).Spares hash := by
  unfold issue
  refine spares_log_bind ?_
  split
  · exact trivial
  · cases given with
    | some family => exact issueWithin_spares
    | none => exact ⟨nofun, fun fresh => issueWithin_spares⟩

theorem rotate_spares (other : hashOf token ≠ hash) (policy : Policy) (clock : Clock) :
    (rotate policy token clock).Spares hash := by
  refine spares_bind (consume_spares other policy clock) fun consumed => ?_
  refine spares_bind (spares_now clock) fun now => ?_
  refine spares_bind (issue_spares policy _ _ now) fun issued => ?_
  refine spares_bind (spares_store nofun) fun linked => ?_
  split
  · exact trivial
  · exact spares_log_bind trivial

theorem revokeFamily_spares (family : Uuid) (now : Instant) :
    (revokeFamily family now).Spares hash :=
  spares_log_bind (spares_bind (spares_store nofun) fun _ => spares_log_bind trivial)

theorem revokeSubject_spares (subject : String) (now : Instant) :
    (revokeSubject subject now).Spares hash :=
  spares_log_bind (spares_bind (spares_store nofun) fun _ => spares_log_bind trivial)

/-- Looking a token up is not presenting it. -/
theorem authenticate_spares (token : String) (now : Instant) :
    (authenticate token now).Spares hash := by
  refine spares_bind (spares_store nofun) fun found => ?_
  cases found with
  | none => exact trivial
  | some row =>
    simp only
    split
    · exact trivial
    · exact trivial
    · exact spares_log_bind trivial

theorem logout_spares (token : String) (now : Instant) : (logout token now).Spares hash :=
  spares_bind (authenticate_spares token now) fun row => revokeFamily_spares row.family now

theorem logoutEverywhere_spares (token : String) (now : Instant) :
    (logoutEverywhere token now).Spares hash :=
  spares_bind (authenticate_spares token now) fun row => revokeSubject_spares row.subject now

end Service

namespace Session

open Program

variable {hash : String}

/-- The hash that a command presents: that of its token, or the one that the store is called with. A
    store knows a token by its hash only, so to present the token is to present its hash. -/
def Command.presentsHash? : Command → Option String
  | .work (.call call) => call.presents?
  | command => command.presents?.map hashOf

/-- A request presents the token of its body, and that only to a refresh. -/
theorem serve_spares {r : Http.Request}
    (other : (Command.work (.serve r)).presentsHash? ≠ some hash) (settings : Settings)
    (clock : Clock) : (Http.serve settings r clock).Spares hash := by
  have handled {q : Program Http.Response} (h : q.Spares hash) : (Http.handled q).Spares hash := by
    refine spares_bind (spares_attempt h) fun result => ?_
    cases result with
    | ok response => exact trivial
    | error failure => exact spares_log_bind trivial
  unfold Http.serve
  split
  · exact trivial
  · refine spares_bind ?_ fun response => trivial
    unfold Http.respond
    split
    · exact trivial
    · next endpoint hendpoint =>
      split
      · exact trivial
      · next post =>
        split
        · next token hpresented =>
          refine handled ?_
          cases endpoint with
          | refresh =>
            have another : hashOf token ≠ hash := fun heq => other <| by
              simp [Command.presentsHash?, Command.presents?, not_not.mp post, hendpoint,
                hpresented, Except.toOption, heq]
            exact spares_bind (Service.rotate_spares another _ clock) fun _ => trivial
          | logout =>
            exact spares_bind (spares_now clock) fun now =>
              spares_bind (Service.logout_spares token now) fun _ => trivial
          | logoutEverywhere =>
            exact spares_bind (spares_now clock) fun now =>
              spares_bind (Service.logoutEverywhere_spares token now) fun _ => trivial
        · exact trivial

/-- **A piece of work presents no hash but the one that it is given to present.** -/
theorem Work.spares {work : Work} (other : (Command.work work).presentsHash? ≠ some hash)
    (settings : Settings) (clock : Clock) : (work.program settings clock).Spares hash := by
  have given {token : String} (h : some (hashOf token) ≠ some hash) : hashOf token ≠ hash :=
    fun heq => h (congrArg some heq)
  cases work with
  | issue subject family =>
    exact spares_bind (spares_now clock) fun now =>
      spares_bind (Service.issue_spares _ subject family now) fun _ => trivial
  | consume token =>
    exact spares_bind (Service.consume_spares (given other) _ clock) fun _ => trivial
  | rotate token => exact spares_bind (Service.rotate_spares (given other) _ clock) fun _ => trivial
  | revokeFamily family =>
    exact spares_bind (spares_now clock) fun now =>
      spares_bind (Service.revokeFamily_spares family now) fun _ => trivial
  | revokeSubject subject =>
    exact spares_bind (spares_now clock) fun now =>
      spares_bind (Service.revokeSubject_spares subject now) fun _ => trivial
  | link | find | lineage => exact spares_bind (spares_store nofun) fun _ => trivial
  | logout token =>
    exact spares_bind (spares_now clock) fun now =>
      spares_bind (Service.logout_spares token now) fun _ => trivial
  | logoutEverywhere token =>
    exact spares_bind (spares_now clock) fun now =>
      spares_bind (Service.logoutEverywhere_spares token now) fun _ => trivial
  | call c => exact spares_bind (spares_store other) fun _ => trivial
  | policy | settings => exact trivial
  | serve r => exact spares_bind (serve_spares other settings clock) fun _ => trivial

/-- **What no step is given to present, no deed presents.** -/
theorem deeds_spare (s : Session) (number : Nat) {steps : List Step}
    (other : ∀ step ∈ steps, step.command.presentsHash? ≠ some hash) :
    ∀ d ∈ s.deeds number steps, d.presented? ≠ some hash := by
  induction steps generalizing s number with
  | nil => exact fun d hd => absurd hd List.not_mem_nil
  | cons step rest ih =>
    intro d hd
    rcases List.mem_append.mp hd with hd | hd
    · have hstep := other step List.mem_cons_self
      unfold stepDeeds at hd
      split at hd
      · next work hwork =>
        rw [hwork] at hstep
        exact (Work.spares hstep _ _).deeds number _ d hd
      · cases hd
    · exact ih _ _ (fun step hs => other step (List.mem_cons_of_mem _ hs)) d hd

end Session

/-! ## 3. Rows that are not presented -/

/-- The row evolves, and is not consumed by it. -/
structure Row.Unstamped (r s : Row) : Prop extends Row.Evolves r s where
  stamp : s.consumedAt = r.consumedAt

theorem Row.Unstamped.refl (r : Row) : r.Unstamped r := ⟨Evolves.refl r, rfl⟩

theorem Row.Unstamped.trans {r s t : Row} (h : r.Unstamped s) (h' : s.Unstamped t) :
    r.Unstamped t :=
  ⟨h.toEvolves.trans h'.toEvolves, h'.stamp.trans h.stamp⟩

/-- Whatever a store takes for the presented row has its hash. -/
theorem StoreKind.hash_of_presented {k : StoreKind} {rows : Table} {row r : Row}
    (ids : k = .durable → rows.IdsDistinct) (hrow : row ∈ rows) (hr : r ∈ rows)
    (h : k.presented row r) : r.hash = row.hash := by
  cases k with
  | memory => simpa [presented] using h
  | durable =>
    have same : r.id = row.id := by simpa [presented] using h
    rw [(ids rfl).eq_of_id hr hrow same]

section Unstamped

variable {k : StoreKind} {rows after : Table} {hash : String}

/-- **A call that does not present the hash of a row leaves it as unused as it was.** -/
theorem Carried.unstamped {call : StoreCall} {answer : call.Answer} {r : Row}
    (h : Carried k rows call answer after) (ids : k = .durable → rows.IdsDistinct)
    (spared : call.presents? ≠ some hash) (found : rows.byHash? hash = some r) :
    ∃ s, after.byHash? hash = some s ∧ r.Unstamped s := by
  -- the change of a row may be a stamp if its hash is another one
  let R (x y : Row) : Prop := x.Evolves y ∧ (x.hash = hash → y.consumedAt = x.consumedAt)
  have refl (x : Row) : R x x := ⟨.refl x, fun _ => rfl⟩
  have sweep (t : Instant) (x : Row) : R x (x.revoke t) := by
    refine ⟨x.evolves_revoke t, fun _ => ?_⟩
    unfold Row.revoke
    split <;> rfl
  have changed {later : Table} (hrows : List.Forall₂ R rows later) :
      ∃ s, later.byHash? hash = some s ∧ r.Unstamped s := by
    obtain ⟨s, hs, hevolves, hstamp⟩ :=
      Table.find?_of_forall₂ (fun hxy => hxy.1.hash) hrows found
    exact ⟨s, hs, hevolves, hstamp (Table.hash_of_byHash? found)⟩
  cases h with
  | unknown | refused | grace | getByHash | listFamily => exact ⟨r, found, .refl r⟩
  | insert => exact ⟨r, Table.byHash?_append found _, .refl r⟩
  | @first presented _ _ row _ c g found' =>
    refine changed (k.forall₂_change_of_mem refl fun x hx hchosen => ?_)
    refine ⟨x.evolves_stamp _ _, fun hxhash => absurd ?_ spared⟩
    have hrow := k.hash_of_presented ids (Table.mem_of_byHash? found') hx hchosen
    exact congrArg some ((Table.hash_of_byHash? found').symm.trans (hrow.symm.trans hxhash))
  | reuse | revokeFamily | revokeSubject =>
    exact changed (Table.forall₂_changeAll refl (fun x _ => sweep _ x) rows)
  | @link id successor =>
    have linked (x : Row) (hx : x.unlinked id) : R x { x with replacedBy := some successor } := by
      obtain ⟨-, unlinked⟩ : x.id = id ∧ x.replacedBy = none := by simpa [Row.unlinked] using hx
      exact ⟨Row.evolves_link unlinked successor, fun _ => rfl⟩
    exact changed (k.forall₂_change refl linked rows)

theorem Deed.Lawful.unstamped {d : Deed} {r : Row} (lawful : d.Lawful k)
    (ids : k = .durable → d.before.IdsDistinct) (spared : d.presented? ≠ some hash)
    (found : d.before.byHash? hash = some r) :
    ∃ s, d.after.byHash? hash = some s ∧ r.Unstamped s := by
  rw [d.presented?_eq] at spared
  obtain ⟨actor, before, call, outcome, after⟩ := d
  change Settled k before call outcome after at lawful
  cases lawful with
  | kept => exact ⟨r, found, .refl r⟩
  | carried hcarried => exact hcarried.unstamped ids spared found

/-- **A row whose hash nobody presents stays as unused as it was**, in every history. -/
theorem History.unstamped {deeds : List Deed} {r : Row} (h : History k rows deeds after)
    (keyed : ∀ d ∈ deeds, d.Keyed k) (ids : k = .durable → rows.IdsDistinct)
    (spared : ∀ d ∈ deeds, d.presented? ≠ some hash) (found : rows.byHash? hash = some r) :
    ∃ s, after.byHash? hash = some s ∧ r.Unstamped s := by
  induction h generalizing r with
  | nil => exact ⟨r, found, .refl r⟩
  | @cons d rest after lawful _ ih =>
    obtain ⟨s, hs, hrs⟩ := lawful.unstamped ids (spared d List.mem_cons_self) found
    obtain ⟨t, ht, hst⟩ := ih (fun e he => keyed e (List.mem_cons_of_mem d he))
      (lawful.idsDistinct (keyed d List.mem_cons_self) ids)
      (fun e he => spared e (List.mem_cons_of_mem d he)) hs
    exact ⟨t, ht, hrs.trans hst⟩

end Unstamped

/-! ## 4. The round trip -/

/-- **The row of an issued token**: it is what was told, belongs to the subject and has no cell
    filled. -/
structure Service.IssuedToken.IsRow (issued : IssuedToken) (subject : String) (row : Row) : Prop
    where
  id : row.id = issued.id
  subject : row.subject = subject
  family : row.family = issued.family
  expiresAt : row.expiresAt = issued.expiresAt
  pristine : row.IsPristine

namespace Session

open Program

/-- **A step that issues a token leaves its row**, in the given family if one was given. -/
theorem row_of_issue {s : Session} {step : Step} {subject : String} {given : Option Uuid}
    {issued : Service.IssuedToken} (asked : step.command = .work (.issue subject given))
    (answered : (s.take step).1.outcome = .done (.issued issued)) :
    (∀ f ∈ given, issued.family = f) ∧ ∃ row, issued.IsRow subject row ∧
      (s.take step).2.store.rows.byHash? (hashOf issued.token) = some row := by
  have hprogram : (Work.program s.settings step.clock (.issue subject given)).Ends s.store.kind
      s.store.rows fun _ outcome after => ∀ issued, outcome = .done (.issued issued) → ∃ now,
        Service.Adds s.store.kind s.store.rows s.settings.policy subject given now (.done issued)
          after := by
    refine ends_now_bind (fun now _ => ?_) fun cause _ => nofun
    refine (ends_map_done (Service.issue_adds _ subject given now) Value.issued).imp
      fun deeds outcome after h issued hissued => ?_
    obtain ⟨_, ⟨⟩, hadds⟩ := h _ hissued
    exact ⟨now, hadds⟩
  obtain ⟨now, hadds⟩ := take_ends asked hprogram 0 issued answered
  obtain ⟨family, secret, id, expiry, hgiven, -, fresh, hafter, rfl⟩ := hadds issued rfl
  refine ⟨fun f hf => (s.store.kind.keepRow_family _).trans (hgiven f hf),
    s.store.kind.keepRow (Service.newToken subject family now expiry secret id).row,
    ⟨rfl, s.store.kind.keepRow_subject _, rfl, rfl, s.store.kind.isPristine_keepRow _⟩, ?_⟩
  rw [hafter]
  exact Table.byHash?_append_new fresh (s.store.kind.keepRow_hash _)

/-- **An issued token is accepted until its expiry**, and then refused as expired: on a store of
    either kind, after any steps, faults and clocks between that present another hash, leave its row
    unrevoked and leave the store within reach, which a database always stays. It is accepted as
    what was issued, and the expiry that was told is the last instant of it. -/
theorem roundTrip {s : Session} {step : Step} {subject : String} {given : Option Uuid}
    {issued : Service.IssuedToken} {between : List Step} {now : Instant}
    (ids : s.store.kind = .durable → s.store.rows.IdsDistinct)
    (asked : step.command = .work (.issue subject given))
    (answered : (s.take step).1.outcome = .done (.issued issued))
    (reachable : (s.after (step :: between)).store.isReachable)
    (spared : ∀ other ∈ between, other.command.presentsHash? ≠ some (hashOf issued.token))
    (live : ∀ row ∈ (s.after (step :: between)).store.rows.byHash? (hashOf issued.token),
      row.revokedAt = none)
    (closes : (s.settings.policy.graceExpiresAt? now).isSome) :
    (∀ f ∈ given, issued.family = f) ∧
      ((s.after (step :: between)).consumption issued.token now).1 =
        if now ≤ issued.expiresAt then
          .done (.consumed { id := issued.id, subject, family := issued.family, kind := .first })
        else .failed (.refused .expired) := by
  obtain ⟨inGiven, row₀, isRow, found₀⟩ := row_of_issue asked answered
  obtain ⟨hstep, hkind⟩ := s.history_take 0 step
  -- the row is found again, and is not used
  have ids' : (s.take step).2.store.kind = .durable → (s.take step).2.store.rows.IdsDistinct :=
    hkind ▸ hstep.idsDistinct (fun d hd => s.keyed 0 [step] d (List.mem_append_left _ hd)) ids
  obtain ⟨row, found, hrow⟩ := ((s.take step).2.history 1 between).unstamped
    ((s.take step).2.keyed 1 between) ids' ((s.take step).2.deeds_spare 1 spared) found₀
  have hlive : row.revokedAt = none := live row found
  have hexpiry : row.expiresAt = issued.expiresAt := hrow.expiresAt.trans isRow.expiresAt
  refine ⟨inGiven, ?_⟩
  split
  · next intime =>
    obtain ⟨deadline, closes⟩ := Option.isSome_iff_exists.mp closes
    have unused : row.consumedAt = none := hrow.stamp.trans isRow.pristine.1
    have hend := consumption_of_unused reachable found hlive unused (hexpiry ▸ intime)
      ((s.settings_after (step :: between)).symm ▸ closes)
    rw [hend, hrow.id, hrow.subject, hrow.family, isRow.id, isRow.subject, isRow.family]
  · next late =>
    have late : row.expiresAt < now := hexpiry ▸ Int.not_le.1 late
    rw [consumption_of_expired reachable found hlive late]

/-- A token is issued a nanosecond after a whole second, on a database that keeps its expiry that
    nanosecond early, and tells it so. After a rotation of another token that loses its update, a
    look at the token and a revocation of somebody else, the token is accepted at the instant that
    was told, and a nanosecond later it is expired. -/
theorem roundTrip_of_nanosecond :
    let sample := sampleRow "first" "alice" (.ofLists [] [])
    let s : Session := { store := .durableOf [sample.1] { reachable := true }, draws := sample.2
                         settings := .trial .default }
    let family : Uuid := .ofNat 7
    let issue : Step := { command := .work (.issue "bob" (some family))
                          clock := .fixed ⟨sampleInstant.nanos + 1⟩ }
    let issued : Service.IssuedToken := { token := s.draws.secret.1.token, id := s.draws.uuid.1
                                          family, expiresAt := sampleExpiry }
    let between := [
      { Step.at 5 (.rotate "first") with
        faults := [{ target := .statement .update, state := "57014" }] },
      Step.at 6 (.find issued.token), Step.at 7 (.revokeSubject "alice")]
    let later := s.after (issue :: between)
    (s.take issue).1.outcome = .done (.issued issued) ∧
      (later.consumption issued.token issued.expiresAt).1 = .done (.consumed
        { id := issued.id, subject := "bob", family, kind := .first }) ∧
        (later.consumption issued.token ⟨issued.expiresAt.nanos + 1⟩).1 =
          .failed (.refused .expired) := by
  intro sample s family issue issued between later
  have facts : (later.store.isReachable ∧ s.store.rows.IdsDistinct) ∧
      (s.take issue).1.outcome = .done (.issued issued) ∧
        (∀ other ∈ between, other.command.presentsHash? ≠ some (hashOf issued.token)) ∧
          (∀ row ∈ later.store.rows.byHash? (hashOf issued.token), row.revokedAt = none) ∧
            (s.settings.policy.graceExpiresAt? issued.expiresAt).isSome ∧
              (s.settings.policy.graceExpiresAt? ⟨issued.expiresAt.nanos + 1⟩).isSome := by
    decide +kernel
  obtain ⟨⟨reachable, ids⟩, answered, spared, live, closes, closes'⟩ := facts
  have intime := (roundTrip (fun _ => ids) rfl answered reachable spared live closes).2
  have late := (roundTrip (fun _ => ids) rfl answered reachable spared live closes').2
  have last : issued.expiresAt ≤ issued.expiresAt := Int.le_refl _
  have next : ¬ (⟨issued.expiresAt.nanos + 1⟩ : Instant) ≤ issued.expiresAt :=
    Int.not_le.2 (Int.lt_succ _)
  rw [if_pos last] at intime
  rw [if_neg next] at late
  exact ⟨answered, intime, late⟩

/-- Two tokens are issued in memory, the first so late that it expires with the calendar. In the
    last second of the calendar it is presented, and the end of its grace window overflows behind
    the lock. The second token, which nobody has touched, is not accepted any more. -/
theorem roundTrip_limits :
    let s : Session := { store := .memory {}, draws := .ofLists [] [], settings := .trial .default }
    let first : Step := { command := .work (.issue "alice" none)
                          clock := .fixed ⟨Instant.last.nanos - Policy.default.lifetime.nanos⟩ }
    let issue : Step := { command := .work (.issue "bob" none), clock := .fixed sampleInstant }
    let presentation : Step := .consuming (Secret.ofNat 1).token ⟨Instant.last.nanos - 999999999⟩
    let ready := s.after [first]
    let issued : Service.IssuedToken :=
      { token := ready.draws.secret.1.token, id := ready.draws.uuid.2.uuid.1
        family := ready.draws.uuid.1, expiresAt := sampleExpiry }
    let later := ready.after [issue, presentation]
    ready.store.rows.IdsDistinct ∧ ready.store.rows.HashesDistinct ∧
      (ready.take issue).1.outcome = .done (.issued issued) ∧
        presentation.command.presentsHash? ≠ some (hashOf issued.token) ∧
          (later.store.rows.byHash? (hashOf issued.token)).map Row.revokedAt = some none ∧
            (Policy.default.graceExpiresAt? sampleInstant).isSome ∧
              sampleInstant ≤ issued.expiresAt ∧
                (later.consumption issued.token sampleInstant).1 = .aborted .poisoned := by
  decide +kernel

end Session

end TokenRotation

import TokenRotation.Proofs.Renaming

/-!
# Secrets reach nothing but hashes

Two runs of a service that differ only in the secrets they draw, in the texts of the tokens that are
presented to them and in the hashes they begin with cannot be told apart by anything but these, as
long as the hashes of the one stand in a one-to-one correspondence `R` to the hashes of the other.
The second run goes through the same requests as the first, answer for answer; a secret is made
nothing of but its text, which is handed out, and the hash of its text, which goes to the store. A
database is asked to be discreet about what it refuses: the log has its words.

* `Program.Parallels` -- two programs that make the same requests but for hashes;
* `Program.Parallels.run` -- they end alike in worlds that are the same but for hashes and secrets;
* `Session.secrecy` -- **two such runs have the same logs and the same answers** but for
  tokens and hashes, and end in tables that are the same but for hashes.
-/

namespace TokenRotation

variable {R T : String → String → Prop}

/-! ## 1. Draws -/

namespace Draws

/-- The draws go on from others: along the same secrets, and not backwards. -/
structure GoesOn (d d' : Draws) : Prop where
  secretAt : d'.secretAt = d.secretAt
  secretsDrawn : d.secretsDrawn ≤ d'.secretsDrawn

theorem GoesOn.refl (d : Draws) : d.GoesOn d := ⟨rfl, Nat.le_refl _⟩

theorem goesOn_secret (d : Draws) : d.GoesOn d.secret.2 := ⟨rfl, Nat.le_succ _⟩

theorem GoesOn.trans {d₁ d₂ d₃ : Draws} (h : d₁.GoesOn d₂) (h' : d₂.GoesOn d₃) : d₁.GoesOn d₃ :=
  ⟨h'.secretAt.trans h.secretAt, Nat.le_trans h.secretsDrawn h'.secretsDrawn⟩

/-- Draws that differ only in the secrets: as many of both kinds are drawn, and the identifiers are
    the same. -/
structure Alike (d e : Draws) : Prop where
  chanceAt : e.chanceAt = d.chanceAt
  secretsDrawn : e.secretsDrawn = d.secretsDrawn
  uuidsDrawn : e.uuidsDrawn = d.uuidsDrawn

theorem Alike.uuid {d e : Draws} (h : d.Alike e) :
    e.uuid.1 = d.uuid.1 ∧ d.uuid.2.Alike e.uuid.2 := by
  constructor
  · simp only [Draws.uuid, h.chanceAt, h.uuidsDrawn]
  · exact ⟨h.chanceAt, h.secretsDrawn, congrArg (· + 1) h.uuidsDrawn⟩

theorem Alike.secret {d e : Draws} (h : d.Alike e) : d.secret.2.Alike e.secret.2 :=
  ⟨h.chanceAt, congrArg (· + 1) h.secretsDrawn, h.uuidsDrawn⟩

/-- **Two tokens of one draw**: the one has its text from a secret that the first draws have not
    given yet and will have given when `upTo` are drawn, the other from the secret at the same place
    of the second draws. -/
def SameDraw (d e : Draws) (upTo : Nat) (a b : String) : Prop :=
  ∃ k, d.secretsDrawn < k ∧ k ≤ upTo ∧ a = (d.secretAt k).token ∧ b = (e.secretAt k).token

/-- What is drawn later on is still to be drawn before. -/
theorem SameDraw.earlier {d d' e e' : Draws} {upTo : Nat} {a b : String} (hd : d.GoesOn d')
    (he : e.GoesOn e') (h : d'.SameDraw e' upTo a b) : d.SameDraw e upTo a b := by
  obtain ⟨k, hk, hupTo, rfl, rfl⟩ := h
  refine ⟨k, Nat.lt_of_le_of_lt hd.secretsDrawn hk, hupTo, ?_, ?_⟩
  · rw [hd.secretAt]
  · rw [he.secretAt]

/-- What is drawn before is drawn by then. -/
theorem SameDraw.mono {d e : Draws} {n m : Nat} {a b : String} (h : d.SameDraw e n a b)
    (hnm : n ≤ m) : d.SameDraw e m a b := by
  obtain ⟨k, hk, hupTo, ha, hb⟩ := h
  exact ⟨k, hk, Nat.le_trans hupTo hnm, ha, hb⟩

end Draws

/-! ## 2. Programs -/

namespace Program

variable {α β γ δ σ : Type} [TokenStore σ]

theorem goesOn_answer (w : World σ) (r : Request) : w.draws.GoesOn (answer w r).2.draws := by
  cases r with
  | store call =>
    simp only [answer]
    split <;> exact .refl _
  | secret => exact w.draws.goesOn_secret
  | uuid => exact ⟨rfl, Nat.le_refl _⟩
  | log event => exact .refl _

theorem goesOn_run (p : Program α) (w : World σ) : w.draws.GoesOn (p.run w).2.draws := by
  induction p generalizing w with
  | finish outcome => exact .refl _
  | request r next ih =>
    have hfirst := goesOn_answer w r
    rcases hanswer : answer w r with ⟨cause | reply, w'⟩
    · simp only [run, hanswer]
      simpa only [hanswer] using hfirst
    · rw [hanswer] at hfirst
      simp only [run, hanswer]
      exact hfirst.trans (ih reply w')

/-- Two worlds that differ only in the secrets still to be drawn and in the hashes of the rows. -/
structure World.Renamed (R : String → String → Prop) (w v : World AnyStore) : Prop where
  stores : w.store.Renamed R v.store
  draws : w.draws.Alike v.draws
  log : v.log = w.log

/-- **Two programs that make the same requests but for hashes**, and end in values that are related.
    The texts of two secrets they are given are related by `T`, the hashes they send by `R`. -/
inductive Parallels (T R : String → String → Prop) (post : α → β → Prop) :
    Program α → Program β → Prop
  | finish {o : Outcome α} {o' : Outcome β} (h : o.Agrees post o') :
      Parallels T R post (.finish o) (.finish o')
  | log (event : Event) {next : Unit → Program α} {next' : Unit → Program β}
      (h : Parallels T R post (next ()) (next' ())) :
      Parallels T R post (.request (.log event) next) (.request (.log event) next')
  | uuid {next : Uuid → Program α} {next' : Uuid → Program β}
      (h : ∀ u, Parallels T R post (next u) (next' u)) :
      Parallels T R post (.request .uuid next) (.request .uuid next')
  | secret {next : Secret → Program α} {next' : Secret → Program β}
      (h : ∀ s s' : Secret, T s.token s'.token → Parallels T R post (next s) (next' s')) :
      Parallels T R post (.request .secret next) (.request .secret next')
  | call {c d : StoreCall} {answers : c.Answer → d.Answer → Prop}
      {next : Except Failure c.Answer → Program α} {next' : Except Failure d.Answer → Program β}
      (hcall : c.Renamed R d answers)
      (done : ∀ a b, answers a b → Parallels T R post (next (.ok a)) (next' (.ok b)))
      (failed : ∀ e, Parallels T R post (next (.error e)) (next' (.error e))) :
      Parallels T R post (.request (.store c) next) (.request (.store d) next')

namespace Parallels

variable {post : α → β → Prop} {p : Program α} {q : Program β}

theorem pure {a : α} {b : β} (h : post a b) :
    Parallels T R post (pure a : Program α) (pure b : Program β) :=
  .finish (.done h)

theorem fail (e : Failure) :
    Parallels T R post (fail e : Program α) (Program.fail e : Program β) :=
  .finish (.failed e)

theorem bind {f : α → Program γ} {g : β → Program δ} {post' : γ → δ → Prop}
    (h : Parallels T R post p q) (next : ∀ a b, post a b → Parallels T R post' (f a) (g b)) :
    Parallels T R post' (p >>= f) (q >>= g) := by
  induction h with
  | finish h =>
    cases h with
    | done hab => exact next _ _ hab
    | failed e => exact .finish (.failed e)
    | aborted cause => exact .finish (.aborted cause)
  | log event _ ih => exact .log event ih
  | uuid _ ih => exact .uuid ih
  | secret _ ih => exact .secret ih
  | call hcall _ _ ihdone ihfailed => exact .call hcall ihdone ihfailed

theorem map {f : α → γ} {g : β → δ} {post' : γ → δ → Prop} (h : Parallels T R post p q)
    (himp : ∀ a b, post a b → post' (f a) (g b)) :
    Parallels T R post' (p >>= fun a => Pure.pure (f a)) (q >>= fun b => Pure.pure (g b)) :=
  h.bind fun a b hab => .pure (himp a b hab)

/-- A call whose failure ends the programs. -/
theorem store {c d : StoreCall} {answers : c.Answer → d.Answer → Prop}
    (hcall : c.Renamed R d answers) :
    Parallels T R answers (Program.store c) (Program.store d) :=
  .call hcall (fun _ _ hab => .pure hab) fun e => .fail e

theorem now {f : Instant → Program α} {g : Instant → Program β} (clock : Clock)
    (h : ∀ t, Parallels T R post (f t) (g t)) :
    Parallels T R post (Program.now clock >>= f) (Program.now clock >>= g) := by
  unfold Program.now
  cases clock.now with
  | ok t => exact h t
  | error cause => exact .finish (.aborted cause)

/-- **Such programs end alike**, if the secrets that the first draws on its way and those at the
    same places of the second are related. -/
theorem run (one : Relator.BiUnique R) (h : Parallels T R post p q) {w v : World AnyStore}
    (discreet : w.store.server.IsDiscreet) (hworlds : w.Renamed R v)
    (drawn : ∀ a b, w.draws.SameDraw v.draws (p.run w).2.draws.secretsDrawn a b → T a b) :
    (p.run w).2.Renamed R (q.run v).2 ∧ (p.run w).1.Agrees post (q.run v).1 := by
  induction h generalizing w v with
  | finish h => exact ⟨hworlds, h⟩
  | log event _ ih =>
    refine @ih { w with log := w.log ++ [event] } { v with log := v.log ++ [event] } discreet ?_
      drawn
    exact ⟨hworlds.stores, hworlds.draws, congrArg (· ++ [event]) hworlds.log⟩
  | @uuid next next' _ ih =>
    obtain ⟨hsame, hdraws⟩ := hworlds.draws.uuid
    have hrun' : (Program.request .uuid next').run v =
        (next' w.draws.uuid.1).run { v with draws := v.draws.uuid.2 } := by
      rw [← hsame]
      rfl
    rw [hrun']
    exact @ih w.draws.uuid.1 { w with draws := w.draws.uuid.2 } { v with draws := v.draws.uuid.2 }
      discreet ⟨hworlds.stores, hdraws, hworlds.log⟩ drawn
  | @secret next next' _ ih =>
    let w' : World AnyStore := { w with draws := w.draws.secret.2 }
    let v' : World AnyStore := { v with draws := v.draws.secret.2 }
    have hlater := goesOn_run (next w.draws.secret.1) w'
    have hpair : T w.draws.secret.1.token v.draws.secret.1.token := by
      refine drawn _ _ ⟨w.draws.secretsDrawn + 1, Nat.lt_succ_self _, hlater.secretsDrawn, rfl, ?_⟩
      rw [Draws.secret, hworlds.draws.secretsDrawn]
    exact @ih _ _ hpair w' v' discreet
      ⟨hworlds.stores, hworlds.draws.secret, hworlds.log⟩ fun a b hab => drawn a b (hab.earlier w.draws.goesOn_secret v.draws.goesOn_secret)
  | @call c d answers next next' hcall _ _ ihdone ihfailed =>
    have square := hworlds.stores.perform one discreet hcall
    have hserver := w.store.server_perform c
    have hperform (s : AnyStore) (call : StoreCall) : TokenStore.perform s call = s.perform call :=
      rfl
    simp only [Program.run, answer, hperform] at drawn ⊢
    generalize w.store.perform c = first at square hserver drawn ⊢
    generalize v.store.perform d = second at square ⊢
    obtain ⟨outcome, events, store⟩ := first
    obtain ⟨outcome', events', store'⟩ := second
    obtain ⟨hend, hevents, hstores⟩ := square
    have hworlds' : World.Renamed R { w with store, log := w.log ++ events }
        { v with store := store', log := v.log ++ events' } :=
      ⟨hstores, hworlds.draws, congrArg₂ (· ++ ·) hworlds.log hevents⟩
    have discreet' : store.server.IsDiscreet := by
      rw [hserver]
      exact discreet
    cases hend with
    | done hab => exact ihdone _ _ hab discreet' hworlds' drawn
    | failed e => exact ihfailed e discreet' hworlds' drawn
    | aborted cause => exact ⟨hworlds', .aborted cause⟩

end Parallels

end Program

/-! ## 3. Services -/

namespace Service

open Program

variable {policy : Policy} {token token' : String}

/-- Two issued tokens that are the same but for their texts. -/
def IssuedToken.Renamed (T : String → String → Prop) (a b : IssuedToken) : Prop :=
  ∃ token, T a.token token ∧ b = { a with token }

/-- What is told and logged of an answer is made without its hash. -/
theorem concludeConsume_renamed {a b : ConsumeOutcome} (h : a.Renamed R b) :
    Parallels T R Eq (concludeConsume a) (concludeConsume b) := by
  cases h with
  | unknown => exact .log _ (.fail _)
  | rejected reason => exact .log _ (.fail _)
  | accepted h kind =>
    obtain ⟨hash, -, rfl⟩ := h
    exact .log _ (.pure rfl)
  | reused h revokedRows =>
    obtain ⟨hash, -, rfl⟩ := h
    exact .log _ (.fail _)

theorem consume_parallels (h : R (hashOf token) (hashOf token')) (clock : Clock) :
    Parallels T R Eq (consume policy token clock) (consume policy token' clock) :=
  .log _ ((Parallels.store (.consume h clock policy)).bind fun _ _ hab =>
    concludeConsume_renamed hab)

/-- A secret is made nothing of but the text that is handed out and the hash that is kept. -/
theorem issueWithin_parallels (hashed : ∀ a b, T a b → R (hashOf a) (hashOf b)) {subject : String}
    {family : Uuid} {now : Instant} {left number : Nat} :
    Parallels T R (IssuedToken.Renamed T) (issueWithin policy subject family now left number)
      (issueWithin policy subject family now left number) := by
  induction left generalizing number with
  | zero => exact .fail _
  | succ left ih =>
    refine .secret fun s s' hpair => .uuid fun id => ?_
    cases policy.expiresAt? now with
    | none => exact .finish (.aborted _)
    | some expiresAt =>
      have hcall := StoreCall.Renamed.insert (newToken subject family now expiresAt s id)
        (hashed _ _ hpair)
      refine .call hcall (fun a b hrow => ?_) fun e => ?_
      · obtain ⟨hash, -, rfl⟩ := hrow
        exact .log _ (.pure ⟨s'.token, hpair, rfl⟩)
      · cases e with
        | hashCollision => exact .log _ ih
        | database | invalidInput | notFound | refused => exact .fail _

theorem issue_parallels (hashed : ∀ a b, T a b → R (hashOf a) (hashOf b)) {subject : String}
    {family : Option Uuid} {now : Instant} :
    Parallels T R (IssuedToken.Renamed T) (issue policy subject family now)
      (issue policy subject family now) := by
  unfold issue
  refine .log _ ?_
  split
  · exact .fail _
  · cases family with
    | some family => exact issueWithin_parallels hashed
    | none => exact .uuid fun fresh => issueWithin_parallels hashed

/-- Two rotated tokens that are the same but for the texts of the successors. -/
def RotatedToken.Renamed (T : String → String → Prop) (a b : RotatedToken) : Prop :=
  ∃ issued, a.issued.Renamed T issued ∧ b = { a with issued }

theorem rotate_parallels (hashed : ∀ a b, T a b → R (hashOf a) (hashOf b))
    (h : R (hashOf token) (hashOf token')) (clock : Clock) :
    Parallels T R (RotatedToken.Renamed T) (rotate policy token clock)
      (rotate policy token' clock) := by
  refine (consume_parallels h clock).bind fun consumed _ same => ?_
  subst same
  refine .now clock fun now => (issue_parallels hashed).bind fun issued _ hissued => ?_
  obtain ⟨text, hpair, rfl⟩ := hissued
  refine (Parallels.store (.link consumed.id issued.id)).bind fun linked _ same => ?_
  subst same
  have hrotated : RotatedToken.Renamed T
      { issued, subject := consumed.subject, previousId := consumed.id }
      { issued := { issued with token := text }, subject := consumed.subject
        previousId := consumed.id } :=
    ⟨_, ⟨text, hpair, rfl⟩, rfl⟩
  cases linked with
  | true => exact .pure hrotated
  | false => exact .log _ (.pure hrotated)

theorem revokeFamily_parallels (family : Uuid) (now : Instant) :
    Parallels T R Eq (revokeFamily family now) (revokeFamily family now) := by
  refine .log _ ((Parallels.store (.revokeFamily family now)).bind fun count _ same => ?_)
  subst same
  exact .log _ (.pure rfl)

theorem revokeSubject_parallels (subject : String) (now : Instant) :
    Parallels T R Eq (revokeSubject subject now) (revokeSubject subject now) := by
  refine .log _ ((Parallels.store (.revokeSubject subject now)).bind fun count _ same => ?_)
  subst same
  exact .log _ (.pure rfl)

theorem find_parallels (h : R (hashOf token) (hashOf token')) :
    Parallels T R (Option.Rel (Row.Renamed R)) (find token) (find token') :=
  .store (.getByHash h)

theorem authenticate_parallels (h : R (hashOf token) (hashOf token')) (now : Instant) :
    Parallels T R (Row.Renamed R) (authenticate token now) (authenticate token' now) := by
  refine (find_parallels h).bind fun a b hab => ?_
  cases hab with
  | none => exact .fail _
  | @some r s hrow =>
    simp only [hrow.status now]
    split
    · exact .fail _
    · exact .fail _
    · rw [hrow.family, hrow.id]
      exact .log _ (.pure hrow)

theorem logout_parallels (h : R (hashOf token) (hashOf token')) (now : Instant) :
    Parallels T R Eq (logout token now) (logout token' now) := by
  refine (authenticate_parallels h now).bind fun r s hrow => ?_
  rw [hrow.family]
  exact revokeFamily_parallels r.family now

theorem logoutEverywhere_parallels (h : R (hashOf token) (hashOf token')) (now : Instant) :
    Parallels T R Eq (logoutEverywhere token now) (logoutEverywhere token' now) := by
  refine (authenticate_parallels h now).bind fun r s hrow => ?_
  rw [hrow.subject]
  exact revokeSubject_parallels r.subject now

end Service

/-! ## 4. Work -/

namespace Session

open Program

/-- **Two pieces of work that differ in nothing but the token they present.** -/
inductive Work.Renamed (R : String → String → Prop) : Work → Work → Prop
  | issue (subject : String) (family : Option Uuid) :
      Renamed R (.issue subject family) (.issue subject family)
  | consume {a b : String} (h : R (hashOf a) (hashOf b)) : Renamed R (.consume a) (.consume b)
  | rotate {a b : String} (h : R (hashOf a) (hashOf b)) : Renamed R (.rotate a) (.rotate b)
  | revokeFamily (family : Uuid) : Renamed R (.revokeFamily family) (.revokeFamily family)
  | revokeSubject (subject : String) : Renamed R (.revokeSubject subject) (.revokeSubject subject)
  | link (id successor : Uuid) : Renamed R (.link id successor) (.link id successor)
  | find {a b : String} (h : R (hashOf a) (hashOf b)) : Renamed R (.find a) (.find b)
  | lineage (family : Uuid) (statusAt : Option Instant) :
      Renamed R (.lineage family statusAt) (.lineage family statusAt)
  | logout {a b : String} (h : R (hashOf a) (hashOf b)) : Renamed R (.logout a) (.logout b)
  | logoutEverywhere {a b : String} (h : R (hashOf a) (hashOf b)) :
      Renamed R (.logoutEverywhere a) (.logoutEverywhere b)
  | policy : Renamed R .policy .policy
  | settings : Renamed R .settings .settings

/-- **Two values that differ in nothing but tokens and hashes**: tokens correspond by `T`, hashes by
    `R`. -/
inductive Value.Renamed (T R : String → String → Prop) : Value → Value → Prop
  | issued {a b : Service.IssuedToken} (h : a.Renamed T b) : Renamed T R (.issued a) (.issued b)
  | consumed (token : Service.ConsumedToken) : Renamed T R (.consumed token) (.consumed token)
  | rotated {a b : Service.RotatedToken} (h : a.Renamed T b) : Renamed T R (.rotated a) (.rotated b)
  | count (n : Nat) : Renamed T R (.count n) (.count n)
  | flag (b : Bool) : Renamed T R (.flag b) (.flag b)
  | row {r s : Option Row} (h : Option.Rel (Row.Renamed R) r s) : Renamed T R (.row r) (.row s)
  | lineage (members : List (Uuid × Option Status)) :
      Renamed T R (.lineage members) (.lineage members)
  | policy (p : Policy) : Renamed T R (.policy p) (.policy p)
  | settings (s : Settings) : Renamed T R (.settings s) (.settings s)
  | nothing : Renamed T R .nothing .nothing

theorem members_renamed {rows rows' : Table} (h : Table.Renamed R rows rows')
    (statusAt : Option Instant) : members statusAt rows' = members statusAt rows := by
  unfold members
  induction h with
  | nil => rfl
  | @cons r s _ _ hrow _ ih =>
    have hstatus : s.status = r.status := funext hrow.status
    rw [List.map_cons, List.map_cons, ih, hrow.id, hstatus]

/-- **Every piece of work runs alike under other hashes.** -/
theorem Work.Renamed.parallels (hashed : ∀ a b, T a b → R (hashOf a) (hashOf b)) {w v : Work}
    (h : w.Renamed R v) (settings : Settings) (clock : Clock) :
    Parallels T R (Value.Renamed T R) (w.program settings clock) (v.program settings clock) := by
  cases h with
  | issue subject family =>
    exact .now clock fun now => (Service.issue_parallels hashed).map fun _ _ hab => .issued hab
  | consume h =>
    refine (Service.consume_parallels h clock).map fun a _ same => ?_
    subst same
    exact .consumed a
  | rotate h => exact (Service.rotate_parallels hashed h clock).map fun _ _ hab => .rotated hab
  | revokeFamily family =>
    refine .now clock fun now => (Service.revokeFamily_parallels family now).map fun n _ same => ?_
    subst same
    exact .count n
  | revokeSubject subject =>
    refine .now clock fun now =>
      (Service.revokeSubject_parallels subject now).map fun n _ same => ?_
    subst same
    exact .count n
  | link id successor =>
    refine (Parallels.store (.link id successor)).map fun linked _ same => ?_
    subst same
    exact .flag linked
  | find h => exact (Service.find_parallels h).map fun _ _ hab => .row hab
  | lineage family statusAt =>
    refine (Parallels.store (.listFamily family)).map fun rows rows' hrows => ?_
    rw [members_renamed hrows]
    exact .lineage _
  | logout h =>
    refine .now clock fun now => (Service.logout_parallels h now).map fun n _ same => ?_
    subst same
    exact .count n
  | logoutEverywhere h =>
    refine .now clock fun now => (Service.logoutEverywhere_parallels h now).map fun n _ same => ?_
    subst same
    exact .count n
  | policy => exact .pure (.policy _)
  | settings => exact .pure (.settings _)

/-! ## 5. Sessions -/

/-- Two commands that differ in nothing but the token they present. -/
inductive Command.Renamed (R : String → String → Prop) : Command → Command → Prop
  | work {w v : Work} (h : w.Renamed R v) : Renamed R (.work w) (.work v)
  | isEmpty : Renamed R .isEmpty .isEmpty
  | failInserts (count : Nat) : Renamed R (.failInserts count) (.failInserts count)

/-- **Two steps that differ in nothing but the token they present.** -/
structure Step.Renamed (R : String → String → Prop) (a b : Step) : Prop where
  command : a.command.Renamed R b.command
  clock : b.clock = a.clock
  faults : b.faults = a.faults

/-- **Two reports that differ in nothing but tokens and hashes.** -/
structure Report.Renamed (T R : String → String → Prop) (a b : Report) : Prop where
  outcome : a.outcome.Agrees (Value.Renamed T R) b.outcome
  log : b.log = a.log
  rows : b.rows = a.rows
  changed : Table.Renamed R a.changed b.changed

end Session

/-- **Two sessions that differ in nothing but hashes and the secrets still to be drawn.** -/
structure Session.Renamed (R : String → String → Prop) (s t : Session) : Prop where
  store : s.store.Renamed R t.store
  draws : s.draws.Alike t.draws
  settings : t.settings = s.settings

namespace Session

/-- The changes of a table are found and ordered without a look at hashes. -/
theorem changes_renamed (one : Relator.BiUnique R) {before before' after after' : Table}
    (hbefore : Table.Renamed R before before') (hafter : Table.Renamed R after after') :
    Table.Renamed R (changes before after) (changes before' after') := by
  have hfilter : Table.Renamed R ((shown after).filter fun r => !(shown before).contains r)
      ((shown after').filter fun r => !(shown before').contains r) :=
    hafter.shown.filter fun r s hrow => congrArg (!·) (hbefore.shown.contains_eq one hrow)
  exact hfilter.sorted fun _ _ _ _ => rfl

theorem goesOn_take (s : Session) (step : Step) : s.draws.GoesOn (s.take step).2.draws := by
  unfold take carryOut
  cases step.command with
  | work work => exact Program.goesOn_run _ (s.world step)
  | isEmpty => exact .refl _
  | failInserts count => exact .refl _

theorem goesOn_after (s : Session) (steps : List Step) : s.draws.GoesOn (s.after steps).draws := by
  induction steps generalizing s with
  | nil => exact .refl _
  | cons step rest ih => exact (s.goesOn_take step).trans (ih _)

variable {s t : Session}

/-- **One step.** -/
theorem Renamed.take (one : Relator.BiUnique R) (hashed : ∀ a b, T a b → R (hashOf a) (hashOf b))
    (discreet : s.store.server.IsDiscreet) (h : s.Renamed R t) {step step' : Step}
    (hstep : step.Renamed R step')
    (drawn : ∀ a b, s.draws.SameDraw t.draws (s.take step).2.draws.secretsDrawn a b → T a b) :
    (s.take step).1.Renamed T R (t.take step').1 ∧ (s.take step).2.Renamed R (t.take step').2 := by
  obtain ⟨hcommand, hclock, hfaults⟩ := hstep
  have hstores := h.store.withFaults step.faults
  unfold Session.take carryOut at drawn ⊢
  rw [hclock, hfaults, h.settings]
  generalize step.command = c at hcommand drawn ⊢
  generalize step'.command = c' at hcommand ⊢
  cases hcommand with
  | work hwork =>
    have hworlds : Program.World.Renamed R
        { store := s.store.withFaults step.faults, draws := s.draws }
        { store := t.store.withFaults step.faults, draws := t.draws } := ⟨hstores, h.draws, rfl⟩
    have discreet' : (s.store.withFaults step.faults).server.IsDiscreet := by
      rw [AnyStore.server_withFaults]
      exact discreet
    obtain ⟨hafter, hend⟩ :=
      (hwork.parallels hashed s.settings step.clock).run one discreet' hworlds drawn
    exact ⟨⟨hend, hafter.log, hafter.stores.rows.length_eq.symm,
      changes_renamed one h.store.rows hafter.stores.rows⟩, hafter.stores, hafter.draws, rfl⟩
  | isEmpty =>
    have hend : Outcome.Agrees (Value.Renamed T R)
        ((s.store.withFaults step.faults).isEmpty.map .flag)
        ((t.store.withFaults step.faults).isEmpty.map .flag) := by
      rw [hstores.isEmpty_eq]
      cases (s.store.withFaults step.faults).isEmpty with
      | done b => exact .done (.flag b)
      | failed e => exact .failed e
      | aborted cause => exact .aborted cause
    exact ⟨⟨hend, rfl, hstores.rows.length_eq.symm,
      changes_renamed one h.store.rows hstores.rows⟩, hstores, h.draws, rfl⟩
  | failInserts count =>
    have hafter := hstores.failInserts count
    exact ⟨⟨.done .nothing, rfl, hafter.rows.length_eq.symm,
      changes_renamed one h.store.rows hafter.rows⟩, hafter, h.draws, rfl⟩

/-- **A run**: both are broken off at the same step, if at all. -/
theorem Renamed.run (one : Relator.BiUnique R) (hashed : ∀ a b, T a b → R (hashOf a) (hashOf b))
    {steps steps' : List Step} (hsteps : List.Forall₂ (Step.Renamed R) steps steps')
    (discreet : s.store.server.IsDiscreet) (h : s.Renamed R t)
    (drawn : ∀ a b, s.draws.SameDraw t.draws (s.after steps).draws.secretsDrawn a b → T a b) :
    List.Forall₂ (Report.Renamed T R) (s.run steps) (t.run steps') ∧
      (s.after steps).Renamed R (t.after steps') := by
  induction hsteps generalizing s t with
  | nil => exact ⟨.nil, h⟩
  | @cons step step' rest rest' hstep _ ih =>
    have hlater := (s.take step).2.goesOn_after rest
    obtain ⟨hreport, hnext⟩ := h.take one hashed discreet hstep fun a b hab =>
      drawn a b (hab.mono hlater.secretsDrawn)
    have discreet' : (s.take step).2.store.server.IsDiscreet := by
      rw [server_take]
      exact discreet
    obtain ⟨hreports, hafter⟩ := ih discreet' hnext fun a b hab =>
      drawn a b (hab.earlier (s.goesOn_take step) (t.goesOn_take step'))
    refine ⟨?_, hafter⟩
    have hbroken := hreport.outcome.isAborted_eq
    simp only [Session.run, hbroken]
    split
    · exact .cons hreport .nil
    · exact .cons hreport hreports

end Session

end TokenRotation

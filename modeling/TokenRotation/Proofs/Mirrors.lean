import TokenRotation.Proofs.Deeds
import TokenRotation.Proofs.Twins
import TokenRotation.Http.Serve

/-!
# Programs on twin stores

Two programs mirror each other when, run in worlds that differ only in which of two twin stores they
have, they end alike and leave such worlds again. Answers that differ in precision are handed on, so
the programs behind them differ too; what is logged, drawn and asked of the store does not. Every
operation mirrors itself, as long as each row it would add has an identifier that no row has.

* `Program.Mirrors` -- two programs that do the same on twin stores;
* `Program.mirrors_bind`, `Program.mirrors_call` -- how such statements are put together;
* `Service.rotate_mirrors`, `Service.logout_mirrors`, `Http.serve_mirrors` -- the operations.
-/

namespace TokenRotation

open Store

/-! ## 1. Programs that mirror each other -/

namespace Program

/-- Two worlds that differ only in which of two twin stores they have. -/
structure World.Twins (w v : World AnyStore) : Prop where
  sound : w.store.rows.Sound
  stores : w.store.Twins v.store
  draws : v.draws = w.draws
  log : v.log = w.log

variable {α β γ δ : Type}

/-- **The programs do the same on twin stores** that begin with those rows, if the first store can
    be reached and the first program adds rows only under identifiers that no row has. What is true
    of the two values may depend on the table that is left. -/
def Mirrors (rows : Table) (post : Table → α → β → Prop) (p : Program α) (q : Program β) : Prop :=
  ∀ (actor : Nat) (w v : World AnyStore), w.Twins v → w.store.isReachable → w.store.rows = rows →
    (∀ d ∈ p.deeds actor w, d.call.IsNew d.before) →
      (p.run w).2.Twins (q.run v).2 ∧
        (p.run w).1.Agrees (post (p.run w).2.store.rows) (q.run v).1

variable {rows : Table} {post : Table → α → β → Prop} {p : Program α} {q : Program β}

theorem mirrors_finish {o : Outcome α} {o' : Outcome β} (h : o.Agrees (post rows) o') :
    Mirrors rows post (finish o) (finish o') := by
  rintro actor w v twins - rfl -
  exact ⟨twins, h⟩

/-- The table that the worlds begin with is one that a database could hold. -/
theorem mirrors_of_sound (h : rows.Sound → Mirrors rows post p q) : Mirrors rows post p q :=
  fun actor w v twins reachable hrows new =>
    h (hrows ▸ twins.sound) actor w v twins reachable hrows new

theorem mirrors_bind {f : α → Program γ} {g : β → Program δ} {post' : Table → γ → δ → Prop}
    (h : Mirrors rows post p q)
    (next : ∀ after a b, post after a b → Mirrors after post' (f a) (g b)) :
    Mirrors rows post' (p >>= f) (q >>= g) := by
  intro actor w v twins reachable hrows new
  rw [deeds_bind] at new
  obtain ⟨twins', hend⟩ :=
    h actor w v twins reachable hrows fun d hd => new d (List.mem_append_left _ hd)
  have lasting := isReachable_run (p := p) reachable
  rw [run_bind, run_bind]
  rcases hp : p.run w with ⟨o, w'⟩
  rcases hq : q.run v with ⟨o', v'⟩
  rw [hp] at new lasting
  rw [hp, hq] at twins' hend
  cases hend with
  | done hab =>
    exact next _ _ _ hab actor w' v' twins' (lasting (.inr rfl)) rfl
      fun d hd => new d (List.mem_append_right _ hd)
  | failed e => exact ⟨twins', .failed e⟩
  | aborted cause => exact ⟨twins', .aborted cause⟩

/-- Programs that only make values of the values before them. -/
theorem mirrors_map {f : α → γ} {g : β → δ} {post' : Table → γ → δ → Prop}
    (h : Mirrors rows post p q) (himp : ∀ after a b, post after a b → post' after (f a) (g b)) :
    Mirrors rows post' (p >>= fun a => pure (f a)) (q >>= fun b => pure (g b)) :=
  mirrors_bind h fun after a b hab => mirrors_finish (.done (himp after a b hab))

theorem mirrors_secret {next : Secret → Program α} {next' : Secret → Program β}
    (h : ∀ s, Mirrors rows post (next s) (next' s)) :
    Mirrors rows post (request .secret next) (request .secret next') := by
  intro actor w v twins reachable hrows new
  have htwins : World.Twins { w with draws := w.draws.secret.2 }
      { v with draws := v.draws.secret.2 } :=
    ⟨twins.sound, twins.stores, congrArg (·.secret.2) twins.draws, twins.log⟩
  simp only [run, answer, twins.draws] at htwins ⊢
  exact h _ actor _ _ htwins reachable hrows new

theorem mirrors_uuid {next : Uuid → Program α} {next' : Uuid → Program β}
    (h : ∀ u, Mirrors rows post (next u) (next' u)) :
    Mirrors rows post (request .uuid next) (request .uuid next') := by
  intro actor w v twins reachable hrows new
  have htwins : World.Twins { w with draws := w.draws.uuid.2 }
      { v with draws := v.draws.uuid.2 } :=
    ⟨twins.sound, twins.stores, congrArg (·.uuid.2) twins.draws, twins.log⟩
  simp only [run, answer, twins.draws] at htwins ⊢
  exact h _ actor _ _ htwins reachable hrows new

theorem mirrors_log {event : Event} {next : Unit → Program α} {next' : Unit → Program β}
    (h : Mirrors rows post (next ()) (next' ())) :
    Mirrors rows post (request (.log event) next) (request (.log event) next') := by
  intro actor w v twins reachable hrows new
  exact h actor { w with log := w.log ++ [event] } { v with log := v.log ++ [event] }
    ⟨twins.sound, twins.stores, twins.draws, congrArg (· ++ [event]) twins.log⟩
    reachable hrows new

/-- **Programs that make the same call** go on with two answers that agree, or with one failure. -/
theorem mirrors_call {call : StoreCall} {next : Except Failure call.Answer → Program α}
    {next' : Except Failure call.Answer → Program β} (fits : call.Fits rows)
    (done : ∀ a b after, rows.Sound → Carried .memory rows call a after → call.Agrees rows a b →
      Mirrors after post (next (.ok a)) (next' (.ok b)))
    (failed : ∀ e, Mirrors rows post (next (.error e)) (next' (.error e))) :
    Mirrors rows post (request (.store call) next) (request (.store call) next') := by
  rintro actor w v twins reachable rfl new
  have hperform (s : AnyStore) : TokenStore.perform s call = s.perform call := rfl
  simp only [deeds, run, observed, answer, hperform] at new ⊢
  have hnew : call.IsNew w.store.rows :=
    new _ (List.mem_append_left _ (List.mem_singleton.mpr rfl))
  have square := twins.stores.perform twins.sound reachable fits hnew
  have lasting := @AnyStore.isReachable_perform _ call reachable
  have lawful := w.store.perform_settled call
  rw [twins.stores.kind] at lawful
  have sound := Table.Sound.settled lawful twins.sound fits hnew
  generalize w.store.perform call = first at square lawful sound lasting new ⊢
  generalize v.store.perform call = second at square ⊢
  obtain ⟨outcome, events, store⟩ := first
  obtain ⟨outcome', events', store'⟩ := second
  obtain ⟨hend, hevents, hstores⟩ := square
  have twins' : World.Twins { w with store, log := w.log ++ events }
      { v with store := store', log := v.log ++ events' } :=
    ⟨sound, hstores, twins.draws, congrArg₂ (· ++ ·) twins.log hevents.symm⟩
  cases hend with
  | @done a b hab =>
    exact done a b store.rows twins.sound lawful.carried_of_done hab actor _ _ twins'
      (lasting (.inr rfl)) rfl fun d hd => new d (List.mem_append_right _ hd)
  | failed e =>
    have same : store.rows = w.store.rows := lawful.eq_of_not_done fun _ => by simp
    exact failed e actor _ _ twins' (lasting (.inr rfl)) same
      fun d hd => new d (List.mem_append_right _ hd)
  | aborted cause => exact ⟨twins', .aborted cause⟩

/-- The same where a failure of the store ends the programs. -/
theorem mirrors_store_bind {call : StoreCall} {f : call.Answer → Program α}
    {g : call.Answer → Program β} (fits : call.Fits rows)
    (done : ∀ a b after, rows.Sound → Carried .memory rows call a after → call.Agrees rows a b →
      Mirrors after post (f a) (g b)) :
    Mirrors rows post (store call >>= f) (store call >>= g) :=
  mirrors_call fits done fun e => mirrors_finish (.failed e)

theorem mirrors_now_bind {clock : Clock} {now : Instant} {f : Instant → Program α}
    {g : Instant → Program β} (shown : clock.now = .ok now)
    (h : Mirrors rows post (f now) (g now)) :
    Mirrors rows post (Program.now clock >>= f) (Program.now clock >>= g) := by
  have heq : Program.now clock = pure now := by simp only [Program.now, shown]
  rw [heq]
  exact h

/-- Two values that are the same. -/
abbrev Same (_ : Table) (a b : α) : Prop := b = a

theorem mirrors_attempt {q : Program α} (h : Mirrors rows Same p q) :
    Mirrors rows Same p.attempt q.attempt := by
  intro actor w v twins reachable hrows new
  rw [deeds_attempt] at new
  obtain ⟨twins', hend⟩ := h actor w v twins reachable hrows new
  rw [run_attempt, run_attempt]
  rcases hp : p.run w with ⟨o, w'⟩
  rcases hq : q.run v with ⟨o', v'⟩
  rw [hp, hq] at twins' hend
  cases hend with
  | done hab => exact ⟨twins', .done (congrArg Except.ok hab)⟩
  | failed e => exact ⟨twins', .done rfl⟩
  | aborted cause => exact ⟨twins', .aborted cause⟩

end Program

/-! ## 2. Services -/

/-- The subject of a row that was accepted is one of the table. -/
theorem Carried.subject_of_accepted {k : StoreKind} {rows after : Table}
    {hash : String} {clock : Clock} {policy : Policy} {row : Row} {kind : ConsumeKind}
    (h : Carried k rows (.consume hash clock policy) (.accepted row kind) after) :
    ∃ r ∈ rows, row.subject = r.subject := by
  cases h with
  | first found => exact ⟨_, Table.mem_of_byHash? found, (Row.evolves_stamp _ _ _).subject⟩
  | grace found => exact ⟨_, Table.mem_of_byHash? found, rfl⟩

namespace Service

open Program

variable {rows : Table} {policy : Policy} {token : String} {clock : Clock}

/-- Nothing that is told or logged of an answer is rounded. -/
theorem concludeConsume_stored (outcome : ConsumeOutcome) :
    concludeConsume outcome.stored = concludeConsume outcome := by
  cases outcome <;> rfl

/-- **Consuming a token.** -/
theorem consume_mirrors (shown : clock.now.isOk) (timely : rows.Timely (hashOf token) clock) :
    Mirrors rows (fun _ a b => b = a ∧ Keepable a.subject) (consume policy token clock)
      (consume policy token clock) := by
  have fits : (StoreCall.consume (hashOf token) clock policy).Fits rows :=
    ⟨nul_not_mem_hashOf token, shown, timely⟩
  refine mirrors_log (mirrors_store_bind fits fun a b after sound carried hab => ?_)
  have hsame : concludeConsume b = concludeConsume a := by
    rw [← concludeConsume_stored b, show b.stored = a.stored from hab, concludeConsume_stored a]
  rw [hsame]
  cases a with
  | unknown | rejected | reused => exact mirrors_log (mirrors_finish (.failed _))
  | accepted row kind =>
    obtain ⟨r, hr, hsubject⟩ := carried.subject_of_accepted
    exact mirrors_log (mirrors_finish (.done ⟨rfl, hsubject ▸ sound.subjects r hr⟩))

/-- The token with its expiry as a database keeps it. -/
def IssuedToken.stored (token : IssuedToken) : IssuedToken :=
  { token with expiresAt := token.expiresAt.stored }

theorem IssuedToken.stored_stored (token : IssuedToken) : token.stored.stored = token.stored := by
  simp only [stored, Instant.stored_stored]

/-- The second token is the first, rounded, and its row is in the table. -/
abbrev Issued (after : Table) (a b : IssuedToken) : Prop := b = a.stored ∧ after.hasId a.id

theorem issueWithin_mirrors {subject : String} {family : Uuid} {now : Instant} {left number : Nat}
    (kept : Keepable subject) :
    Mirrors rows Issued (issueWithin policy subject family now left number)
      (issueWithin policy subject family now left number) := by
  induction left generalizing number with
  | zero => exact mirrors_finish (.failed _)
  | succ left ih =>
    refine mirrors_secret fun secret => mirrors_uuid fun id => ?_
    cases policy.expiresAt? now with
    | none => exact mirrors_finish (.aborted _)
    | some expiresAt =>
      refine mirrors_call ⟨kept, nul_not_mem_hashOf _, length_hashOf _⟩
        (fun a b after _ carried hab => ?_) fun e => ?_
      · obtain rfl : b = a.stored := hab
        cases carried with
        | insert fresh => exact mirrors_log (mirrors_finish (.done ⟨rfl, by simp [Table.hasId]⟩))
      · cases e with
        | hashCollision => exact mirrors_log ih
        | database | invalidInput | notFound | refused => exact mirrors_finish (.failed _)

/-- **Issuing a token.** -/
theorem issue_mirrors {subject : String} {family : Option Uuid} {now : Instant}
    (kept : Keepable subject) :
    Mirrors rows Issued (issue policy subject family now) (issue policy subject family now) := by
  refine mirrors_log ?_
  split
  · exact mirrors_finish (.failed _)
  · cases family with
    | some family => exact issueWithin_mirrors kept
    | none => exact mirrors_uuid fun fresh => issueWithin_mirrors kept

/-- The token with its expiry as a database keeps it. -/
def RotatedToken.stored (token : RotatedToken) : RotatedToken :=
  { token with issued := token.issued.stored }

theorem RotatedToken.stored_stored (token : RotatedToken) : token.stored.stored = token.stored := by
  simp only [stored, IssuedToken.stored_stored]

/-- **Rotating a token.** -/
theorem rotate_mirrors (shown : clock.now.isOk) (timely : rows.Timely (hashOf token) clock) :
    Mirrors rows (fun _ a b => b = a.stored) (rotate policy token clock)
      (rotate policy token clock) := by
  refine mirrors_bind (consume_mirrors shown timely) fun kept consumed b h => ?_
  obtain ⟨rfl, hsubject⟩ := h
  obtain ⟨now, hnow⟩ := Clock.exists_now shown
  refine mirrors_now_bind hnow (mirrors_bind (issue_mirrors hsubject) fun after issued b h => ?_)
  obtain ⟨rfl, known⟩ := h
  refine mirrors_store_bind known fun a linked after' _ _ hab => ?_
  obtain rfl : linked = a := hab
  cases linked with
  | true => exact mirrors_finish (.done rfl)
  | false => exact mirrors_log (mirrors_finish (.done rfl))

theorem revokeFamily_mirrors (family : Uuid) (now : Instant) :
    Mirrors rows Same (revokeFamily family now) (revokeFamily family now) := by
  have fits : (StoreCall.revokeFamily family now).Fits rows := trivial
  refine mirrors_log (mirrors_store_bind fits fun count b after _ _ hab => ?_)
  obtain rfl : b = count := hab
  exact mirrors_log (mirrors_finish (.done rfl))

theorem revokeSubject_mirrors {subject : String} (kept : Keepable subject) (now : Instant) :
    Mirrors rows Same (revokeSubject subject now) (revokeSubject subject now) := by
  have fits : (StoreCall.revokeSubject subject now).Fits rows := kept
  refine mirrors_log (mirrors_store_bind fits fun count b after _ _ hab => ?_)
  obtain rfl : b = count := hab
  exact mirrors_log (mirrors_finish (.done rfl))

/-- **Looking a token up.** -/
theorem find_mirrors (token : String) :
    Mirrors rows (fun _ a b => a = rows.byHash? (hashOf token) ∧ b = a.map Row.stored)
      (find token) (find token) := by
  have fits : (StoreCall.getByHash (hashOf token)).Fits rows := nul_not_mem_hashOf token
  refine mirrors_call fits (fun a b after _ carried hab => ?_) fun e => mirrors_finish (.failed e)
  cases carried with
  | getByHash => exact mirrors_finish (.done ⟨rfl, hab⟩)

theorem authenticate_mirrors {now : Instant}
    (alike : ∀ row ∈ rows.byHash? (hashOf token), row.Alike now) :
    Mirrors rows (fun _ a b => a ∈ rows ∧ b = a.stored) (authenticate token now)
      (authenticate token now) := by
  refine mirrors_bind (find_mirrors token) fun after a b h => ?_
  obtain ⟨ha, rfl⟩ := h
  cases a with
  | none => exact mirrors_finish (.failed _)
  | some row =>
    have hrow : row ∈ rows := Table.mem_of_byHash? ha.symm
    simp only [Option.map_some, Row.status_stored (alike row ha.symm)]
    split
    · exact mirrors_finish (.failed _)
    · exact mirrors_finish (.failed _)
    · exact mirrors_log (mirrors_finish (.done ⟨hrow, rfl⟩))

theorem logout_mirrors {now : Instant}
    (alike : ∀ row ∈ rows.byHash? (hashOf token), row.Alike now) :
    Mirrors rows Same (logout token now) (logout token now) := by
  refine mirrors_bind (authenticate_mirrors alike) fun after row b h => ?_
  obtain ⟨-, rfl⟩ := h
  exact revokeFamily_mirrors row.family now

theorem logoutEverywhere_mirrors {now : Instant}
    (alike : ∀ row ∈ rows.byHash? (hashOf token), row.Alike now) :
    Mirrors rows Same (logoutEverywhere token now) (logoutEverywhere token now) := by
  refine mirrors_of_sound fun sound =>
    mirrors_bind (authenticate_mirrors alike) fun after row b h => ?_
  obtain ⟨hrow, rfl⟩ := h
  exact revokeSubject_mirrors (sound.subjects row hrow) now

end Service

/-! ## 3. Requests -/

namespace Http

open Program

variable {rows : Table} {clock : Clock}

theorem Endpoint.handle_mirrors (e : Endpoint) {policy : Policy} {token : String}
    (shown : clock.now.isOk) (timely : rows.Timely (hashOf token) clock) :
    Mirrors rows Same (e.handle policy token clock) (e.handle policy token clock) := by
  obtain ⟨now, hnow⟩ := Clock.exists_now shown
  have alike : ∀ row ∈ rows.byHash? (hashOf token), row.Alike now :=
    fun row hrow => (timely row hrow now (by rw [hnow]; rfl)).alike
  cases e with
  | refresh =>
    refine mirrors_map (Service.rotate_mirrors shown timely) fun after a b hab => ?_
    obtain rfl : b = a.stored := hab
    rfl
  | logout =>
    exact mirrors_now_bind hnow
      (mirrors_map (Service.logout_mirrors alike) fun _ _ _ _ => rfl)
  | logoutEverywhere =>
    exact mirrors_now_bind hnow
      (mirrors_map (Service.logoutEverywhere_mirrors alike) fun _ _ _ _ => rfl)

theorem handled_mirrors {p : Program Response} (h : Mirrors rows Same p p) :
    Mirrors rows Same (handled p) (handled p) := by
  refine mirrors_bind (mirrors_attempt h) fun after a b hab => ?_
  obtain rfl : b = a := hab
  cases b with
  | ok response => exact mirrors_finish (.done rfl)
  | error failure => exact mirrors_log (mirrors_finish (.done rfl))

/-- The token that a request presents to an endpoint. -/
def Request.token? (r : Request) : Option String :=
  if r.method = "POST" ∧ (Endpoint.ofPath? r.path).isSome then (presentedToken r).toOption else none

theorem respond_mirrors (policy : Policy) {r : Request} (shown : clock.now.isOk)
    (timely : ∀ token ∈ r.token?, rows.Timely (hashOf token) clock) :
    Mirrors rows Same (respond policy r clock) (respond policy r clock) := by
  unfold respond
  split
  · exact mirrors_finish (.done rfl)
  · next endpoint hendpoint =>
    split
    · exact mirrors_finish (.done rfl)
    · next hmethod =>
      split
      · next token htoken =>
        have hpresented : r.token? = some token := by
          simp [Request.token?, not_not.mp hmethod, hendpoint, htoken, Except.toOption]
        exact handled_mirrors (endpoint.handle_mirrors shown (timely token hpresented))
      · exact mirrors_finish (.done rfl)

/-- **Serving a request.** -/
theorem serve_mirrors (settings : Settings) {r : Request} (shown : clock.now.isOk)
    (timely : ∀ token ∈ r.token?, rows.Timely (hashOf token) clock) :
    Mirrors rows Same (serve settings r clock) (serve settings r clock) := by
  unfold serve
  split
  · exact mirrors_finish (.done rfl)
  · exact mirrors_map (respond_mirrors settings.policy shown timely) fun after a b hab =>
      congrArg (Response.guarded settings.corsOrigin) hab

end Http

end TokenRotation

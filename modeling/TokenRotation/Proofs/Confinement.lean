import TokenRotation.Proofs.Deeds
import TokenRotation.Proofs.Regions

/-!
# Programs in a region

A program is confined to a region when every call of it stays there. Run in two worlds that are the
same in the region, it draws, logs, adds and answers the same, and what is around the region stays
as it was in either of them. What is around may differ as long as it holds no identifier of a row
that the program would add, and the same hashes of such rows.

* `Surroundings` -- a region, and what is around it in two worlds;
* `Surroundings.Alike` -- two worlds that are the same in the region;
* `Program.Confined` -- a program that does the same in two such worlds;
* `Service.rotate_confined`, `Service.logout_confined` and their neighbours -- the operations.
-/

namespace TokenRotation

open Store

/-! ## 1. Two worlds -/

/-- **A region and what is around it** in two stores of a kind, for a program that adds certain rows
    of its own. -/
structure Surroundings where
  kind : StoreKind
  region : Region
  /-- What is around the region in the first store. -/
  first : Table
  /-- What is around the region in the second store. -/
  second : Table
  own : NewToken → Prop
  newIds : ∀ token, own token → first.hasId token.id = false ∧ second.hasId token.id = false
  hashes : ∀ token, own token → second.hasHash token.hash = first.hasHash token.hash

namespace Surroundings

variable {f : Surroundings}

/-- **Two worlds that are the same in the region**, with ready stores of the kind, before the same
    server. -/
structure Alike (f : Surroundings) (w v : Program.World AnyStore) : Prop where
  ready : w.store.IsReady
  ready' : v.store.IsReady
  kind : w.store.kind = f.kind
  kind' : v.store.kind = f.kind
  server : v.store.server = w.store.server
  ids : w.store.rows.IdsDistinct
  ids' : v.store.rows.IdsDistinct
  inside : v.store.rows.within f.region = w.store.rows.within f.region
  around : w.store.rows.beyond f.region = f.first
  around' : v.store.rows.beyond f.region = f.second
  draws : v.draws = w.draws
  log : v.log = w.log

/-- All that is around the region. -/
def around (f : Surroundings) : Table := f.first ++ f.second

/-- A call that comes to the same in both worlds, and in the region to what it may come to there. -/
structure Answers (f : Surroundings) (rows : Table) (call : StoreCall)
    (p q : Performed AnyStore call.Answer) (w v : Program.World AnyStore) : Prop where
  outcome : q.outcome = p.outcome
  worlds : f.kind = .durable ∨ p.outcome.isAborted = false →
    f.Alike { w with store := p.store, log := w.log ++ p.events }
      { v with store := q.store, log := v.log ++ q.events }
  settled : Settled f.kind rows call p.outcome (p.store.rows.within f.region)

end Surroundings

/-- Identifiers stay distinct under a call that adds none that is taken. -/
theorem Settled.idsDistinct {k : StoreKind} {rows after : Table} {call : StoreCall}
    {outcome : Outcome call.Answer} (h : Settled k rows call outcome after)
    (ids : rows.IdsDistinct) (new : call.IsNew rows) : after.IdsDistinct := by
  cases h with
  | kept => exact ids
  | carried h =>
    rcases h.adds_or_evolves with ⟨token, rfl, -, rfl⟩ | hrows
    · refine ids.append_new ?_
      cases k <;> exact new
    · exact ids.forall₂ hrows

namespace Surroundings

variable {f : Surroundings} {w v : Program.World AnyStore}

/-- No row around the region has the identifier of a row in it. -/
theorem Alike.id_ne (h : f.Alike w v) {row : Row} (hrow : row ∈ w.store.rows.within f.region) :
    row.within f.region ∧ ∀ r ∈ f.around, r.id ≠ row.id := by
  have apart {rows : Table} (ids : rows.IdsDistinct) (hrow : row ∈ rows.within f.region) {r : Row}
      (hr : r ∈ rows.beyond f.region) : r.id ≠ row.id := by
    obtain ⟨hmem, hin⟩ := Table.mem_within.mp hrow
    obtain ⟨hmem', hout⟩ := Table.mem_beyond.mp hr
    intro same
    rw [ids.eq_of_id hmem' hmem same, hin] at hout
    cases hout
  refine ⟨(Table.mem_within.mp hrow).2, fun r hr => ?_⟩
  rcases List.mem_append.mp hr with hr | hr
  · exact apart h.ids hrow (h.around.symm ▸ hr)
  · exact apart h.ids' (h.inside.symm ▸ hrow) (h.around'.symm ▸ hr)

/-- A row of the program's own is as new, and its hash as free, in the one store as in the other. -/
theorem Alike.apart (h : f.Alike w v) {token : NewToken} (own : f.own token)
    (new : (w.store.rows.within f.region).hasId token.id = false) :
    w.store.rows.hasId token.id = false ∧ v.store.rows.hasId token.id = false ∧
      v.store.rows.hasHash token.hash = w.store.rows.hasHash token.hash := by
  obtain ⟨first, second⟩ := f.newIds token own
  have split (rows : Table) (chosen : Row → Bool) :=
    Table.any_eq_within_or_beyond f.region rows chosen
  refine ⟨?_, ?_, ?_⟩
  · rw [Table.hasId, split, h.around]
    exact Bool.or_eq_false_iff.mpr ⟨new, first⟩
  · rw [Table.hasId, split, h.inside, h.around']
    exact Bool.or_eq_false_iff.mpr ⟨new, second⟩
  · rw [Table.hasHash, Table.hasHash, split, split w.store.rows, h.inside, h.around, h.around']
    exact congrArg _ (f.hashes token own)

/-- **A call that stays in the region** comes to the same in both worlds. -/
theorem Alike.answers (h : f.Alike w v) {call : StoreCall}
    (stays : call.StaysIn f.region (w.store.rows.within f.region) f.around)
    (own : ∀ token, call = .insert token → f.own token)
    (new : call.IsNew (w.store.rows.within f.region)) :
    f.Answers (w.store.rows.within f.region) call (w.store.perform call) (v.store.perform call)
      w v := by
  obtain ⟨houtcome, hevents, hrows, hready⟩ := (h.ready.undisturbed call).responds
  obtain ⟨houtcome', hevents', hrows', hready'⟩ := (h.ready'.undisturbed call).responds
  rw [h.kind] at houtcome hevents hrows
  rw [h.kind', h.server] at houtcome' hevents' hrows'
  have apart : ∀ token, call = .insert token → w.store.rows.hasId token.id = false ∧
      v.store.rows.hasId token.id = false ∧
        v.store.rows.hasHash token.hash = w.store.rows.hasHash token.hash := by
    rintro token rfl
    exact h.apart (own token rfl) new
  have stays₁ := stays.mono fun r hr => List.mem_append_left f.second hr
  have stays₂ := stays.mono fun r hr => List.mem_append_right f.first hr
  rw [← h.around] at stays₁
  rw [← h.around'] at stays₂
  have alike := StoreKind.respondsAlike (k := f.kind) w.store.server
    h.inside h.ids h.ids' stays₁ stays₂ apart
  have newIn (s : AnyStore) (hnew : ∀ token, call = .insert token → s.rows.hasId token.id = false) :
      call.IsNew s.rows := by
    cases call with
    | insert token => exact hnew token rfl
    | _ => exact trivial
  have same : (v.store.perform call).outcome = (w.store.perform call).outcome := by
    rw [houtcome, houtcome', alike.outcome]
  exact {
    outcome := same
    settled := by
      rw [houtcome, hrows]
      exact alike.settled
    worlds := fun lasting =>
      { ready := hready h.ready (h.kind.symm ▸ lasting)
        ready' := hready' h.ready' (by rw [h.kind', same]; exact lasting)
        kind := (w.store.kind_perform call).trans h.kind
        kind' := (v.store.kind_perform call).trans h.kind'
        server := by rw [AnyStore.server_perform, AnyStore.server_perform, h.server]
        ids := (w.store.perform_settled call).idsDistinct h.ids
          (newIn _ fun token heq => (apart token heq).1)
        ids' := (v.store.perform_settled call).idsDistinct h.ids'
          (newIn _ fun token heq => (apart token heq).2.1)
        inside := by rw [hrows, hrows', alike.inside]
        around := by rw [hrows, alike.around, h.around]
        around' := by rw [hrows', alike.around', h.around']
        draws := h.draws
        log := by rw [hevents, hevents', alike.events, h.log] } }

end Surroundings

/-! ## 2. Programs -/

namespace Program

variable {α β : Type}

/-- **The program does the same in two worlds that are the same in the region**, and leaves two such
    worlds, if all rows that it adds in the first are its own and it is not broken off in memory.
    The region begins with those rows; what is true of the value may depend on the rows that are
    left in it. -/
def ConfinedIn (w v : World AnyStore) (f : Surroundings) (rows : Table) (post : Table → α → Prop)
    (p : Program α) : Prop :=
  ∀ actor, f.Alike w v → w.store.rows.within f.region = rows →
    (∀ d ∈ p.deeds actor w, ∀ token, d.call = .insert token → f.own token) →
    (f.kind = .durable ∨ (p.run w).1.isAborted = false) →
      f.Alike (p.run w).2 (p.run v).2 ∧ (p.run v).1 = (p.run w).1 ∧
        ∀ a, (p.run w).1 = .done a → post ((p.run w).2.store.rows.within f.region) a

/-- The same in any two worlds. -/
def Confined (f : Surroundings) (rows : Table) (post : Table → α → Prop) (p : Program α) : Prop :=
  ∀ w v, ConfinedIn w v f rows post p

variable {f : Surroundings} {rows : Table} {post : Table → α → Prop} {p : Program α}
  {w v : World AnyStore}

theorem confined_finish {o : Outcome α} (h : ∀ a, o = .done a → post rows a) :
    Confined f rows post (finish o) := by
  rintro w v actor alike rfl - -
  exact ⟨alike, rfl, h⟩

theorem confined_pure {a : α} (h : post rows a) : Confined f rows post (pure a) :=
  confined_finish fun b hb => by cases hb; exact h

theorem confined_fail {e : Failure} : Confined f rows post (fail e) :=
  confined_finish fun a ha => by cases ha

theorem confined_aborted {cause : Abort} : Confined f rows post (finish (.aborted cause)) :=
  confined_finish fun a ha => by cases ha

theorem ConfinedIn.bind {next : α → Program β} {post' : Table → β → Prop}
    (h : ConfinedIn w v f rows post p)
    (go : ∀ after a, post after a → Confined f after post' (next a)) :
    ConfinedIn w v f rows post' (p >>= next) := by
  intro actor alike hrows own lasting
  rw [deeds_bind] at own
  rw [run_bind] at lasting
  have first : f.kind = .durable ∨ (p.run w).1.isAborted = false := by
    refine lasting.imp_right fun unbroken => ?_
    rcases hp : p.run w with ⟨o, w'⟩
    rw [hp] at unbroken
    cases o with
    | done | failed => rfl
    | aborted => exact unbroken
  obtain ⟨alike', hend, hpost⟩ :=
    h actor alike hrows (fun d hd => own d (List.mem_append_left _ hd)) first
  rw [run_bind, run_bind]
  rcases hp : p.run w with ⟨o, w'⟩
  rcases hq : p.run v with ⟨o', v'⟩
  rw [hp] at own hpost lasting
  rw [hp, hq] at alike' hend
  obtain rfl : o' = o := hend
  cases o' with
  | done a =>
    exact go _ a (hpost a rfl) w' v' actor alike' rfl
      (fun d hd => own d (List.mem_append_right _ hd)) lasting
  | failed | aborted => exact ⟨alike', rfl, nofun⟩

theorem confined_bind {next : α → Program β} {post' : Table → β → Prop}
    (h : Confined f rows post p)
    (go : ∀ after a, post after a → Confined f after post' (next a)) :
    Confined f rows post' (p >>= next) :=
  fun w v => (h w v).bind go

theorem confined_secret {next : Secret → Program α} (h : ∀ s, Confined f rows post (next s)) :
    Confined f rows post (request .secret next) := by
  intro w v actor alike hrows own lasting
  have alike' : f.Alike { w with draws := w.draws.secret.2 } { v with draws := v.draws.secret.2 } :=
    { alike with draws := congrArg (·.secret.2) alike.draws }
  simp only [run, answer, alike.draws] at alike' ⊢
  exact h _ _ _ actor alike' hrows own lasting

/-- A fresh identifier, of which it may be known what it is. -/
theorem confinedIn_uuid {next : Uuid → Program α}
    (h : Confined f rows post (next w.draws.uuid.1)) :
    ConfinedIn w v f rows post (request .uuid next) := by
  intro actor alike hrows own lasting
  have alike' : f.Alike { w with draws := w.draws.uuid.2 } { v with draws := v.draws.uuid.2 } :=
    { alike with draws := congrArg (·.uuid.2) alike.draws }
  simp only [run, answer, alike.draws] at alike' ⊢
  exact h _ _ actor alike' hrows own lasting

theorem confined_uuid {next : Uuid → Program α} (h : ∀ u, Confined f rows post (next u)) :
    Confined f rows post (request .uuid next) :=
  fun _ _ => confinedIn_uuid (h _)

theorem confinedIn_log {event : Event} {next : Unit → Program α}
    (h : ConfinedIn { w with log := w.log ++ [event] } { v with log := v.log ++ [event] } f rows
      post (next ())) : ConfinedIn w v f rows post (request (.log event) next) := by
  intro actor alike hrows own lasting
  exact h actor { alike with log := congrArg (· ++ [event]) alike.log } hrows own lasting

theorem confined_log {event : Event} {next : Unit → Program α}
    (h : Confined f rows post (next ())) : Confined f rows post (request (.log event) next) :=
  fun _ _ => confinedIn_log (h _ _)

/-- **A call that stays in the region** is answered as a store may answer it that has the region
    alone. -/
theorem confined_call {call : StoreCall} {next : Except Failure call.Answer → Program α}
    (stays : call.StaysIn f.region rows f.around)
    (new : ∀ token, call = .insert token → f.own token → rows.hasId token.id = false)
    (done : ∀ a after, (∀ token, call = .insert token → f.own token) →
      Carried f.kind rows call a after → Confined f after post (next (.ok a)))
    (failed : ∀ e, Confined f rows post (next (.error e))) :
    Confined f rows post (request (.store call) next) := by
  rintro w v actor alike rfl own lasting
  have hperform (s : AnyStore) : TokenStore.perform s call = s.perform call := rfl
  simp only [deeds, run, observed, answer, hperform] at own lasting ⊢
  have hown : ∀ token, call = .insert token → f.own token :=
    own _ (List.mem_append_left _ (List.mem_singleton.mpr rfl))
  have hnew : call.IsNew (w.store.rows.within f.region) := by
    cases call with
    | insert token => exact new token rfl (hown token rfl)
    | _ => exact trivial
  obtain ⟨hend, alike', settled⟩ := alike.answers stays hown hnew
  generalize w.store.perform call = first at hend alike' settled own lasting ⊢
  generalize v.store.perform call = second at hend alike' ⊢
  obtain ⟨outcome, events, store⟩ := first
  obtain ⟨outcome', events', store'⟩ := second
  obtain rfl : outcome' = outcome := hend
  cases outcome' with
  | done a =>
    exact done a _ hown settled.carried_of_done _ _ actor (alike' (.inr rfl)) rfl
      (fun d hd => own d (List.mem_append_right _ hd)) lasting
  | failed e =>
    have same : store.rows.within f.region = w.store.rows.within f.region :=
      settled.eq_of_not_done fun _ => by simp
    exact failed e _ _ actor (alike' (.inr rfl)) same
      (fun d hd => own d (List.mem_append_right _ hd)) lasting
  | aborted cause => exact ⟨alike' lasting, rfl, fun a ended => by cases ended⟩

/-- What is true of the rows that the region begins with. -/
theorem confined_of_rows
    (h : (∀ row ∈ rows, row.within f.region ∧ ∀ r ∈ f.around, r.id ≠ row.id) →
      Confined f rows post p) : Confined f rows post p :=
  fun w v actor alike hrows own =>
    h (fun _ hrow => alike.id_ne (hrows ▸ hrow)) w v actor alike hrows own

/-- The same for a call that adds nothing and whose failure ends the program. -/
theorem confined_store_bind {call : StoreCall} {next : call.Answer → Program α}
    (stays : call.StaysIn f.region rows f.around) (other : ∀ token, call ≠ .insert token)
    (done : ∀ a after, Carried f.kind rows call a after → Confined f after post (next a)) :
    Confined f rows post (store call >>= next) :=
  confined_call stays (fun token heq => absurd heq (other token))
    (fun a after _ carried => done a after carried) fun _ => confined_fail

theorem confinedIn_now_bind {clock : Clock} {next : Instant → Program α}
    (h : ∀ now, clock.now = .ok now → ConfinedIn w v f rows post (next now)) :
    ConfinedIn w v f rows post (Program.now clock >>= next) := by
  cases shown : clock.now with
  | ok now =>
    rw [now_bind shown]
    exact h now shown
  | error cause =>
    simp only [Program.now, shown]
    exact confined_aborted w v

/-- Programs that only make values of the values before them. -/
theorem ConfinedIn.map {next : α → β} (h : ConfinedIn w v f rows post p) :
    ConfinedIn w v f rows (fun _ _ => True) (p >>= fun a => pure (next a)) :=
  h.bind fun _ _ _ => confined_pure trivial

end Program

/-! ## 3. Services -/

/-- A row is neither revoked nor expired if its status is neither. -/
theorem Row.live_of_status {r : Row} {now : Instant} (unrevoked : r.status now ≠ .revoked)
    (unexpired : r.status now ≠ .expired) : r.revokedAt = none ∧ now ≤ r.expiresAt := by
  unfold status at unrevoked unexpired
  cases live : r.revokedAt with
  | some t => simp [live] at unrevoked
  | none =>
    refine ⟨rfl, Instant.not_lt.mp fun late => ?_⟩
    simp [live, late] at unexpired

namespace Service

open Program

variable {f : Surroundings} {rows : Table} {policy : Policy} {token : String} {clock : Clock}

/-- What is known of a program's own rows while the rows of the region evolve. -/
theorem newIn_of_evolves {after : Table} (hrows : List.Forall₂ Row.Evolves rows after)
    (new : ∀ t, f.own t → rows.hasId t.id = false) : ∀ t, f.own t → after.hasId t.id = false := by
  intro t own
  rw [Table.hasId_eq_false_iff]
  intro s hs
  obtain ⟨r, hr, hrs⟩ := Table.exists_mem_of_forall₂ hrows hs
  rw [hrs.id]
  exact Table.hasId_eq_false_iff.mp (new t own) r hr

/-- **Consuming a token** whose hash is not around the region, and the family of whose row is not
    either. -/
theorem consume_confined
    (stays : (StoreCall.consume (hashOf token) clock policy).StaysIn f.region rows f.around) :
    Confined f rows (fun after consumed => ∃ row ∈ rows, consumed.id = row.id ∧
        consumed.subject = row.subject ∧ consumed.family = row.family ∧
          List.Forall₂ Row.Evolves rows after) (consume policy token clock) := by
  refine confined_log (confined_store_bind stays nofun fun answer after carried => ?_)
  have hrows : List.Forall₂ Row.Evolves rows after := by
    rcases carried.adds_or_evolves with ⟨_, hcall, -⟩ | hrows
    · cases hcall
    · exact hrows
  cases carried with
  | unknown | refused | reuse => exact confined_log confined_fail
  | @first _ _ _ row _ c g found =>
    have hseen := row.evolves_stamp c g
    exact confined_log (confined_pure
      ⟨row, Table.mem_of_byHash? found, hseen.id, hseen.subject, hseen.family, hrows⟩)
  | grace found =>
    exact confined_log (confined_pure ⟨_, Table.mem_of_byHash? found, rfl, rfl, rfl, hrows⟩)

theorem issueWithin_confined {subject : String} {family : Uuid} {now : Instant} {left number : Nat}
    (hin : f.region subject family) (new : ∀ t, f.own t → rows.hasId t.id = false) :
    Confined f rows (fun _ issued => ∃ t, f.own t ∧ issued.id = t.id)
      (issueWithin policy subject family now left number) := by
  induction left generalizing number with
  | zero => exact confined_fail
  | succ left ih =>
    refine confined_secret fun secret => confined_uuid fun id => ?_
    cases policy.expiresAt? now with
    | none => exact confined_aborted
    | some expiresAt =>
      refine confined_call hin (fun t _ own => new t own) (fun row after own carried => ?_)
        fun e => ?_
      · cases carried with
        | insert fresh =>
          exact confined_log (confined_pure ⟨_, own _ rfl, by cases f.kind <;> rfl⟩)
      · cases e with
        | hashCollision => exact confined_log ih
        | database | invalidInput | notFound | refused => exact confined_fail

/-- **Issuing a token** into a family of the region; a login issues into the family that it draws
    first. -/
theorem issue_confined {w v : World AnyStore} {subject : String} {family : Option Uuid}
    {now : Instant} (hin : f.region subject (family.getD w.draws.uuid.1))
    (new : ∀ t, f.own t → rows.hasId t.id = false) :
    ConfinedIn w v f rows (fun _ issued => ∃ t, f.own t ∧ issued.id = t.id)
      (issue policy subject family now) := by
  unfold issue
  refine confinedIn_log ?_
  split
  · exact confined_fail _ _
  · cases family with
    | some family => exact issueWithin_confined hin new _ _
    | none => exact confinedIn_uuid (issueWithin_confined hin new)

/-- **Rotating a token.** -/
theorem rotate_confined
    (stays : (StoreCall.consume (hashOf token) clock policy).StaysIn f.region rows f.around)
    (new : ∀ t, f.own t → rows.hasId t.id = false) :
    Confined f rows (fun _ _ => True) (rotate policy token clock) := by
  refine confined_of_rows fun inside => confined_bind (consume_confined stays)
    fun kept consumed ⟨row, hrow, hid, hsubject, hfamily, hrows⟩ w v =>
      confinedIn_now_bind fun now _ => ?_
  obtain ⟨hin, apart⟩ := inside row hrow
  rw [hsubject, hfamily, hid]
  refine (issue_confined hin (newIn_of_evolves hrows new)).bind
    fun after issued ⟨t, own, hissued⟩ => ?_
  have successor : ∀ r ∈ f.around, r.id ≠ issued.id := by
    obtain ⟨first, second⟩ := f.newIds t own
    rw [Table.hasId_eq_false_iff] at first second
    intro r hr
    rw [hissued]
    exact (List.mem_append.mp hr).elim (first r) (second r)
  refine confined_store_bind (fun r hr => ⟨apart r hr, successor r hr⟩) nofun
    fun linked _ _ => ?_
  cases linked with
  | true => exact confined_pure trivial
  | false => exact confined_log (confined_pure trivial)

theorem revokeFamily_confined {family : Uuid} (now : Instant)
    (outside : ∀ r ∈ f.around, r.family ≠ family) :
    Confined f rows (fun _ _ => True) (revokeFamily family now) :=
  confined_log (confined_store_bind outside nofun fun _ _ _ => confined_log (confined_pure trivial))

theorem revokeSubject_confined {subject : String} (now : Instant)
    (outside : ∀ r ∈ f.around, r.subject ≠ subject) :
    Confined f rows (fun _ _ => True) (revokeSubject subject now) :=
  confined_log (confined_store_bind outside nofun fun _ _ _ => confined_log (confined_pure trivial))

/-- Whoever may log out presents a row that is neither revoked nor expired. -/
theorem authenticate_confined {now : Instant} (outside : ∀ r ∈ f.around, r.hash ≠ hashOf token) :
    Confined f rows (fun _ row => rows.byHash? (hashOf token) = some row ∧
      row.revokedAt = none ∧ now ≤ row.expiresAt) (authenticate token now) := by
  refine confined_store_bind outside nofun fun answer after carried => ?_
  cases carried with
  | getByHash =>
    cases found : rows.byHash? (hashOf token) with
    | none => exact confined_fail
    | some row =>
      dsimp only
      split
      · exact confined_fail
      · exact confined_fail
      · next unrevoked unexpired =>
        exact confined_log (confined_pure
          ⟨rfl, Row.live_of_status (fun h => unrevoked h) fun h => unexpired h⟩)

/-- **Logging out** with a token whose row is in the region with its family. -/
theorem logout_confined {now : Instant} (hashes : ∀ r ∈ f.around, r.hash ≠ hashOf token)
    (families : ∀ row ∈ rows.byHash? (hashOf token), ∀ r ∈ f.around, r.family ≠ row.family) :
    Confined f rows (fun _ _ => True) (logout token now) :=
  confined_bind (authenticate_confined hashes) fun _ row ⟨found, _⟩ =>
    revokeFamily_confined now (families row found)

/-- **Logging out everywhere**: the rows of the subject are in the region, unless the token entitles
    to nothing. -/
theorem logoutEverywhere_confined {now : Instant} (hashes : ∀ r ∈ f.around, r.hash ≠ hashOf token)
    (subjects : ∀ row ∈ rows.byHash? (hashOf token), row.revokedAt = none → now ≤ row.expiresAt →
      ∀ r ∈ f.around, r.subject ≠ row.subject) :
    Confined f rows (fun _ _ => True) (logoutEverywhere token now) :=
  confined_bind (authenticate_confined hashes) fun _ row ⟨found, live, intime⟩ =>
    revokeSubject_confined now (subjects row found live intime)

end Service

end TokenRotation

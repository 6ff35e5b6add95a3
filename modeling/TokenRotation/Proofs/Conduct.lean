import TokenRotation.Proofs.Interleaving

/-!
# Conduct

A rotation goes through stages: it has a token accepted, adds the successor of that token, and links
the two; a login adds a row and is done. What an operation may ask of the store depends on its
stage, and every answer leads to the next one. This file says so of programs, whatever they are
replied, and carries it over to the deeds of an operation, alone and among others.

* `Stage`, `Stage.Allows`, `Stage.hear` -- the stages, and how answers lead through them;
* `Program.Abides` -- a program that never asks for more than its stage allows;
* `Session.Work.abides` -- the operations abide, but for those that add or link rows on their own;
* `Program.follows`, `Pool.follows` -- so do the deeds of each of them, under every schedule.
-/

namespace TokenRotation

/-! ## 1. Stages -/

/-- How far an operation has come. -/
inductive Stage
  /-- A login that has added no row. -/
  | founding
  /-- Nothing was accepted yet. -/
  | idle
  /-- The row was accepted, as the store answered it. -/
  | holding (row : Row)
  /-- The second row was added as the successor of the first, and is not linked to it yet. -/
  | pending (row new : Row)
  /-- All is done. -/
  | settled
deriving DecidableEq, Repr

namespace Stage

/-- **What may be asked of the store**: reading at every stage, and otherwise what brings the
    operation further. Sweeps come before anything is accepted, or not at all. -/
def Allows : Stage → StoreCall → Prop
  | _, .getByHash _ | _, .listFamily _ => True
  | .founding, .insert _ => True
  | .idle, .consume .. | .idle, .revokeFamily .. | .idle, .revokeSubject .. => True
  | .holding row, .insert token => token.subject = row.subject ∧ token.family = row.family
  | .pending row new, .link id successor => id = row.id ∧ successor = new.id
  | _, _ => False

/-- The stage after a row was added. -/
def added : Stage → Row → Stage
  | .holding row, new => .pending row new
  | _, _ => .settled

/-- Nobody holds a row after adding one. -/
theorem added_ne_holding (st : Stage) (new row : Row) : st.added new ≠ .holding row := by
  cases st <;> simp [added]

/-- The stage that an answer leads to. -/
def hear (st : Stage) : (call : StoreCall) → call.Answer → Stage
  | .consume .., .accepted row _ => .holding row
  | .insert _, new => st.added new
  | .link .., _ => .settled
  | _, _ => st

end Stage

namespace Request

/-- What may be asked for at a stage. -/
def AllowedAt (st : Stage) : Request → Prop
  | .store call => st.Allows call
  | _ => True

/-- The stage that a reply leads to; a failure of the store leads nowhere. -/
def leads (st : Stage) : (r : Request) → r.Reply → Stage
  | .store call, .ok answer => st.hear call answer
  | _, _ => st

end Request

/-! ## 2. Programs -/

namespace Program

variable {α β : Type}

/-- **Whatever it is replied, the program asks for no more than its stage allows.** The stage that
    it comes to in the end is handed to `post`. -/
def Abides (post : Stage → Outcome α → Prop) : Stage → Program α → Prop
  | st, .finish outcome => post st outcome
  | st, .request r next => r.AllowedAt st ∧ ∀ reply, (next reply).Abides post (r.leads st reply)

/-- What has to hold in the end of a program that `f` goes on from. -/
def Abides.then (f : α → Program β) (post : Stage → Outcome β → Prop) (st : Stage) :
    Outcome α → Prop
  | .done a => (f a).Abides post st
  | .failed e => post st (.failed e)
  | .aborted cause => post st (.aborted cause)

variable {post post' : Stage → Outcome α → Prop} {st : Stage} {p : Program α}

theorem Abides.imp (h : p.Abides post st)
    (himp : ∀ st outcome, post st outcome → post' st outcome) :
    p.Abides post' st := by
  induction p generalizing st with
  | finish outcome => exact himp st outcome h
  | request r next ih => exact ⟨h.1, fun reply => ih reply (h.2 reply)⟩

theorem abides_bind {f : α → Program β} {post : Stage → Outcome β → Prop} :
    (p >>= f).Abides post st ↔ p.Abides (Abides.then f post) st := by
  induction p generalizing st with
  | finish outcome => cases outcome <;> exact Iff.rfl
  | request r next ih => exact and_congr_right fun _ => forall_congr' fun reply => ih reply

/-- Where nothing is asked of the end, a program goes on from whatever stage it came to. -/
theorem abides_bind_of {f : α → Program β} {post : Stage → α → Prop}
    (h : p.Abides (fun st outcome => ∀ a, outcome = .done a → post st a) st)
    (hf : ∀ st a, post st a → (f a).Abides (fun _ _ => True) st) :
    (p >>= f).Abides (fun _ _ => True) st := by
  refine abides_bind.mpr (h.imp fun st outcome hend => ?_)
  cases outcome with
  | done a => exact hf st a (hend a rfl)
  | failed | aborted => exact trivial

theorem abides_map (h : p.Abides (fun _ _ => True) st) (f : α → β) :
    (p >>= fun a => pure (f a)).Abides (fun _ _ => True) st := by
  refine abides_bind.mpr (h.imp fun st outcome _ => ?_)
  cases outcome <;> exact trivial

theorem abides_attempt (h : p.Abides (fun _ _ => True) st) :
    p.attempt.Abides (fun _ _ => True) st := by
  induction p generalizing st with
  | finish outcome => cases outcome <;> exact trivial
  | request r next ih => exact ⟨h.1, fun reply => ih reply (h.2 reply)⟩

/-- Goes on after a call of the store. -/
theorem abides_store_bind {call : StoreCall} {f : call.Answer → Program α}
    (allowed : st.Allows call)
    (answered : ∀ answer, (f answer).Abides post (st.hear call answer))
    (failed : ∀ e, post st (.failed e)) : (store call >>= f).Abides post st := by
  refine ⟨allowed, fun reply => ?_⟩
  cases reply with
  | ok answer => exact answered answer
  | error e => exact failed e

/-- An entry in the log leads nowhere. -/
theorem abides_log_bind {event : Event} {f : Unit → Program α} (h : (f ()).Abides post st) :
    (log event >>= f).Abides post st :=
  ⟨trivial, fun _ => h⟩

theorem abides_now_bind {clock : Clock} {f : Instant → Program α}
    (read : ∀ t, (f t).Abides post st) (unread : ∀ cause, post st (.aborted cause)) :
    (now clock >>= f).Abides post st := by
  rw [abides_bind]
  unfold now
  split
  · next t _ => exact read t
  · next cause _ => exact unread cause

end Program

/-! ## 3. Services -/

namespace Service

open Program

theorem abides_concludeConsume {st : Stage} {outcome : ConsumeOutcome} :
    (concludeConsume outcome).Abides (fun st' result => st' = st ∧ ∀ c, result = .done c →
      ∃ row kind, outcome = .accepted row kind ∧ c.id = row.id ∧ c.subject = row.subject ∧
        c.family = row.family) st := by
  cases outcome with
  | accepted row kind =>
    refine ⟨trivial, fun _ => ⟨rfl, fun c hc => ?_⟩⟩
    cases hc
    exact ⟨row, kind, rfl, rfl, rfl, rfl⟩
  | unknown | rejected | reused => exact ⟨trivial, fun _ => ⟨rfl, nofun⟩⟩

/-- Who consumed a token holds its row. -/
theorem abides_consume (policy : Policy) (token : String) (clock : Clock) :
    (consume policy token clock).Abides (fun st result => ∀ c, result = .done c →
      ∃ row, st = .holding row ∧ c.id = row.id ∧ c.subject = row.subject ∧ c.family = row.family)
      .idle := by
  refine abides_log_bind (abides_store_bind trivial (fun outcome => ?_) fun _ => nofun)
  refine abides_concludeConsume.imp fun st' result h c hc => ?_
  obtain ⟨rfl, hdone⟩ := h
  obtain ⟨row, kind, rfl, hc⟩ := hdone c hc
  exact ⟨row, rfl, hc⟩

/-- An issue adds a row into its family, and no more. -/
theorem abides_issueWithin {policy : Policy} {subject : String} {family : Uuid} {now : Instant}
    {left number : Nat} {st : Stage}
    (allowed : ∀ token : NewToken, token.subject = subject → token.family = family →
      st.Allows (.insert token)) :
    (issueWithin policy subject family now left number).Abides (fun st' result =>
      ∀ issued, result = .done issued → ∃ new, st' = st.added new ∧ issued.id = new.id) st := by
  induction left generalizing number with
  | zero => exact nofun
  | succ left ih =>
    refine ⟨trivial, fun secret => ⟨trivial, fun id => ?_⟩⟩
    cases policy.expiresAt? now with
    | none => exact nofun
    | some expiresAt =>
      refine ⟨allowed _ rfl rfl, fun reply => ?_⟩
      match reply with
      | .ok new =>
        refine ⟨trivial, fun _ issued hissued => ?_⟩
        cases hissued
        exact ⟨new, rfl, rfl⟩
      | .error .hashCollision => exact ⟨trivial, fun _ => ih⟩
      | .error (.database _) | .error (.invalidInput _) | .error .notFound
      | .error (.refused _) => exact nofun

/-- A login adds a row, and no more. -/
theorem abides_login (policy : Policy) (subject : String) (now : Instant) :
    (issue policy subject none now).Abides (fun _ _ => True) .founding := by
  refine abides_log_bind ?_
  split
  · exact trivial
  · refine ⟨trivial, fun family => ?_⟩
    have allowed (token : NewToken) (_ : token.subject = subject) (_ : token.family = family) :
        Stage.founding.Allows (.insert token) := trivial
    exact (abides_issueWithin allowed).imp fun _ _ _ => trivial

/-- **A rotation** adds a successor of the row that it holds, and links the two. -/
theorem abides_rotate (policy : Policy) (token : String) (clock : Clock) :
    (rotate policy token clock).Abides (fun _ _ => True) .idle := by
  refine abides_bind_of (abides_consume policy token clock) fun st consumed h => ?_
  obtain ⟨row, rfl, hid, hsubject, hfamily⟩ := h
  refine abides_now_bind (fun now => ?_) fun _ => trivial
  have hissue : (issue policy consumed.subject (some consumed.family) now).Abides (fun st result =>
      ∀ issued, result = .done issued → ∃ new, st = .pending row new ∧ issued.id = new.id)
      (.holding row) := by
    refine abides_log_bind ?_
    split
    · exact nofun
    · refine (abides_issueWithin fun token hs hf => ?_).imp fun st result h issued hissued => ?_
      · exact ⟨hs.trans hsubject, hf.trans hfamily⟩
      · exact h issued hissued
  refine abides_bind_of hissue fun st issued h => ?_
  obtain ⟨new, rfl, hnew⟩ := h
  refine abides_store_bind ⟨hid, hnew⟩ (fun linked => ?_) fun _ => trivial
  cases linked with
  | true => exact trivial
  | false => exact ⟨trivial, fun _ => trivial⟩

theorem abides_revokeFamily (family : Uuid) (now : Instant) :
    (revokeFamily family now).Abides (fun _ _ => True) .idle :=
  abides_log_bind
    (abides_store_bind trivial (fun _ => ⟨trivial, fun _ => trivial⟩) fun _ => trivial)

theorem abides_revokeSubject (subject : String) (now : Instant) :
    (revokeSubject subject now).Abides (fun _ _ => True) .idle :=
  abides_log_bind
    (abides_store_bind trivial (fun _ => ⟨trivial, fun _ => trivial⟩) fun _ => trivial)

/-- To show a token accepts nothing. -/
theorem abides_authenticate (token : String) (now : Instant) :
    (authenticate token now).Abides (fun st _ => st = .idle) .idle := by
  refine abides_store_bind trivial (fun found => ?_) fun _ => rfl
  cases found with
  | none => exact rfl
  | some row =>
    dsimp only
    split
    · exact rfl
    · exact rfl
    · exact ⟨trivial, fun _ => rfl⟩

theorem abides_logout (token : String) (now : Instant) :
    (logout token now).Abides (fun _ _ => True) .idle := by
  refine abides_bind_of ((abides_authenticate token now).imp fun _ _ h _ _ => h) ?_
  rintro _ row rfl
  exact abides_revokeFamily row.family now

theorem abides_logoutEverywhere (token : String) (now : Instant) :
    (logoutEverywhere token now).Abides (fun _ _ => True) .idle := by
  refine abides_bind_of ((abides_authenticate token now).imp fun _ _ h _ _ => h) ?_
  rintro _ row rfl
  exact abides_revokeSubject row.subject now

end Service

namespace Http

open Program

theorem Endpoint.abides_handle (e : Endpoint) (policy : Policy) (token : String) (clock : Clock) :
    (e.handle policy token clock).Abides (fun _ _ => True) .idle := by
  cases e with
  | refresh => exact abides_map (Service.abides_rotate policy token clock) _
  | logout =>
    refine abides_now_bind (fun now => ?_) fun _ => trivial
    exact abides_map (Service.abides_logout token now) fun _ => Response.noContent
  | logoutEverywhere =>
    refine abides_now_bind (fun now => ?_) fun _ => trivial
    exact abides_map (Service.abides_logoutEverywhere token now) fun _ => Response.noContent

theorem abides_handled {p : Program Response} {st : Stage} (h : p.Abides (fun _ _ => True) st) :
    (handled p).Abides (fun _ _ => True) st := by
  refine abides_bind.mpr ((abides_attempt h).imp fun st outcome _ => ?_)
  cases outcome with
  | failed | aborted => exact trivial
  | done result =>
    cases result with
    | ok => exact trivial
    | error => exact ⟨trivial, fun _ => trivial⟩

theorem abides_serve (settings : Settings) (r : Request) (clock : Clock) :
    (serve settings r clock).Abides (fun _ _ => True) .idle := by
  unfold serve
  split
  · exact trivial
  · refine abides_map ?_ _
    unfold respond
    split
    · exact trivial
    · split
      · exact trivial
      · split
        · exact abides_handled (Endpoint.abides_handle _ _ _ _)
        · exact trivial

end Http

namespace Session

open Program

/-- The work starts families only by a login, lets them grow only by a rotation, and links only what
    it rotated. -/
def Work.isOrderly : Work → Bool
  | .issue _ (some _) | .link .. | .call (.insert _) | .call (.link ..) => false
  | _ => true

/-- The work begins a login. -/
def Work.isLogin : Work → Bool
  | .issue _ none => true
  | _ => false

/-- The stage that a piece of work begins at. -/
def Work.stage (work : Work) : Stage := if work.isLogin then .founding else .idle

theorem Work.stage_cases (work : Work) :
    work.stage = .founding ∧ work.isLogin ∨ work.stage = .idle ∧ ¬ work.isLogin := by
  unfold stage
  split
  · next hlogin => exact .inl ⟨rfl, hlogin⟩
  · next hnot => exact .inr ⟨rfl, hnot⟩

theorem Work.exists_of_isLogin {work : Work} (h : work.isLogin) :
    ∃ subject, work = .issue subject none := by
  unfold isLogin at h
  split at h
  · next subject => exact ⟨subject, rfl⟩
  · cases h

/-- **The operations abide**, but for those that add or link rows on their own. -/
theorem Work.abides {work : Work} (h : work.isOrderly) (settings : Settings) (clock : Clock) :
    (work.program settings clock).Abides (fun _ _ => True) work.stage := by
  match work with
  | .issue subject none =>
    exact abides_now_bind (fun now => abides_map (Service.abides_login _ subject now) _)
      fun _ => trivial
  | .consume token =>
    exact abides_map ((Service.abides_consume _ token clock).imp fun _ _ _ => trivial) _
  | .rotate token => exact abides_map (Service.abides_rotate _ token clock) _
  | .revokeFamily family =>
    exact abides_now_bind (fun now => abides_map (Service.abides_revokeFamily family now) _)
      fun _ => trivial
  | .revokeSubject subject =>
    exact abides_now_bind (fun now => abides_map (Service.abides_revokeSubject subject now) _)
      fun _ => trivial
  | .logout token =>
    exact abides_now_bind (fun now => abides_map (Service.abides_logout token now) _)
      fun _ => trivial
  | .logoutEverywhere token =>
    exact abides_now_bind (fun now => abides_map (Service.abides_logoutEverywhere token now) _)
      fun _ => trivial
  | .find _ | .lineage .. | .call (.consume ..) | .call (.revokeFamily ..)
  | .call (.revokeSubject ..) | .call (.getByHash _) | .call (.listFamily _) =>
    exact abides_store_bind trivial (fun _ => trivial) fun _ => trivial
  | .policy | .settings => exact trivial
  | .serve r => exact abides_map (Http.abides_serve settings r clock) _

end Session

/-! ## 4. Deeds -/

namespace Stage

/-- The stage that a deed of the operation leads to. -/
def told (st : Stage) : Deed → Stage
  | ⟨_, _, call, .done answer, _⟩ => st.hear call answer
  | _ => st

/-- A deed that is not an answer leads nowhere. -/
theorem told_of_not_done {st : Stage} {actor : Nat} {before after : Table} {call : StoreCall}
    {outcome : Outcome call.Answer} (h : ∀ answer, outcome ≠ .done answer) :
    st.told ⟨actor, before, call, outcome, after⟩ = st := by
  cases outcome with
  | done answer => exact absurd rfl (h answer)
  | failed | aborted => rfl

/-- No deed leads to the stage of a login. -/
theorem founding_of_told {st : Stage} {d : Deed} (h : st.told d = .founding) :
    st = .founding := by
  obtain ⟨actor, before, call, outcome, after⟩ := d
  cases outcome with
  | failed | aborted => exact h
  | done answer =>
    change st.hear call answer = .founding at h
    cases call with
    | insert token => cases st <;> cases h
    | consume hash clock policy =>
      cases answer with
      | accepted => cases h
      | unknown | rejected | reused => exact h
    | link => cases h
    | revokeFamily | revokeSubject | getByHash | listFamily => exact h

/-- **Each of the deeds is allowed** at the stage that the deeds before it led to. -/
def Follows : Stage → List Deed → Prop
  | _, [] => True
  | st, d :: rest => st.Allows d.call ∧ (st.told d).Follows rest

theorem follows_append {st : Stage} {deeds more : List Deed} :
    st.Follows (deeds ++ more) ↔ st.Follows deeds ∧ (deeds.foldl told st).Follows more := by
  induction deeds generalizing st with
  | nil => exact ⟨fun h => ⟨trivial, h⟩, And.right⟩
  | cons d rest ih => exact (and_congr_right fun _ => ih).trans and_assoc.symm

end Stage

namespace Program

open Stage

variable {σ α : Type} [TokenStore σ] {post : Stage → Outcome α → Prop} {st : Stage} {actor : Nat}
  {w w' : World σ} {r : Request}

theorem follows_observed (allowed : r.AllowedAt st) : st.Follows (observed actor w r) := by
  cases r with
  | store call => exact ⟨allowed, trivial⟩
  | secret | uuid | log => exact trivial

/-- A reply leads where the deed behind it does. -/
theorem foldl_told_observed {reply : r.Reply} (h : answer w r = (.ok reply, w')) :
    (observed actor w r).foldl told st = r.leads st reply := by
  cases r with
  | secret | uuid | log => rfl
  | store call =>
    simp only [answer] at h
    split at h
    · next value hdone =>
      cases h
      simp only [observed, List.foldl_cons, List.foldl_nil, hdone]
      rfl
    · next failure hfailed =>
      cases h
      simp only [observed, List.foldl_cons, List.foldl_nil, hfailed]
      rfl
    · cases h

/-- **The deeds of a program that abides** follow its stages. -/
theorem follows {p : Program α} (h : p.Abides post st) (actor : Nat) (w : World σ) :
    st.Follows (p.deeds actor w) := by
  induction p generalizing st w with
  | finish outcome => exact trivial
  | request r next ih =>
    unfold deeds
    refine follows_append.mpr ⟨follows_observed h.1, ?_⟩
    split
    · next reply w' hanswer =>
      rw [foldl_told_observed hanswer]
      exact ih reply (h.2 reply) w'
    · exact trivial

end Program

namespace Pool

open Program Stage

/-- Every call abides, from the stage that it has come to. -/
def Abide (stages : Nat → Stage) (p : Pool) : Prop :=
  ∀ (i : Nat) (call : Program Session.Value), p.calls[i]? = some call →
    call.Abides (fun _ _ => True) (stages i)

/-- The stages that some jobs begin at. -/
def stagesOf (jobs : List (Session.Work × Clock)) (i : Nat) : Stage :=
  (jobs[i]?.map fun job => job.1.stage).getD .settled

theorem abide_begin (settings : Settings) (world : World AnyStore)
    {jobs : List (Session.Work × Clock)} (h : ∀ job ∈ jobs, job.1.isOrderly) :
    (begin settings world jobs).Abide (stagesOf jobs) := by
  intro i call hcall
  rw [begin, List.getElem?_map, Option.map_eq_some_iff] at hcall
  obtain ⟨job, hjob, rfl⟩ := hcall
  simp only [stagesOf, hjob, Option.map_some, Option.getD_some]
  exact Session.Work.abides (h job (List.mem_of_getElem? hjob)) settings job.2

/-- One step follows the stage of its call, and all calls go on abiding. -/
theorem Abide.step {stages : Nat → Stage} {p : Pool} (h : p.Abide stages) (j : Nat) :
    (stages j).Follows (p.stepDeeds j) ∧ (p.step j).Abide
      (Function.update stages j ((p.stepDeeds j).foldl told (stages j))) := by
  cases hj : p.calls[j]? with
  | none =>
    have hdeeds : p.stepDeeds j = [] := by simp [stepDeeds, hj]
    have hstep : p.step j = p := by simp [Pool.step, hj]
    rw [hdeeds, hstep, List.foldl_nil, Function.update_eq_self]
    exact ⟨trivial, h⟩
  | some call =>
    have habides := h j call hj
    have hlt : j < p.calls.length := (List.getElem?_eq_some_iff.mp hj).1
    -- what is left of the call abides from the stage that its deed leads to
    have hcall : (stages j).Follows (p.stepDeeds j) ∧ (call.advance p.world).1.Abides
        (fun _ _ => True) ((p.stepDeeds j).foldl told (stages j)) := by
      cases call with
      | finish outcome => exact ⟨by simp [stepDeeds, hj, Follows], trivial⟩
      | request r next =>
        simp only [stepDeeds, hj, advance]
        refine ⟨follows_observed habides.1, ?_⟩
        split
        · next reply w' hanswer =>
          rw [foldl_told_observed hanswer]
          exact habides.2 reply
        · exact trivial
    refine ⟨hcall.1, fun i left hleft => ?_⟩
    simp only [Pool.step, hj] at hleft
    by_cases hij : i = j
    · subst hij
      rw [List.getElem?_set_self hlt, Option.some.injEq] at hleft
      rw [Function.update_self, ← hleft]
      exact hcall.2
    · rw [List.getElem?_set_ne (Ne.symm hij)] at hleft
      rw [Function.update_of_ne hij]
      exact h i left hleft

/-- **Under every schedule the deeds of each call follow its stages.** -/
theorem follows {stages : Nat → Stage} {p : Pool} (h : p.Abide stages) (schedule : List Nat)
    (i : Nat) : (stages i).Follows ((p.deeds schedule).filter fun d => d.actor = i) := by
  induction schedule generalizing p stages with
  | nil => exact trivial
  | cons j rest ih =>
    obtain ⟨hfollows, habide⟩ := h.step j
    have hrest := ih habide
    rw [deeds, List.filter_append]
    by_cases hij : i = j
    · subst hij
      rw [Function.update_self] at hrest
      have hall : (p.stepDeeds i).filter (fun d => d.actor = i) = p.stepDeeds i :=
        List.filter_eq_self.mpr fun d hd => decide_eq_true (actor_of_mem_stepDeeds hd)
      rw [hall]
      exact follows_append.mpr ⟨hfollows, hrest⟩
    · rw [Function.update_of_ne hij] at hrest
      have hnone : (p.stepDeeds j).filter (fun d => d.actor = i) = [] := by
        refine List.filter_eq_nil_iff.mpr fun d hd => ?_
        simp [actor_of_mem_stepDeeds hd, Ne.symm hij]
      rw [hnone, List.nil_append]
      exact hrest

end Pool

end TokenRotation

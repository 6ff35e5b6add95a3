import TokenRotation.Proofs.Deeds

/-!
# Succession

A row comes into the table by a login, or as the successor of a row that the same operation had
accepted before. This file says so of programs, whatever they are replied, so it holds of them alone
and among others.

* `Program.Heir` -- every insertion succeeds the row that was accepted last before it;
* `Session.Work.heir` -- the operations are heirs, but for those that issue or insert on their own;
* `Inherited` -- the same of deeds, whoever did them;
* `Program.inherited` -- the deeds of an heir are inherited.
-/

namespace TokenRotation

/-! ## 1. Requests -/

namespace Request

/-- The rows that a reply tells to be accepted. -/
def granted : (r : Request) → r.Reply → List Row
  | .store (.consume ..), .ok (.accepted row _) => [row]
  | _, _ => []

/-- A request to insert asks for a successor of the last of the rows. -/
def Succeeds (rows : List Row) : Request → Prop
  | .store (.insert token) =>
    ∃ row, rows.getLast? = some row ∧ token.subject = row.subject ∧ token.family = row.family
  | _ => True

end Request

/-! ## 2. Programs -/

namespace Program

variable {α β : Type}

/-- **Whatever it is replied, the program inserts only successors** of the row that it was last told
    to be accepted. All that it was told in the end is handed to `post`. -/
def Heir (post : List Row → Outcome α → Prop) : List Row → Program α → Prop
  | rows, .finish outcome => post rows outcome
  | rows, .request r next =>
    r.Succeeds rows ∧ ∀ reply, (next reply).Heir post (rows ++ r.granted reply)

/-- What has to hold in the end of a program that `f` goes on from. -/
def Heir.then (f : α → Program β) (post : List Row → Outcome β → Prop) (rows : List Row) :
    Outcome α → Prop
  | .done a => (f a).Heir post rows
  | .failed e => post rows (.failed e)
  | .aborted cause => post rows (.aborted cause)

variable {post post' : List Row → Outcome α → Prop} {rows : List Row} {p : Program α}

theorem Heir.imp (h : p.Heir post rows) (himp : ∀ rows outcome, post rows outcome →
    post' rows outcome) : p.Heir post' rows := by
  induction p generalizing rows with
  | finish outcome => exact himp rows outcome h
  | request r next ih => exact ⟨h.1, fun reply => ih reply (h.2 reply)⟩

theorem heir_bind {f : α → Program β} {post : List Row → Outcome β → Prop} :
    (p >>= f).Heir post rows ↔ p.Heir (Heir.then f post) rows := by
  induction p generalizing rows with
  | finish outcome => cases outcome <;> exact Iff.rfl
  | request r next ih => exact and_congr_right fun _ => forall_congr' fun reply => ih reply

theorem heir_attempt {post : List Row → Outcome (Except Failure α) → Prop} :
    p.attempt.Heir post rows ↔
      p.Heir (fun rows outcome =>
        match outcome with
        | .done a => post rows (.done (.ok a))
        | .failed e => post rows (.done (.error e))
        | .aborted cause => post rows (.aborted cause)) rows := by
  induction p generalizing rows with
  | finish outcome => cases outcome <;> exact Iff.rfl
  | request r next ih => exact and_congr_right fun _ => forall_congr' fun reply => ih reply

/-- Goes on after a call of the store. -/
theorem heir_store_bind {call : StoreCall} {f : call.Answer → Program α}
    (asked : (Request.store call).Succeeds rows)
    (answered : ∀ answer, (f answer).Heir post
      (rows ++ (Request.store call).granted (.ok answer)))
    (failed : ∀ e, post (rows ++ (Request.store call).granted (.error e)) (.failed e)) :
    (store call >>= f).Heir post rows := by
  refine ⟨asked, fun reply => ?_⟩
  cases reply with
  | ok answer => exact answered answer
  | error e => exact failed e

/-- An entry in the log tells nothing. -/
theorem heir_log_bind {event : Event} {f : Unit → Program α} (h : (f ()).Heir post rows) :
    (log event >>= f).Heir post rows := by
  refine ⟨trivial, fun _ => ?_⟩
  change (f ()).Heir post (rows ++ [])
  rwa [List.append_nil]

theorem heir_now_bind {clock : Clock} {f : Instant → Program α} (read : ∀ t, (f t).Heir post rows)
    (unread : ∀ cause, post rows (.aborted cause)) : (now clock >>= f).Heir post rows := by
  rw [heir_bind]
  unfold now
  split
  · next t _ => exact read t
  · next cause _ => exact unread cause

end Program

/-! ## 3. Services -/

namespace Service

open Program

variable {rows : List Row}

theorem heir_concludeConsume {outcome : ConsumeOutcome} :
    (concludeConsume outcome).Heir (fun rows' result => rows' = rows ∧
      ∀ c, result = .done c → ∃ row kind, outcome = .accepted row kind ∧
        c.subject = row.subject ∧ c.family = row.family) rows := by
  cases outcome with
  | accepted row kind =>
    refine ⟨trivial, fun _ => ⟨List.append_nil rows, fun c hc => ?_⟩⟩
    cases hc
    exact ⟨row, kind, rfl, rfl, rfl⟩
  | unknown | rejected | reused => exact ⟨trivial, fun _ => ⟨List.append_nil rows, nofun⟩⟩

/-- Who consumed a token was told that its row is accepted. -/
theorem heir_consume (policy : Policy) (token : String) (clock : Clock) :
    (consume policy token clock).Heir (fun rows result =>
      ∀ c, result = .done c → ∃ row, rows.getLast? = some row ∧ c.subject = row.subject ∧
        c.family = row.family) rows := by
  refine heir_log_bind (heir_store_bind trivial (fun outcome => ?_) fun _ => nofun)
  refine heir_concludeConsume.imp fun rows' result h c hc => ?_
  obtain ⟨rfl, hdone⟩ := h
  obtain ⟨row, kind, rfl, hsubject, hfamily⟩ := hdone c hc
  exact ⟨row, List.getLast?_concat, hsubject, hfamily⟩

theorem heir_issueWithin {policy : Policy} {subject : String} {family : Uuid} {now : Instant}
    {left number : Nat}
    (h : ∃ row, rows.getLast? = some row ∧ subject = row.subject ∧ family = row.family) :
    (issueWithin policy subject family now left number).Heir (fun _ _ => True) rows := by
  induction left generalizing number rows with
  | zero => exact trivial
  | succ left ih =>
    refine ⟨trivial, fun secret => ⟨trivial, fun id => ?_⟩⟩
    -- neither of the two draws tells of a row
    change Heir _ (rows ++ [] ++ []) _
    rw [List.append_nil, List.append_nil]
    cases policy.expiresAt? now with
    | none => exact trivial
    | some expiresAt =>
      refine ⟨h, fun reply => ?_⟩
      change Heir _ (rows ++ []) _
      rw [List.append_nil]
      match reply with
      | .ok row => exact ⟨trivial, fun _ => trivial⟩
      | .error .hashCollision => exact heir_log_bind (ih h)
      | .error (.database _) | .error (.invalidInput _) | .error .notFound
      | .error (.refused _) => exact trivial

/-- Whoever issues into the family of an accepted row is an heir. -/
theorem heir_issue {policy : Policy} {subject : String} {family : Uuid} {now : Instant}
    (h : ∃ row, rows.getLast? = some row ∧ subject = row.subject ∧ family = row.family) :
    (issue policy subject (some family) now).Heir (fun _ _ => True) rows := by
  refine heir_log_bind ?_
  split
  · exact trivial
  · exact heir_issueWithin h

/-- **A rotation adds nothing but a successor** of the row that it had accepted. -/
theorem heir_rotate (policy : Policy) (token : String) (clock : Clock) :
    (rotate policy token clock).Heir (fun _ _ => True) rows := by
  refine heir_bind.mpr ((heir_consume policy token clock).imp fun rows' result h => ?_)
  cases result with
  | failed | aborted => exact trivial
  | done consumed =>
    refine heir_now_bind (fun now => ?_) fun _ => trivial
    refine heir_bind.mpr ((heir_issue (h consumed rfl)).imp fun rows'' result' _ => ?_)
    cases result' with
    | failed | aborted => exact trivial
    | done issued =>
      refine heir_store_bind trivial (fun linked => ?_) fun _ => trivial
      cases linked with
      | true => exact trivial
      | false => exact ⟨trivial, fun _ => trivial⟩

theorem heir_revokeFamily (family : Uuid) (now : Instant) :
    (revokeFamily family now).Heir (fun _ _ => True) rows :=
  heir_log_bind (heir_store_bind trivial (fun _ => ⟨trivial, fun _ => trivial⟩) fun _ => trivial)

theorem heir_revokeSubject (subject : String) (now : Instant) :
    (revokeSubject subject now).Heir (fun _ _ => True) rows :=
  heir_log_bind (heir_store_bind trivial (fun _ => ⟨trivial, fun _ => trivial⟩) fun _ => trivial)

theorem heir_authenticate (token : String) (now : Instant) :
    (authenticate token now).Heir (fun _ _ => True) rows := by
  refine heir_store_bind trivial (fun found => ?_) fun _ => trivial
  cases found with
  | none => exact trivial
  | some row =>
    dsimp only
    split
    · exact trivial
    · exact trivial
    · exact ⟨trivial, fun _ => trivial⟩

theorem heir_logout (token : String) (now : Instant) :
    (logout token now).Heir (fun _ _ => True) rows := by
  refine heir_bind.mpr ((heir_authenticate token now).imp fun _ result _ => ?_)
  cases result with
  | done row => exact heir_revokeFamily row.family now
  | failed | aborted => exact trivial

theorem heir_logoutEverywhere (token : String) (now : Instant) :
    (logoutEverywhere token now).Heir (fun _ _ => True) rows := by
  refine heir_bind.mpr ((heir_authenticate token now).imp fun _ result _ => ?_)
  cases result with
  | done row => exact heir_revokeSubject row.subject now
  | failed | aborted => exact trivial

end Service

/-! ## 4. The work of a session -/

/-- A program that ends in a value made of the value of an heir is an heir. -/
theorem Program.heir_map {α β : Type} {p : Program α} {rows : List Row}
    (h : p.Heir (fun _ _ => True) rows) (f : α → β) :
    (p >>= fun a => pure (f a)).Heir (fun _ _ => True) rows := by
  refine heir_bind.mpr (h.imp fun _ result _ => ?_)
  cases result <;> exact trivial

namespace Http

open Program

variable {rows : List Row}

theorem Endpoint.heir_handle (e : Endpoint) (policy : Policy) (token : String) (clock : Clock) :
    (e.handle policy token clock).Heir (fun _ _ => True) rows := by
  cases e with
  | refresh => exact heir_map (Service.heir_rotate policy token clock) _
  | logout =>
    refine heir_now_bind (fun now => ?_) fun _ => trivial
    exact heir_map (Service.heir_logout token now) fun _ => Response.noContent
  | logoutEverywhere =>
    refine heir_now_bind (fun now => ?_) fun _ => trivial
    exact heir_map (Service.heir_logoutEverywhere token now) fun _ => Response.noContent

theorem heir_handled {p : Program Response} (h : p.Heir (fun _ _ => True) rows) :
    (handled p).Heir (fun _ _ => True) rows := by
  refine heir_bind.mpr (heir_attempt.mpr (h.imp fun _ result _ => ?_))
  cases result with
  | done | aborted => exact trivial
  | failed => exact ⟨trivial, fun _ => trivial⟩

/-- Whatever is requested of the service, it adds nothing but successors. -/
theorem heir_serve (settings : Settings) (r : Request) (clock : Clock) :
    (serve settings r clock).Heir (fun _ _ => True) rows := by
  unfold serve
  split
  · exact trivial
  · refine heir_map ?_ _
    unfold respond
    split
    · exact trivial
    · split
      · exact trivial
      · split
        · exact heir_handled (Endpoint.heir_handle _ _ _ _)
        · exact trivial

end Http

namespace Session

open Program

/-- The work lets rows into the table only as successors of rows that it had accepted. -/
def Work.succeedsOnly : Work → Bool
  | .issue .. | .call (.insert _) => false
  | _ => true

/-- **The operations are heirs**, but for those that issue or insert on their own. -/
theorem Work.heir {work : Work} (h : work.succeedsOnly) (settings : Settings) (clock : Clock)
    (rows : List Row) : (work.program settings clock).Heir (fun _ _ => True) rows := by
  match work with
  | .consume token =>
    exact heir_map ((Service.heir_consume _ token clock).imp fun _ _ _ => trivial) _
  | .rotate token => exact heir_map (Service.heir_rotate _ token clock) _
  | .revokeFamily family =>
    exact heir_now_bind (fun now => heir_map (Service.heir_revokeFamily family now) _)
      fun _ => trivial
  | .revokeSubject subject =>
    exact heir_now_bind (fun now => heir_map (Service.heir_revokeSubject subject now) _)
      fun _ => trivial
  | .logout token =>
    exact heir_now_bind (fun now => heir_map (Service.heir_logout token now) _) fun _ => trivial
  | .logoutEverywhere token =>
    exact heir_now_bind (fun now => heir_map (Service.heir_logoutEverywhere token now) _)
      fun _ => trivial
  | .link .. | .find _ | .lineage .. | .call (.consume ..) | .call (.revokeFamily ..)
  | .call (.revokeSubject ..) | .call (.link ..) | .call (.getByHash _) | .call (.listFamily _) =>
    exact heir_store_bind trivial (fun _ => trivial) fun _ => trivial
  | .policy | .settings => exact trivial
  | .serve r => exact heir_map (Http.heir_serve settings r clock) _

end Session

/-! ## 5. Deeds -/

/-- The rows that an actor was told to be accepted. -/
def acceptedBy (actor : Nat) (past : List Deed) : List Row :=
  past.filterMap fun d => if d.actor = actor then d.accepted?.map (·.1) else none

theorem mem_acceptedBy {actor : Nat} {past : List Deed} {row : Row} :
    row ∈ acceptedBy actor past ↔
      ∃ d ∈ past, d.actor = actor ∧ ∃ kind, d.accepted? = some (row, kind) := by
  simp only [acceptedBy, List.mem_filterMap]
  refine exists_congr fun d => and_congr_right fun _ => ?_
  split <;> simp_all

theorem acceptedBy_append (actor : Nat) (past more : List Deed) :
    acceptedBy actor (past ++ more) = acceptedBy actor past ++ acceptedBy actor more :=
  List.filterMap_append

/-- Deeds of others tell an actor nothing. -/
theorem acceptedBy_of_others {actor : Nat} {past : List Deed} (h : ∀ d ∈ past, d.actor ≠ actor) :
    acceptedBy actor past = [] :=
  List.filterMap_eq_nil_iff.mpr fun d hd => if_neg (h d hd)

/-- **Every insertion succeeds the row that its actor had accepted last**, in these deeds or in the
    past. -/
def Inherited : (past : List Deed) → List Deed → Prop
  | _, [] => True
  | past, d :: rest =>
    (Request.store d.call).Succeeds (acceptedBy d.actor past) ∧ Inherited (past ++ [d]) rest

namespace Inherited

variable {past deeds more : List Deed}

theorem append (h : Inherited past deeds) (h' : Inherited (past ++ deeds) more) :
    Inherited past (deeds ++ more) := by
  induction deeds generalizing past with
  | nil => simpa using h'
  | cons d rest ih => exact ⟨h.1, ih h.2 (by simpa using h')⟩

theorem front (h : Inherited past (deeds ++ more)) : Inherited past deeds := by
  induction deeds generalizing past with
  | nil => exact trivial
  | cons d rest ih => exact ⟨h.1, ih h.2⟩

theorem split_cons {front back : List Deed} {d : Deed} (h : Inherited past (front ++ d :: back)) :
    (Request.store d.call).Succeeds (acceptedBy d.actor (past ++ front)) ∧
      Inherited (past ++ front ++ [d]) back := by
  induction front generalizing past with
  | nil =>
    rw [List.append_nil]
    exact h
  | cons e front ih =>
    have hrest := ih h.2
    simpa using hrest

end Inherited

namespace Program

variable {σ α : Type} [TokenStore σ]

/-- What a reply tells its program is what the deed tells of it. -/
theorem acceptedBy_observed {actor : Nat} {w w' : World σ} {r : Request} {reply : r.Reply}
    (h : answer w r = (.ok reply, w')) :
    acceptedBy actor (observed actor w r) = r.granted reply := by
  cases r with
  | secret | uuid | log => rfl
  | store call =>
    simp only [answer] at h
    split at h
    · next value hdone =>
      cases h
      cases call with
      | consume hash clock policy =>
        simp only [observed, acceptedBy, hdone]
        cases value <;> simp [Deed.accepted?, Request.granted]
      | _ => simp [observed, acceptedBy, Deed.accepted?, Request.granted]
    · next failure hfailed =>
      cases h
      cases call <;> simp [observed, acceptedBy, Deed.accepted?, Request.granted, hfailed]
    · cases h

/-- **The deeds of an heir are inherited.** -/
theorem inherited {post : List Row → Outcome α → Prop} {actor : Nat} {p : Program α}
    {past : List Deed} (h : p.Heir post (acceptedBy actor past)) (w : World σ) :
    Inherited past (p.deeds actor w) := by
  induction p generalizing past w with
  | finish outcome => exact trivial
  | request r next ih =>
    have hfirst : Inherited past (observed actor w r) := by
      cases r with
      | store call => exact ⟨h.1, trivial⟩
      | secret | uuid | log => exact trivial
    unfold deeds
    refine hfirst.append ?_
    split
    · next reply w' hanswer =>
      refine ih reply ?_ w'
      rw [acceptedBy_append, acceptedBy_observed hanswer]
      exact h.2 reply
    · exact trivial

end Program

end TokenRotation

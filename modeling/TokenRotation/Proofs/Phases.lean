import TokenRotation.Proofs.Readiness

/-!
# The course of a rotation

A rotation that is answered well goes through four phases: it presents its token, holds the row of
it, has a successor that is still to be linked, and has it linked. This file follows the program
through them, with a bound on the requests that are left, so that it can be followed among others.

* `Phase.Asks`, `Phase.Hears` -- what is asked for in a phase, and the good answers;
* `Program.Completes` -- answered well, a program comes to a value within some requests;
* `Service.rotate_completes` -- a rotation completes within ten requests.
-/

namespace TokenRotation

/-! ## 1. Phases -/

/-- How far a rotation has come. -/
inductive Phase
  | presenting
  | holding
  /-- The row was added as the successor, and is not linked yet. -/
  | pending (new : Row)
  | linked (new : Row)

namespace Phase

/-- How many of its three units of work are done. -/
def laps : Phase → Nat
  | .presenting => 0
  | .holding => 1
  | .pending _ => 2
  | .linked _ => 3

/-- What a rotation of the row may ask for, if it presents its token by that call. -/
def Asks (row : Row) (presentation : StoreCall) : Phase → Request → Prop
  | .presenting, .store call => call = presentation
  | .holding, .store (.insert token) =>
    token.subject = row.subject ∧ token.family = row.family ∧ ∃ text, token.hash = hashOf text
  | .pending new, .store (.link id successor) => id = row.id ∧ successor = new.id
  | _, .store _ => False
  | _, .secret | _, .uuid | _, .log _ => True

/-- **The good answers**, and the phases that they lead to. -/
inductive Hears (row : Row) : Phase → (r : Request) → r.Reply → Phase → Prop
  | accepted {hash : String} {clock : Clock} {policy : Policy} {seen : Row} {kind : ConsumeKind}
    (same : row.Evolves seen) :
    Hears row .presenting (.store (.consume hash clock policy)) (.ok (.accepted seen kind)) .holding
  | added {token : NewToken} {new : Row} (family : new.family = token.family) :
    Hears row .holding (.store (.insert token)) (.ok new) (.pending new)
  | answered {id successor : Uuid} {new : Row} (linked : Bool) :
    Hears row (.pending new) (.store (.link id successor)) (.ok linked) (.linked new)
  | secret {phase : Phase} (secret : Secret) : Hears row phase .secret secret phase
  | uuid {phase : Phase} (id : Uuid) : Hears row phase .uuid id phase
  | log {phase : Phase} (event : Event) : Hears row phase (.log event) () phase

end Phase

/-! ## 2. Programs -/

namespace Program

variable {α β : Type} {row : Row} {presentation : StoreCall} {post : Phase → α → Prop}

/-- **Answered well, the program comes to a value** within a number of requests, and asks for
    nothing that its phase does not ask for. -/
def Completes (row : Row) (presentation : StoreCall) (post : Phase → α → Prop) :
    Program α → Phase → Nat → Prop
  | .finish (.done a), phase, _ => post phase a
  | .finish _, _, _ => False
  | .request r next, phase, left => 0 < left ∧ phase.Asks row presentation r ∧
      ∀ reply phase', phase.Hears row r reply phase' →
        (next reply).Completes row presentation post phase' (left - 1)

theorem Completes.mono {p : Program α} {phase : Phase} {left more : Nat}
    (h : p.Completes row presentation post phase left) (le : left ≤ more) :
    p.Completes row presentation post phase more := by
  induction p generalizing phase left more with
  | finish outcome =>
    cases outcome with
    | done a => exact h
    | failed | aborted => cases h
  | request r next ih =>
    obtain ⟨hleft, hasks, hnext⟩ := h
    refine ⟨by omega, hasks, fun reply phase' heard => ?_⟩
    exact ih reply (hnext reply phase' heard) (by omega)

theorem completes_bind {p : Program α} {f : α → Program β} {post' : Phase → β → Prop}
    {phase : Phase} {left more : Nat} (h : p.Completes row presentation post phase left)
    (hf : ∀ phase a, post phase a → (f a).Completes row presentation post' phase more) :
    (p >>= f).Completes row presentation post' phase (left + more) := by
  induction p generalizing phase left with
  | finish outcome =>
    cases outcome with
    | done a => exact (hf phase a h).mono (by omega)
    | failed | aborted => cases h
  | request r next ih =>
    obtain ⟨hleft, hasks, hnext⟩ := h
    refine ⟨by omega, hasks, fun reply phase' heard => ?_⟩
    have hrest := ih reply (hnext reply phase' heard)
    exact hrest.mono (by omega)

/-- Goes on after a unit of work of the store. -/
theorem completes_store_bind {call : StoreCall} {f : call.Answer → Program α} {phase : Phase}
    {left : Nat} (asks : phase.Asks row presentation (.store call))
    (heard : ∀ answer phase', phase.Hears row (.store call) (.ok answer) phase' →
      (f answer).Completes row presentation post phase' left) :
    (store call >>= f).Completes row presentation post phase (left + 1) := by
  refine ⟨Nat.succ_pos left, asks, fun reply phase' hreply => ?_⟩
  cases reply with
  | ok answer => exact heard answer phase' hreply
  | error e => cases hreply

theorem completes_log_bind {event : Event} {f : Unit → Program α} {phase : Phase} {left : Nat}
    (h : (f ()).Completes row presentation post phase left) :
    (log event >>= f).Completes row presentation post phase (left + 1) := by
  refine ⟨Nat.succ_pos left, by cases phase <;> trivial, fun _ _ heard => ?_⟩
  cases heard
  exact h

theorem completes_now_bind {clock : Clock} {now : Instant} {f : Instant → Program α} {phase : Phase}
    {left : Nat} (shown : clock.now = .ok now)
    (h : (f now).Completes row presentation post phase left) :
    (Program.now clock >>= f).Completes row presentation post phase left := by
  rw [now_bind shown]
  exact h

end Program

/-! ## 3. Rotations -/

namespace Service

open Program

variable {row : Row} {policy : Policy} {token : String} {clock : Clock} {presentation : StoreCall}

theorem consume_completes (asks : presentation = .consume (hashOf token) clock policy) :
    (consume policy token clock).Completes row presentation (fun phase consumed =>
      phase = .holding ∧ consumed.id = row.id ∧ consumed.subject = row.subject ∧
        consumed.family = row.family) .presenting 3 := by
  refine completes_log_bind ?_
  refine completes_store_bind asks.symm fun answer phase' heard => ?_
  cases heard with
  | accepted same =>
    refine completes_log_bind ?_
    exact ⟨rfl, same.id, same.subject, same.family⟩

theorem issue_completes {now expiry : Instant} (named : Text.isBlank row.subject = false)
    (expires : policy.expiresAt? now = some expiry) :
    (issue policy row.subject (some row.family) now).Completes row presentation (fun phase issued =>
      ∃ new, phase = .pending new ∧ issued.id = new.id ∧ issued.family = row.family)
      .holding 5 := by
  unfold issue
  refine completes_log_bind ?_
  rw [named]
  refine ⟨by omega, trivial, fun secret _ heard => ?_⟩
  cases heard
  refine ⟨by omega, trivial, fun id _ heard => ?_⟩
  cases heard
  rw [expires]
  refine ⟨by omega, ⟨rfl, rfl, secret.token, rfl⟩, fun reply _ heard => ?_⟩
  cases heard with
  | @added _ new family =>
    refine completes_log_bind ?_
    exact ⟨new, rfl, rfl, family⟩

/-- **A rotation completes** within ten requests, and returns the successor that it linked. -/
theorem rotate_completes {now expiry : Instant} (shown : clock.now = .ok now)
    (asks : presentation = .consume (hashOf token) clock policy)
    (named : Text.isBlank row.subject = false) (expires : policy.expiresAt? now = some expiry) :
    (rotate policy token clock).Completes row presentation (fun phase rotated =>
      ∃ new, phase = .linked new ∧ rotated.issued.id = new.id ∧ rotated.issued.family = row.family ∧
        rotated.subject = row.subject ∧ rotated.previousId = row.id) .presenting 10 := by
  change (rotate policy token clock).Completes _ _ _ _ (3 + (5 + 2))
  refine completes_bind (consume_completes asks) ?_
  rintro _ consumed ⟨rfl, hid, hsubject, hfamily⟩
  refine completes_now_bind shown ?_
  rw [hsubject, hfamily]
  refine completes_bind (issue_completes named expires) ?_
  rintro _ issued ⟨new, rfl, hnew, hissued⟩
  refine completes_store_bind ⟨hid, hnew⟩ fun linked _ heard => ?_
  cases heard with
  | answered linked =>
    cases linked with
    | true => exact ⟨new, rfl, hnew, hissued, rfl, hid⟩
    | false =>
      refine completes_log_bind ?_
      exact ⟨new, rfl, hnew, hissued, rfl, hid⟩

end Service

end TokenRotation

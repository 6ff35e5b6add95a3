import TokenRotation.Clock
import TokenRotation.Draws
import TokenRotation.Store.Call

/-!
# Programs

What an operation does is written down as a program: a tree of requests, each with a continuation
for every reply it may get. The store, the chance and the log are met only through requests, so the
same program can be run alone to its end (`Program.run`) or a request at a time among others
(`Program.advance`).

* `bind_assoc` and its neighbours -- programs in sequence are a lawful monad;
* `run_bind` -- running two programs in sequence is running one after the other.
-/

namespace TokenRotation

/-! ## 1. Requests and programs -/

/-- What a program can ask for. -/
inductive Request
  /-- One unit of work of the store. -/
  | store (call : StoreCall)
  /-- A fresh secret. -/
  | secret
  /-- A fresh identifier. -/
  | uuid
  /-- An entry in the log. -/
  | log (event : Event)
deriving DecidableEq, Repr

/-- The type of the reply to a request. A failure of the store is a reply; work broken off in the
    store is not, it ends the program. -/
abbrev Request.Reply : Request → Type
  | .store call => Except Failure call.Answer
  | .secret => Secret
  | .uuid => Uuid
  | .log _ => Unit

/-- A tree of requests that ends in an outcome. -/
inductive Program (α : Type) : Type
  | finish (outcome : Outcome α)
  | request (r : Request) (next : r.Reply → Program α)

namespace Program

variable {α β γ : Type}

/-- Goes on with the value of a program; one that failed or was broken off ends both. -/
def bind : Program α → (α → Program β) → Program β
  | .finish (.done a), f => f a
  | .finish (.failed e), _ => .finish (.failed e)
  | .finish (.aborted cause), _ => .finish (.aborted cause)
  | .request r next, f => .request r fun reply => (next reply).bind f

instance : Monad Program where
  pure a := .finish (.done a)
  bind := Program.bind

/-- Ends in a failure. -/
def fail (failure : Failure) : Program α := .finish (.failed failure)

/-- Goes on with a date, if the calendar holds it. -/
def ofDate? : Option Instant → Program Instant
  | some t => pure t
  | none => .finish (.aborted .overflow)

/-- Reads a clock. -/
def now (clock : Clock) : Program Instant :=
  match clock.now with
  | .ok t => pure t
  | .error cause => .finish (.aborted cause)

/-- One unit of work of the store, its failure handed back as a value. -/
def tryStore (call : StoreCall) : Program (Except Failure call.Answer) :=
  .request (.store call) fun reply => pure reply

/-- One unit of work of the store; its failure ends the program. -/
def store (call : StoreCall) : Program call.Answer :=
  .request (.store call) fun
    | .ok answer => pure answer
    | .error failure => fail failure

/-- A fresh secret. -/
def secret : Program Secret := .request .secret fun s => pure s

/-- A fresh identifier. -/
def uuid : Program Uuid := .request .uuid fun u => pure u

/-- An entry in the log. -/
def log (event : Event) : Program Unit := .request (.log event) fun _ => pure ()

/-- The program with its failure handed back as a value. -/
def attempt : Program α → Program (Except Failure α)
  | .finish (.done a) => .finish (.done (.ok a))
  | .finish (.failed e) => .finish (.done (.error e))
  | .finish (.aborted cause) => .finish (.aborted cause)
  | .request r next => .request r fun reply => (next reply).attempt

/-! ## 2. The world of a program -/

/-- What a program's requests are answered from. -/
structure World (σ : Type) where
  store : σ
  draws : Draws
  log : List Event := []

variable {σ : Type} [TokenStore σ]

/-- Answers one request: the reply, or why the program is broken off with it. -/
def answer (w : World σ) : (r : Request) → Except Abort r.Reply × World σ
  | .store call =>
    let done := TokenStore.perform w.store call
    let w := { w with store := done.store, log := w.log ++ done.events }
    match done.outcome with
    | .done value => (.ok (.ok value), w)
    | .failed failure => (.ok (.error failure), w)
    | .aborted cause => (.error cause, w)
  | .secret => (.ok w.draws.secret.1, { w with draws := w.draws.secret.2 })
  | .uuid => (.ok w.draws.uuid.1, { w with draws := w.draws.uuid.2 })
  | .log event => (.ok (), { w with log := w.log ++ [event] })

/-- Runs a program to its end. -/
def run : Program α → World σ → Outcome α × World σ
  | .finish outcome, w => (outcome, w)
  | .request r next, w =>
    match answer w r with
    | (.ok reply, w) => (next reply).run w
    | (.error cause, w) => (.aborted cause, w)

/-- Has one request answered; a finished program stays as it is. -/
def advance : Program α → World σ → Program α × World σ
  | .finish outcome, w => (.finish outcome, w)
  | .request r next, w =>
    match answer w r with
    | (.ok reply, w) => (next reply, w)
    | (.error cause, w) => (.finish (.aborted cause), w)

/-! ## 3. Laws -/

theorem bind_pure (p : Program α) : p.bind (fun a => .finish (.done a)) = p := by
  induction p with
  | finish outcome => cases outcome <;> rfl
  | request r next ih => exact congrArg (request r) (funext ih)

theorem bind_assoc (p : Program α) (f : α → Program β) (g : β → Program γ) :
    (p.bind f).bind g = p.bind fun a => (f a).bind g := by
  induction p with
  | finish outcome => cases outcome <;> rfl
  | request r next ih => exact congrArg (request r) (funext ih)

instance : LawfulMonad Program := LawfulMonad.mk' Program bind_pure (fun _ _ => rfl) bind_assoc

@[simp] theorem run_finish (o : Outcome α) (w : World σ) : (finish o).run w = (o, w) := rfl

@[simp] theorem run_pure (a : α) (w : World σ) : (pure a : Program α).run w = (.done a, w) := rfl

theorem run_bind (p : Program α) (f : α → Program β) (w : World σ) :
    (p >>= f).run w =
      match p.run w with
      | (.done a, w) => (f a).run w
      | (.failed e, w) => (.failed e, w)
      | (.aborted cause, w) => (.aborted cause, w) := by
  induction p generalizing w with
  | finish outcome => cases outcome <;> rfl
  | request r next ih =>
    show ((request r next).bind f).run w = _
    simp only [bind, run]
    split
    · next reply w' heq => exact ih reply w'
    · rfl

theorem run_log_bind (event : Event) (f : Unit → Program α) (w : World σ) :
    (log event >>= f).run w = (f ()).run { w with log := w.log ++ [event] } := rfl

theorem run_attempt (p : Program α) (w : World σ) :
    p.attempt.run w =
      match p.run w with
      | (.done a, w) => (.done (.ok a), w)
      | (.failed e, w) => (.done (.error e), w)
      | (.aborted cause, w) => (.aborted cause, w) := by
  induction p generalizing w with
  | finish outcome => cases outcome <;> rfl
  | request r next ih =>
    simp only [attempt, run]
    split
    · next reply w' heq => exact ih reply w'
    · rfl

end Program

end TokenRotation

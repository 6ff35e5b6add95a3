import TokenRotation.Clock
import TokenRotation.Store.Durable.Trouble

/-!
# The wire to a database

Every statement travels over a wire. The wire is opened by the first statement and stays open; a
server that cannot be reached answers nothing. Faults wait on the wire in a queue: the first one is
taken by the first statement it strikes, which then fails.

An attempt is a piece of work over the wire. It does not touch a table: what it would change is part
of its result, so an attempt that fails has changed nothing.
-/

namespace TokenRotation.Store

/-! ## 1. Statements and faults -/

/-- The statements by their first keyword. -/
inductive Statement
  | begin
  | select
  | insert
  | update
  | commit
  | rollback
deriving DecidableEq, Repr

/-- What a fault waits for. -/
inductive FaultTarget
  | statement (s : Statement)
  /-- The opening of the wire. -/
  | opening
  /-- Whatever comes first. -/
  | anything
deriving DecidableEq, Repr

/-- A failure that waits on the wire. -/
structure Fault where
  target : FaultTarget
  state : String
  constraint : Option String := none
  notice : Notice := {}
deriving DecidableEq, Repr

namespace Fault

/-- The error a fault makes of what it strikes. -/
def error (f : Fault) : DatabaseError := .rejected f.state f.constraint f.notice

/-- The fault strikes a statement. -/
def strikes (f : Fault) (s : Statement) : Bool :=
  f.target = .statement s || f.target = .anything

/-- The fault strikes the opening of the wire. -/
def strikesOpening (f : Fault) : Bool := f.target = .opening || f.target = .anything

end Fault

/-- What is said at the other end of a wire. -/
structure Server where
  /-- What the server says when it refuses a statement with some texts: with a state, and over a
      constraint if there is one. -/
  refusal (state : String) (constraint : Option String) (s : Statement) (texts : List String) :
    Notice := {}
  /-- What is said where no server answers. -/
  silence : Notice := {}

/-- The state of a wire. -/
structure Wire where
  /-- A server answers at the other end. -/
  reachable : Bool
  isOpen : Bool := false
  faults : List Fault := []
  server : Server := {}

/-! ## 2. Attempts -/

/-- Why an attempt gave up. -/
inductive Trouble
  | database (e : DatabaseError)
  /-- The work was broken off. -/
  | aborted (cause : Abort)
deriving DecidableEq, Repr

/-- Work over a wire, which ends in a value or in trouble. -/
def Attempt (α : Type) : Type := Wire → Except Trouble α × Wire

namespace Attempt

instance : Monad Attempt where
  pure a := fun wire => (.ok a, wire)
  bind x f := fun wire =>
    match x wire with
    | (.ok a, wire) => f a wire
    | (.error e, wire) => (.error e, wire)

/-- Gives up. -/
def giveUp {α : Type} (t : Trouble) : Attempt α := fun wire => (.error t, wire)

/-- Has a statement with its texts refused by the server. -/
def refuse {α : Type} (state : String) (constraint : Option String) (s : Statement)
    (texts : List String := []) : Attempt α := fun wire =>
  (.error (.database
    (.rejected state constraint (wire.server.refusal state constraint s texts))), wire)

/-- Reads a clock. -/
def now (clock : Clock) : Attempt Instant :=
  match clock.now with
  | .ok t => pure t
  | .error cause => giveUp (.aborted cause)

/-- Opens the wire if it is not open yet. -/
def openWire : Attempt Unit := fun wire =>
  if wire.isOpen then (.ok (), wire)
  else if !wire.reachable then (.error (.database (.broken wire.server.silence)), wire)
  else
    match wire.faults with
    | fault :: rest =>
      if fault.strikesOpening then (.error (.database fault.error), { wire with faults := rest })
      else (.ok (), { wire with isOpen := true })
    | [] => (.ok (), { wire with isOpen := true })

/-- Has a statement received with its text parameters: a text with the character U+0000 is
    refused. -/
def receive (s : Statement) (texts : List String) : Attempt Unit :=
  if texts.any fun text => text.toList.contains '\x00' then refuse unkeepableText none s texts
  else pure ()

/-- Sends a statement with its text parameters over the open wire: it is received, unless the first
    fault strikes it. -/
def sendOpen (s : Statement) (texts : List String) : Attempt Unit := fun wire =>
  match wire.faults with
  | fault :: rest =>
    if fault.strikes s then (.error (.database fault.error), { wire with faults := rest })
    else receive s texts wire
  | [] => receive s texts wire

/-- Sends a statement, opening the wire for it where necessary. -/
def send (s : Statement) (texts : List String := []) : Attempt Unit := do
  openWire
  sendOpen s texts

end Attempt

end TokenRotation.Store

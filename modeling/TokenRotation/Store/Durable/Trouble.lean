import TokenRotation.Event
import TokenRotation.Failure

/-!
# Trouble with a database

What a database answers instead of a result, and which failure a caller is told for it. A server
names the cause of a refused statement by a state of five letters and, where a constraint was
broken, by the name of the constraint. What it says beyond that is for the log alone.
-/

namespace TokenRotation.Store

/-! ## 1. Constraints -/

/-- The kinds of constraint that a statement can break. -/
inductive Violation
  | unique
  | foreignKey
  | check
  | notNull
  /-- No constraint at all: the statement was refused for another cause. -/
  | other
deriving DecidableEq, Repr

namespace Violation

/-- A state that a server reports for a violation. -/
def state : Violation → String
  | .unique => "23505"
  | .foreignKey => "23503"
  | .check => "23514"
  | .notNull => "23502"
  | .other => "XX000"

/-- The violation that a state reports. -/
def ofState (state : String) : Violation :=
  if state = "23505" then .unique
  else if state = "23503" then .foreignKey
  else if state = "23514" then .check
  else if state = "23502" then .notNull
  else .other

theorem ofState_state (v : Violation) : ofState v.state = v := by
  cases v <;> rfl

end Violation

/-- The name of the constraint that no two rows have one hash. -/
def hashConstraint : String := "auth_refresh_token_token_hash_key"

/-- The name of the constraint that no two rows have one identifier. -/
def idConstraint : String := "auth_refresh_token_pkey"

/-- The name of the constraint that a linked successor is a row of the table. -/
def successorConstraint : String := "auth_refresh_token_replaced_by_fkey"

/-- The name of the constraint that a hash has 64 characters. -/
def hashLengthConstraint : String := "auth_refresh_token_hash_len"

/-- The state of a text that holds a character the database cannot keep. -/
def unkeepableText : String := "22021"

/-- A transaction was chosen to end a deadlock, or could not be ordered among the others. -/
def isLockState (state : String) : Bool := state = "40P01" || state = "40001"

/-! ## 2. Errors and the failures they become -/

/-- What is said about an error: a sentence, and all that is known about it. -/
structure Notice where
  sentence : String := ""
  details : String := ""
deriving DecidableEq, Repr

/-- Why a database did not carry out a statement. -/
inductive DatabaseError
  /-- The statement has no row to answer with. -/
  | rowNotFound
  /-- No connection became free in time. -/
  | poolTimedOut
  /-- The server refused the statement, and says why. -/
  | rejected (state : String) (constraint : Option String) (notice : Notice)
  /-- The statement did not reach the server, or its answer could not be read. -/
  | broken (notice : Notice)
deriving DecidableEq, Repr

namespace DatabaseError

/-- The transaction lost a conflict over locks, and may be run again. -/
def isLockConflict : DatabaseError → Bool
  | .rejected state _ _ => isLockState state
  | _ => false

/-- What is said about the error. -/
def notice : DatabaseError → Notice
  | .rowNotFound =>
    ⟨"no rows returned by a query that expected to return at least one row", "RowNotFound"⟩
  | .poolTimedOut => ⟨"pool timed out while waiting for an open connection", "PoolTimedOut"⟩
  | .rejected _ _ notice | .broken notice => notice

/-- What a caller is told. Details of the database stay out of it. -/
def failure : DatabaseError → Failure
  | .rowNotFound => .notFound
  | .poolTimedOut => .database "Database unavailable"
  | .rejected state _ _ =>
    match Violation.ofState state with
    | .unique => .invalidInput "A record with this value already exists"
    | .foreignKey => .invalidInput "Referenced record not found"
    | .check => .invalidInput "Value violates a table constraint"
    | .notNull | .other => .database "Database operation failed"
  | .broken _ => .database "Database operation failed"

/-- What the log is told, with all that is known: only what the caller cannot be told in full. -/
def events (e : DatabaseError) : List Event :=
  match e, e.failure with
  | .poolTimedOut, _ => [.databaseExhausted e.notice.details]
  | _, .database _ => [.databaseFailed e.notice.details]
  | _, _ => []

/-- What a caller is told when an insertion fails: a taken hash is worth a second try. -/
def insertFailure (e : DatabaseError) : Failure :=
  match e with
  | .rejected state (some constraint) _ =>
    if Violation.ofState state = .unique ∧ constraint = hashConstraint then .hashCollision
    else e.failure
  | _ => e.failure

/-- **A caller is told of invalid input exactly where a constraint was broken.** -/
theorem failure_eq_invalidInput_iff {e : DatabaseError} :
    (∃ detail, e.failure = .invalidInput detail) ↔ ∃ state constraint notice,
      e = .rejected state constraint notice ∧
        Violation.ofState state ∈ [.unique, .foreignKey, .check] := by
  cases e with
  | rejected state constraint notice =>
    cases violation : Violation.ofState state <;> simp [failure, violation]
  | rowNotFound | poolTimedOut | broken => simp [failure]

/-- An error does not lead to a collision by itself. -/
theorem failure_ne_hashCollision (e : DatabaseError) : e.failure ≠ .hashCollision := by
  cases e with
  | rejected state constraint notice =>
    simp only [failure]
    split <;> simp
  | _ => simp [failure]

end DatabaseError

end TokenRotation.Store

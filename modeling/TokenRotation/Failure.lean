import TokenRotation.Time.Units

/-!
# Refusals and failures

A refusal says why a presented token is not accepted; it is one of the failures an operation can
end in. A failure is told to the caller; work that is broken off ends for its caller too. Each has
one wording.
-/

namespace TokenRotation

/-! ## 1. Refusals -/

/-- Why a presented token is refused. None of these is worth a second try: the holder has to log in
    again. -/
inductive Refusal
  /-- No row has the hash of the token. -/
  | unknown
  /-- The token has outlived its lifetime. -/
  | expired
  /-- The token was revoked. -/
  | revoked
  /-- The token was presented again after its grace window; its family is revoked by now. -/
  | reused
deriving DecidableEq, Repr

namespace Refusal

/-- The short code of a refusal. -/
def code : Refusal → String
  | .unknown => "invalid_token"
  | .expired => "expired"
  | .revoked => "revoked"
  | .reused => "reuse_detected"

/-- A refusal in a sentence. -/
def message : Refusal → String
  | .unknown => "Refresh token not recognized"
  | .expired => "Refresh token expired"
  | .revoked => "Refresh token revoked"
  | .reused => "Refresh token reused after rotation"

/-- All refusals. -/
def all : List Refusal := [.unknown, .expired, .revoked, .reused]

/-- The refusal with a short code. -/
def ofCode? (text : String) : Option Refusal := all.find? fun r => r.code = text

theorem ofCode?_code (r : Refusal) : ofCode? r.code = some r := by
  cases r <;> rfl

end Refusal

/-! ## 2. Failures -/

/-- How an operation fails. -/
inductive Failure
  /-- The database did not carry out its part. -/
  | database (detail : String)
  /-- The caller's input cannot be worked with. -/
  | invalidInput (detail : String)
  /-- What the operation needs does not exist. -/
  | notFound
  /-- The hash of a fresh secret is taken already. A new secret may be tried. -/
  | hashCollision
  /-- The presented token is refused. -/
  | refused (reason : Refusal)
deriving DecidableEq, Repr

namespace Failure

/-- A failure in a sentence. -/
def message : Failure → String
  | .database detail => "Database error: " ++ detail
  | .invalidInput detail => "Invalid input: " ++ detail
  | .notFound => "Not found"
  | .hashCollision => "Refresh token hash collision"
  | .refused reason => reason.message

/-- The reason of a refusal, and nothing for another failure. -/
def refusal? : Failure → Option Refusal
  | .refused reason => some reason
  | _ => none

end Failure

/-! ## 3. Work broken off -/

/-- Why work is broken off, with all that was to come after it. -/
inductive Abort
  /-- A date was needed that the calendar does not hold. -/
  | overflow
  /-- The clock of the system was read while it was set to a time before the beginning of its
      count, by that much. -/
  | clockBehind (lag : Duration)
  /-- The store is behind a lock under which other work was broken off. -/
  | poisoned
deriving DecidableEq, Repr

/-- What is told of work broken off. -/
def Abort.message : Abort → String
  | .overflow => "\x60NaiveDateTime + TimeDelta\x60 overflowed"
  | .clockBehind lag => "system time before Unix epoch: SystemTimeError(" ++ lag.lengthText ++ ")"
  | .poisoned =>
    "called \x60Result::unwrap()\x60 on an \x60Err\x60 value: PoisonError \x7b .. \x7d"

/-! ## 4. Outcomes -/

/-- How an operation ends: with its value, with a failure that its caller is told, or broken off. -/
inductive Outcome (α : Type)
  | done (value : α)
  | failed (failure : Failure)
  | aborted (cause : Abort)
deriving DecidableEq, Repr

namespace Outcome

variable {α β : Type}

/-- The work was broken off. -/
def isAborted : Outcome α → Bool
  | .aborted _ => true
  | _ => false

/-- An outcome with a value made of its value. -/
def map (f : α → β) : Outcome α → Outcome β
  | .done a => .done (f a)
  | .failed failure => .failed failure
  | .aborted cause => .aborted cause

theorem isAborted_iff {outcome : Outcome α} :
    outcome.isAborted ↔ ∃ cause, outcome = .aborted cause := by
  cases outcome <;> simp [isAborted]

end Outcome

end TokenRotation

import TokenRotation.Clock
import TokenRotation.Text.Quoted
import TokenRotation.Token.Status
import TokenRotation.Uuid

/-!
# Events of the log

What the operations report while they run. An event is kept as what it reports; its level, its
message and its named fields are read off it. No event is made of the text or the hash of a token;
but what a database says about its errors is in the log as it was said.
-/

namespace TokenRotation

/-- How a presentation was accepted. -/
inductive ConsumeKind
  /-- The first presentation of the token. -/
  | first
  /-- A duplicate inside the grace window. -/
  | grace
deriving DecidableEq, Repr

/-- A kind of acceptance as a word. -/
def ConsumeKind.text : ConsumeKind → String
  | .first => "first"
  | .grace => "grace"

/-- The units of work that are run again after a lock conflict. -/
inductive LockedWork
  | consume
  | revokeFamily
  | revokeSubject
deriving DecidableEq, Repr

/-- A repeatable unit of work by its name. -/
def LockedWork.text : LockedWork → String
  | .consume => "consume"
  | .revokeFamily => "revoke_family"
  | .revokeSubject => "revoke_subject"

/-- How serious an event is. -/
inductive Level
  | error
  | warn
  | info
  | debug
deriving DecidableEq, Repr

/-- A level as a word. -/
def Level.text : Level → String
  | .error => "ERROR"
  | .warn => "WARN"
  | .info => "INFO"
  | .debug => "DEBUG"

/-- An operation and what it tells of its arguments, which stands with every event up to its end.
    It tells neither the token that is presented nor the subject. -/
inductive Span
  | issue (family : Option Uuid) (now : Instant)
  | consume (clock : Clock)
  | revokeFamily (family : Uuid) (now : Instant)
  | revokeSubject
deriving DecidableEq, Repr

/-- One event of the log. -/
inductive Event
  /-- An operation begins. -/
  | entered (span : Span)
  | issued (family token : Uuid)
  | issueCollided (attempt : Nat)
  | unknownPresented
  | refused (reason : Refusal)
  | consumed (family token : Uuid) (kind : ConsumeKind)
  | reuseDetected (family token : Uuid) (revokedRows : Nat)
  | familyRevoked (family : Uuid) (revokedRows : Nat)
  | subjectRevoked (revokedRows : Nat)
  | alreadyLinked (token successor : Uuid)
  | logoutAccepted (family token : Uuid) (status : Status)
  | lockConflict (work : LockedWork) (attempt : Nat) (error : String)
  | databaseFailed (error : String)
  | databaseExhausted (error : String)
  | connected
  | requestRefused (reason : Refusal)
  | requestFailed (failure : Failure)
deriving DecidableEq, Repr

/-- The value of a field of an event. -/
inductive FieldValue
  | text (value : String)
  | count (value : Nat)
  | instant (value : Instant)
  | clock (value : Clock)
deriving DecidableEq, Repr

/-- A failure as the log shows it: its kind, and its detail in quotes. -/
def Failure.logText : Failure → String
  | .database detail => "Database(" ++ Text.Quoted.text detail ++ ")"
  | .invalidInput detail => "InvalidInput(" ++ Text.Quoted.text detail ++ ")"
  | .notFound => "NotFound"
  | .hashCollision => "TokenHashCollision"
  | .refused .unknown => "RefreshToken(InvalidToken)"
  | .refused .expired => "RefreshToken(Expired)"
  | .refused .revoked => "RefreshToken(Revoked)"
  | .refused .reused => "RefreshToken(ReuseDetected)"

namespace Span

/-- The name of an operation. -/
def name : Span → String
  | .issue .. => "issue_token_at"
  | .consume _ => "consume_with"
  | .revokeFamily .. => "revoke_family_at"
  | .revokeSubject => "revoke_subject"

/-- The named fields of an operation. -/
def fields : Span → List (String × FieldValue)
  | .issue family now =>
    [("family_id", .text (family.elim "None" fun f => "Some(" ++ f.text ++ ")")),
      ("now", .instant now)]
  | .consume clock => [("clock", .clock clock)]
  | .revokeFamily family now => [("family_id", .text family.text), ("now", .instant now)]
  | .revokeSubject => []

end Span

namespace Event

/-- How serious an event is. -/
def level : Event → Level
  | .databaseFailed _ | .databaseExhausted _ | .requestFailed _ => .error
  | .issueCollided _ | .reuseDetected .. | .lockConflict .. => .warn
  | .entered _ | .issued .. | .refused _ | .familyRevoked .. | .subjectRevoked _ | .connected
  | .requestRefused _ => .info
  | .unknownPresented | .consumed .. | .alreadyLinked .. | .logoutAccepted .. => .debug

/-- The sentence of an event. -/
def message : Event → String
  | .entered span => span.name
  | .issued .. => "Issued refresh token"
  | .issueCollided _ => "Refresh token hash collision, regenerating"
  | .unknownPresented => "Unknown refresh token presented"
  | .refused _ => "Refresh token refused"
  | .consumed .. => "Refresh token consumed"
  | .reuseDetected .. => "Refresh token reuse detected - revoked token family"
  | .familyRevoked .. => "Revoked token family"
  | .subjectRevoked _ => "Revoked all refresh tokens of subject"
  | .alreadyLinked .. => "Predecessor already linked to an earlier successor"
  | .logoutAccepted .. => "Logout token accepted"
  | .lockConflict .. => "Lock conflict, retrying"
  | .databaseFailed _ => "Database error"
  | .databaseExhausted _ => "Database pool exhausted"
  | .connected => "Connected to database!"
  | .requestRefused _ => "Request not authenticated"
  | .requestFailed _ => "Request failed"

/-- The named fields of an event. -/
def fields : Event → List (String × FieldValue)
  | .entered span => span.fields
  | .issued family token => [("family_id", .text family.text), ("token_id", .text token.text)]
  | .issueCollided attempt => [("attempt", .count attempt)]
  | .refused reason => [("reason", .text reason.code)]
  | .consumed family token kind =>
    [("family_id", .text family.text), ("token_id", .text token.text), ("kind", .text kind.text)]
  | .reuseDetected family token revokedRows =>
    [("event_type", .text "REFRESH_TOKEN_REUSE"), ("family_id", .text family.text),
      ("token_id", .text token.text), ("revoked_rows", .count revokedRows)]
  | .familyRevoked family revokedRows =>
    [("family_id", .text family.text), ("revoked_rows", .count revokedRows)]
  | .subjectRevoked revokedRows => [("revoked_rows", .count revokedRows)]
  | .alreadyLinked token successor =>
    [("token_id", .text token.text), ("successor_id", .text successor.text)]
  | .logoutAccepted family token status =>
    [("family_id", .text family.text), ("token_id", .text token.text),
      ("status", .text status.text)]
  | .lockConflict work attempt error =>
    [("operation", .text work.text), ("attempt", .count attempt), ("error", .text error)]
  | .databaseFailed error | .databaseExhausted error => [("error", .text error)]
  | .requestRefused reason => [("error", .text reason.message)]
  | .requestFailed failure => [("error", .text failure.logText)]
  | .unknownPresented | .connected => []

end Event

end TokenRotation

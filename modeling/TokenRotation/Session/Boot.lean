import TokenRotation.Session.Basic
import TokenRotation.Settings.DatabaseUrl

/-!
# Starting a service

A service is started from its environment: the settings are read, the address of the database is
read, room is made for its connections, the first of them is opened, and the allowed origin is
checked, in this order. The first that fails is told and nothing is served.

* `boot_unreachable` -- without a server nothing is started;
* `boot_noCapacity` -- without connections nothing is started, whether or not a server answers.
-/

namespace TokenRotation.Session

open Store

/-- Why a service did not start. -/
inductive BootFailure
  | settings (e : Settings.Error)
  /-- The database could not be connected, or its address is none. -/
  | unconnected
  /-- No connection to the database is allowed. -/
  | noCapacity
  /-- Credentials may not be allowed to every origin. -/
  | everyOrigin
deriving DecidableEq, Repr

namespace BootFailure

/-- A failure to start in a sentence. -/
def message : BootFailure → String
  | .settings e => e.message
  | .unconnected => "Postgres connection failed (check DATABASE_URL/password)"
  | .noCapacity => "capacity must be non-zero"
  | .everyOrigin =>
    "Invalid CORS configuration: Cannot combine \x60Access-Control-Allow-Credentials: true\x60 "
      ++ "with \x60Access-Control-Allow-Origin: *\x60"

end BootFailure

/-- The wire to a database, opened. -/
def connect (reachable : Bool) (faults : List Fault) : Except BootFailure Wire :=
  match Attempt.openWire { reachable, faults } with
  | (.ok (), wire) => .ok wire
  | (.error _, _) => .error .unconnected

/-- Starts a service on a database with some rows. `reaches` tells whether a server answers at an
    address. -/
def boot (env : Settings.Environment) (reaches : String → Bool) (faults : List Fault)
    (rows : Table) (draws : Draws) : Except BootFailure (Session × List Event) :=
  match Settings.read env with
  | .error e => .error (.settings e)
  | .ok settings =>
    if !Settings.DatabaseUrl.isUsable settings.databaseUrl then .error .unconnected
    else if settings.databaseMaxConnections = 0 then .error .noCapacity
    else
      match connect (reaches settings.databaseUrl) faults with
      | .error e => .error e
      | .ok wire =>
        if settings.corsOrigin.text = "*" then .error .everyOrigin
        else .ok ({ store := .durableOf rows wire, draws, settings }, [.connected])

/-- Without a server nothing is started. -/
theorem boot_unreachable (env : Settings.Environment) (faults : List Fault) (rows : Table)
    (draws : Draws) : ∃ e, boot env (fun _ => false) faults rows draws = .error e := by
  unfold boot
  split
  · exact ⟨_, rfl⟩
  · split
    · exact ⟨_, rfl⟩
    · split <;> exact ⟨_, rfl⟩

/-- Without connections nothing is started, whether or not a server answers. -/
theorem boot_noCapacity {env : Settings.Environment} {settings : Settings}
    (read : Settings.read env = .ok settings)
    (usable : Settings.DatabaseUrl.isUsable settings.databaseUrl = true)
    (none_allowed : settings.databaseMaxConnections = 0) (reaches : String → Bool)
    (faults : List Fault) (rows : Table) (draws : Draws) :
    boot env reaches faults rows draws = .error .noCapacity := by
  simp [boot, read, usable, none_allowed]

end TokenRotation.Session

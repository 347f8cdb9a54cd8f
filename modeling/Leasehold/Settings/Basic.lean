import Leasehold.Lock.Row
import Leasehold.Service.Basic

/-!
# Settings

What a user may set about locking, what follows from it, and when it is refused.
Where nothing is set, the heartbeat renews at a third of the usual lease, and the
grace of sweeps follows that lease too.
-/

namespace Leasehold

/-- The settings of locking. -/
structure LockSettings where
  /-- The path of the database, below the home directory unless it is absolute. -/
  database : Option String
  host : Option String
  /-- The usual lease, in seconds. -/
  defaultHold : UInt64
  /-- Seconds between renewals. -/
  heartbeat : Option UInt64
  waitBound : WaitBound
  /-- How long a busy database is waited for, in milliseconds. -/
  busyTimeout : UInt64
  purgeOnStart : Bool
  /-- How long rows are kept after their deadline, in seconds. -/
  purgeGrace : Option UInt64
  deriving DecidableEq

/-- The settings and the directory they belong to. -/
structure Settings where
  home : String
  locking : LockSettings
  deriving DecidableEq

/-- Why settings are refused. -/
inductive SettingsFlaw where
  | noHold
  | noHeartbeat
  | slowHeartbeat (interval hold : UInt64)
  | longHost
  deriving DecidableEq

/-- What is said of refused settings. -/
def SettingsFlaw.message : SettingsFlaw → String
  | noHold => "locking.default_hold_secs must be greater than zero"
  | noHeartbeat => "locking.heartbeat_interval_secs must be greater than zero"
  | slowHeartbeat i h =>
    "locking.heartbeat_interval_secs (" ++ toString i.toNat ++
      ") must be shorter than locking.default_hold_secs (" ++ toString h.toNat ++ ")"
  | longHost => "locking.host must be at most 128 characters"

namespace LockSettings

/-- The settings where nothing is set. -/
def standard : LockSettings where
  database := none
  host := none
  defaultHold := 60
  heartbeat := none
  waitBound := .standard
  busyTimeout := 5000
  purgeOnStart := true
  purgeGrace := none

instance : Inhabited LockSettings := ⟨standard⟩

/-- The usual lease. -/
def hold (s : LockSettings) : Span := Span.ofSeconds s.defaultHold

/-- The time between renewals: as set, or a third of the lease, and at least a second. -/
def heartbeatInterval (s : LockSettings) : Span :=
  (Span.ofSeconds (s.heartbeat.getD (s.defaultHold / 3))).longer (Span.ofSeconds 1)

/-- How long a busy database is waited for. -/
def busySpan (s : LockSettings) : Span := Span.ofMillis s.busyTimeout

/-- How long rows are kept after their deadline. -/
def grace (s : LockSettings) : Span :=
  match s.purgeGrace with
  | some n => Span.ofSeconds n
  | none => Leasehold.defaultGrace s.hold

/-- The name of the machine in rows. -/
def hostName (s : LockSettings) (machine : Option String) : String :=
  match s.host with
  | some h => if Text.isBlankString h then machine.getD "localhost" else h
  | none => machine.getD "localhost"

/-- The first flaw of the settings. -/
def flaw? (s : LockSettings) : Option SettingsFlaw :=
  let longHost? := if s.host.any (128 < ·.length) then some SettingsFlaw.longHost else none
  if s.defaultHold = 0 then some .noHold
  else
    match s.heartbeat with
    | some i =>
      if i = 0 then some .noHeartbeat
      else if s.defaultHold ≤ i then some (.slowHeartbeat i s.defaultHold)
      else longHost?
    | none => longHost?

/-- The settings without flaw, or the fault of the flaw. -/
def validate (s : LockSettings) : Except Fault Unit :=
  match s.flaw? with
  | some f => .error (.invalidSettings f.message)
  | none => .ok ()

/-- The variable that bounds waiting for all commands. -/
def boundVariable : String := "DISTLOCK_LOCK_TIMEOUT"

/-- The bound on waiting for the store. -/
def waitFor (s : LockSettings) (commandLine : Option String) (w : World) :
    Except Fault ResolvedBound :=
  (WaitBound.resolve commandLine (w.environmentValue boundVariable) s.waitBound .standard).mapError
    fun e => .invalidSettings e.message

end LockSettings

namespace Settings

/-- The path of the database. -/
def databasePath (s : Settings) : String := Path.join s.home (s.locking.database.getD "locks.db")

/-- The service of the settings on a machine, with a bound on waiting. -/
def service (s : Settings) (machine : Option String) (bound : WaitBound) : ServiceSettings where
  database := s.databasePath
  host := s.locking.hostName machine
  defaultHold := s.locking.hold
  heartbeatInterval := s.locking.heartbeatInterval
  waitBound := bound
  busyTimeout := s.locking.busySpan
  sweepOnStart := s.locking.purgeOnStart
  sweepGrace := s.locking.grace

end Settings

end Leasehold

import Leasehold.Json
import Leasehold.Settings.Field

/-!
# Settings as JSON

The JSON form of the settings of locking.  It is stricter than the file: every
field wants a value of its own kind, and only what may be left open may be null.
A list gives the fields in their order.
-/

namespace Leasehold

/-- Why a JSON value is no bound on waiting. -/
inductive NoBound where
  | otherKind
  | unreadable (text : UnreadableBound)
  deriving DecidableEq

namespace Json

/-- A whole number of 64 unsigned bits. -/
def toUnsigned? : Json → Option UInt64
  | .whole n => if 0 ≤ n ∧ n < Text.Digits.unsignedBound then some n.toNat.toUInt64 else none
  | _ => none

/-- A text. -/
def toText? : Json → Option String
  | .text t => some t
  | _ => none

/-- A truth value. -/
def toBool? : Json → Option Bool
  | .bool b => some b
  | _ => none

/-- A value that may be left open. -/
def optional {α : Type} (convert : Json → Option α) : Json → Option (Option α)
  | .null => some none
  | v => (convert v).map some

/-- A member with a standard value. -/
def field {α : Type} (ms : List (String × Json)) (name : String) (standard : α)
    (convert : Json → Option α) : Option α :=
  match member? name ms with
  | none => some standard
  | some v => convert v

/-- An unsigned number. -/
def ofUnsigned (n : UInt64) : Json := .whole n.toNat

end Json

namespace WaitBound

/-- The bound of a whole number of seconds or of a text. -/
def ofJson (v : Json) : Except NoBound WaitBound :=
  match v with
  | .text t => (parse t).mapError .unreadable
  | v =>
    match v.toUnsigned? with
    | some n => .ok (ofSeconds n)
    | none => .error .otherKind

/-- The whole seconds of a bound, or the word for none. -/
def toJson : WaitBound → Json
  | .finite s => .whole s.seconds
  | .infinite => .text "infinite"

end WaitBound

namespace LockSettings

/-- The settings of a record. -/
def ofRecord? (ms : List (String × Json)) : Option LockSettings := do
  let s := standard
  let database ← Json.field ms "database" s.database (Json.optional Json.toText?)
  let host ← Json.field ms "host" s.host (Json.optional Json.toText?)
  let defaultHold ← Json.field ms "default_hold_secs" s.defaultHold Json.toUnsigned?
  let heartbeat ←
    Json.field ms "heartbeat_interval_secs" s.heartbeat (Json.optional Json.toUnsigned?)
  let waitBound ←
    Json.field ms "lock_wait_timeout" s.waitBound fun v => (WaitBound.ofJson v).toOption
  let busyTimeout ← Json.field ms "busy_timeout_ms" s.busyTimeout Json.toUnsigned?
  let purgeOnStart ← Json.field ms "purge_on_start" s.purgeOnStart Json.toBool?
  let purgeGrace ← Json.field ms "purge_grace_secs" s.purgeGrace (Json.optional Json.toUnsigned?)
  some { database, host, defaultHold, heartbeat, waitBound, busyTimeout, purgeOnStart, purgeGrace }

/-- The settings of a JSON value. -/
def ofJson? : Json → Option LockSettings
  | .record ms => ofRecord? ms
  | .list l => if l.length ≤ fieldNames.length then ofRecord? (fieldNames.zip l) else none
  | _ => none

/-- The settings as a record, in which open fields are left out. -/
def toJson (s : LockSettings) : Json :=
  let open? (name : String) (v : Option Json) : List (String × Json) := (v.map ((name, ·))).toList
  .record (
    open? "database" (s.database.map .text) ++
    open? "host" (s.host.map .text) ++
    [("default_hold_secs", .ofUnsigned s.defaultHold)] ++
    open? "heartbeat_interval_secs" (s.heartbeat.map .ofUnsigned) ++
    [("lock_wait_timeout", s.waitBound.toJson), ("busy_timeout_ms", .ofUnsigned s.busyTimeout),
      ("purge_on_start", .bool s.purgeOnStart)] ++
    open? "purge_grace_secs" (s.purgeGrace.map .ofUnsigned))

end LockSettings

end Leasehold

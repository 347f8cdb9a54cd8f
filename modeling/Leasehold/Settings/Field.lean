import Leasehold.Decimal.Writer
import Leasehold.Settings.Basic
import Leasehold.Settings.Layer

/-!
# Fields of settings

What each field makes of a value.  Numbers, truth values and texts are taken for
one another where that makes sense; only the bound on waiting insists on a whole
number or a text.  A field that says nothing keeps its standard value.
-/

namespace Leasehold

namespace Setting

/-- Words that mean yes. -/
def yes : List String := ["true", "on", "yes"]

/-- Words that mean no. -/
def no : List String := ["false", "off", "no"]

/-- A whole number that is not negative. -/
def toUnsigned? : Setting → Option UInt64
  | .integer n => if 0 ≤ n then some n.toNat.toUInt64 else none
  | .bool b => some (if b then 1 else 0)
  | .real x => some x.toUnsigned
  | .text t =>
    if Text.isWordOf yes t then some 1
    else if Text.isWordOf no t then some 0
    else Text.Digits.unsigned? t
  | .absent | .list _ | .table _ => none

/-- A truth value. -/
def toBool? : Setting → Option Bool
  | .bool b => some b
  | .integer n => some (n ≠ 0)
  | .real x => some x.isNonzero
  | .text t =>
    if Text.isWordOf ("1" :: yes) t then some true
    else if Text.isWordOf ("0" :: no) t then some false
    else none
  | .absent | .list _ | .table _ => none

/-- A text. -/
def toText? : Setting → Option String
  | .text t => some t
  | .bool b => some (if b then "true" else "false")
  | .integer n => some (toString n)
  | .real x => some x.shortest
  | .absent | .list _ | .table _ => none

/-- A bound on waiting. -/
def toBound? : Setting → Option WaitBound
  | .integer n => if 0 ≤ n then some (.ofSeconds n.toNat.toUInt64) else none
  | .text t => (WaitBound.parse t).toOption
  | .absent | .real _ | .bool _ | .list _ | .table _ => none

/-- A field that may be left open. -/
def optional {α : Type} (convert : Setting → Option α) : Setting → Option (Option α)
  | .absent => some none
  | v => (convert v).map some

/-- A field with a standard value. -/
def field {α : Type} (ms : Toml.Members Setting) (name : String) (standard : α)
    (convert : Setting → Option α) : Option α :=
  match ms.get? name with
  | none => some standard
  | some v => convert v

end Setting

namespace LockSettings

/-- The fields in the order in which a list gives them. -/
def fieldNames : List String :=
  ["database", "host", "default_hold_secs", "heartbeat_interval_secs", "lock_wait_timeout",
    "busy_timeout_ms", "purge_on_start", "purge_grace_secs"]

/-- The settings of a table. -/
def ofMembers? (ms : Toml.Members Setting) : Option LockSettings := do
  let s := standard
  let database ← Setting.field ms "database" s.database (Setting.optional Setting.toText?)
  let host ← Setting.field ms "host" s.host (Setting.optional Setting.toText?)
  let defaultHold ← Setting.field ms "default_hold_secs" s.defaultHold Setting.toUnsigned?
  let heartbeat ←
    Setting.field ms "heartbeat_interval_secs" s.heartbeat (Setting.optional Setting.toUnsigned?)
  let waitBound ← Setting.field ms "lock_wait_timeout" s.waitBound Setting.toBound?
  let busyTimeout ← Setting.field ms "busy_timeout_ms" s.busyTimeout Setting.toUnsigned?
  let purgeOnStart ← Setting.field ms "purge_on_start" s.purgeOnStart Setting.toBool?
  let purgeGrace ←
    Setting.field ms "purge_grace_secs" s.purgeGrace (Setting.optional Setting.toUnsigned?)
  some { database, host, defaultHold, heartbeat, waitBound, busyTimeout, purgeOnStart, purgeGrace }

/-- The settings that a value stands for; a list gives the fields in their order. -/
def ofSetting? : Setting → Option LockSettings
  | .table ms => ofMembers? ms
  | .list l => ofMembers? (fieldNames.zip l)
  | _ => none

/-- The settings of locking in a tree, standard ones if it has none. -/
def ofTree? (tree : Setting) : Option LockSettings :=
  match tree.members.get? "locking" with
  | none => some standard
  | some v => ofSetting? v

end LockSettings

end Leasehold

import Leasehold.Settings.Field
import Leasehold.Toml.Document
import Leasehold.Toml.Writer

/-!
# The settings file

Where settings are kept, and how they get there and back.  Settings are read from
the file of their home directory, with the variables of the environment over it;
a missing file is an empty one.  `Settings.save` writes what is set, and nothing
of the environment.
-/

namespace Leasehold

/-- The variable that names the home directory of the settings. -/
def homeVariable : String := "DISTLOCK_HOME"

/-- The home directory of the settings: the one that is named, or one in the user's home. -/
def findHome (w : World) : Except Fault String :=
  match w.environmentValue homeVariable, w.environmentValue "HOME" with
  | some home, user =>
    if home.isEmpty then inUserHome user else .ok home
  | none, user => inUserHome user
where
  /-- The directory in the user's home. -/
  inUserHome : Option String → Except Fault String
    | some user =>
      if user.isEmpty then unknown else .ok (Path.join user ".distlock")
    | none => unknown
  /-- No home directory is known. -/
  unknown : Except Fault String :=
    .error (.configuration ("Unable to determine home directory; set " ++ homeVariable))

namespace LockSettings

/-- The entry of a field that is set. -/
def entryOf {α : Type} (name : String) (write : α → String) : Option α → List String
  | some v => [Toml.writeEntry name (write v)]
  | none => []

/-- All numbers that the settings write. -/
def numbers (s : LockSettings) : List Nat :=
  let bound := match s.waitBound with
    | .finite d => [d.seconds]
    | .infinite => []
  [s.defaultHold.toNat, s.busyTimeout.toNat] ++ bound ++ s.heartbeat.toList.map (·.toNat) ++
    s.purgeGrace.toList.map (·.toNat)

/-- The bound on waiting in a document. -/
def writeBound : WaitBound → String
  | .finite d => toString d.seconds
  | .infinite => Toml.writeString "infinite"

/-- The document of settings whose numbers are all within reach. -/
def writeDocument (s : LockSettings) : String :=
  let number (n : UInt64) := toString n.toNat
  "[locking]\n" ++ String.join (
    entryOf "database" Toml.writeString s.database ++
    entryOf "host" Toml.writeString s.host ++
    entryOf "default_hold_secs" number (some s.defaultHold) ++
    entryOf "heartbeat_interval_secs" number s.heartbeat ++
    entryOf "lock_wait_timeout" writeBound (some s.waitBound) ++
    entryOf "busy_timeout_ms" number (some s.busyTimeout) ++
    entryOf "purge_on_start" (fun b => if b then "true" else "false") (some s.purgeOnStart) ++
    entryOf "purge_grace_secs" number s.purgeGrace)

/-- The document of settings; none if a number is beyond what a document can say. -/
def document? (s : LockSettings) : Option String :=
  if s.numbers.all fun n => (n : Int) ≤ Text.Digits.signedMax then some s.writeDocument else none

end LockSettings

namespace Settings

/-- The settings where nothing is set. -/
def new (home : String) : Settings := ⟨home, .standard⟩

/-- The path of the file. -/
def path (home : String) : String := Path.join home "config.toml"

/-- The assignments of the file; none if it is no document.  A mark of the byte order that the
file begins with is not part of the document, which may begin with one of its own. -/
def fileLayer? (home : String) (d : Disk) : Option (List (String × Setting)) :=
  match d.readText (path home) with
  | .ok t =>
    let text := String.ofList (Toml.dropByteOrderMark t.toList)
    (Toml.document? text).map Setting.ofTomlMembers
  | .error _ => some []

/-- The settings of a file and an environment. -/
def ofLayers (home : String) (file : Option (List (String × Setting)))
    (environment : List (String × String)) : Except Fault Settings :=
  match file with
  | none => .error (.configuration "Failed to load config: the file is no TOML document")
  | some file =>
    match LockSettings.ofTree? (Setting.ofLayers (file ++ Setting.ofEnvironment environment)) with
    | none => .error (.configuration "Failed to parse config: a field has a value of another kind")
    | some locking => locking.validate.map fun () => ⟨home, locking⟩

/-- Reads the settings of a home directory. -/
def load (home : String) : StateM World (Except Fault Settings) := do
  let w ← get
  let shown := Text.quoted (path home)
  match w.disk.lookUp (path home) with
  | .ok _ => Journal.debug .settings ("Loading config from " ++ shown)
  | .error _ =>
    Journal.debug .settings ("Config file not found at " ++ shown ++ ", using defaults")
  return ofLayers home (fileLayer? home w.disk) w.environment

/-- Makes the directory of the file. -/
def makeHome (s : Settings) (d : Disk) : Except Fault Disk :=
  match Path.parent (path s.home) with
  | some above => (d.makeDirectories above).mapError fun f => .inputOutput f.message
  | none => .ok d

/-- Writes the settings to their file. -/
def save (s : Settings) : StateM World (Except Fault Unit) := do
  match s.makeHome (← get).disk with
  | .error f => return .error f
  | .ok disk =>
    modify fun w => { w with disk }
    match s.locking.document? with
    | none => return .error (.configuration "Failed to serialize config: a number is too large")
    | some text =>
      match disk.writeText (path s.home) text with
      | .error f => return .error (.inputOutput f.message)
      | .ok disk =>
        modify fun w => { w with disk }
        Journal.debug .settings ("Saved config to " ++ Text.quoted (path s.home))
        return .ok ()

end Settings

end Leasehold

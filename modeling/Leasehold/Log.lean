/-!
# Log records

What parts of the program note down while they work: a level, the part that
speaks, and a text.  `Journal` is anything that takes records; who reads them,
and from which level on, is decided elsewhere.
-/

namespace Leasehold

/-- The importance of a record. -/
inductive LogLevel where
  | error
  | warn
  | info
  | debug
  | trace
  deriving DecidableEq, Inhabited

namespace LogLevel

/-- The place of a level, the most important first. -/
def rank : LogLevel → Nat
  | error => 1
  | warn => 2
  | info => 3
  | debug => 4
  | trace => 5

/-- The name of a level. -/
def text : LogLevel → String
  | error => "ERROR"
  | warn => "WARN"
  | info => "INFO"
  | debug => "DEBUG"
  | trace => "TRACE"

/-- The level of that name, in any case. -/
def ofText? (s : String) : Option LogLevel :=
  [error, warn, info, debug, trace].find? fun l => l.text.toList = s.toList.map Char.toUpper

end LogLevel

/-- The part of the program that speaks, by which log filters choose. -/
inductive LogTopic where
  | settings
  | session
  | hold
  | store
  | client
  | sweep
  | heartbeat
  | worker
  | service
  | manager
  | guard
  | stop
  deriving DecidableEq, Inhabited

/-- The path of a topic in log filters. -/
def LogTopic.path : LogTopic → String
  | settings => "distlock::config"
  | session => "distlock::commands"
  | hold => "distlock::commands::hold"
  | store => "distlock::locking::store"
  | client => "distlock::locking::client"
  | sweep => "distlock::locking::hygiene"
  | heartbeat => "distlock::locking::heartbeat"
  | worker => "distlock::locking::future"
  | service => "distlock::locking::distributed"
  | manager => "distlock::locking::manager"
  | guard => "distlock::locking::guard"
  | stop => "distlock::locking::cancellation"

/-- One thing noted down. -/
structure LogRecord where
  level : LogLevel
  topic : LogTopic
  text : String
  deriving DecidableEq, Inhabited

/-- A state in which records can be noted down. -/
class Journal (ε : Type) where
  /-- The state after one more record. -/
  note : LogRecord → ε → ε

namespace Journal

variable {ε : Type} [Journal ε]

/-- Notes a record of a level. -/
def log (level : LogLevel) (topic : LogTopic) (text : String) : StateM ε Unit :=
  modify (note ⟨level, topic, text⟩)

/-- Notes something that went wrong. -/
def warn (topic : LogTopic) (text : String) : StateM ε Unit := log .warn topic text

/-- Notes something of interest. -/
def info (topic : LogTopic) (text : String) : StateM ε Unit := log .info topic text

/-- Notes a detail. -/
def debug (topic : LogTopic) (text : String) : StateM ε Unit := log .debug topic text

/-- Notes a detail of a detail. -/
def trace (topic : LogTopic) (text : String) : StateM ε Unit := log .trace topic text

end Journal

/-- A list of records takes records, the newest first. -/
instance : Journal (List LogRecord) := ⟨List.cons⟩

/-- The other half of a state is left alone. -/
instance {α β : Type} [Journal α] : Journal (α × β) := ⟨fun r s => (Journal.note r s.1, s.2)⟩

end Leasehold

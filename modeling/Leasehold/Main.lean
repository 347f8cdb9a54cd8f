import Leasehold.CommandLine.Basic
import Leasehold.Lock.Image
import Std.Time.DateTime.Timestamp

/-!
# The program

The process around a command: it reads arguments, environment and clocks, brings
the files that matter into a `World`, lets a step of the command happen there, and
carries what came of it back.  Nothing is decided here.

A step sees the files as they are at its start, and a guard file beside the
database keeps other processes out until its changes are written.  Between two
steps the process sleeps, and renews its locks when their time has come.  A
signal ends the process at once; what it held runs out.
-/

namespace Leasehold

namespace Process

/-! ## What a process finds -/

/-- The text of a file, if it can be read. -/
def readFile? (path : String) : IO (Option String) := do
  try
    return some (← IO.FS.readFile path)
  catch _ =>
    return none

/-- The first line of a file. -/
def firstLine? (path : String) : IO (Option String) := do
  return ((← readFile? path).map Text.lines).bind List.head?

/-- The variables of the process. -/
def environment : IO (List (String × String)) := do
  let entries := Text.splitAt '\x00' ((← readFile? "/proc/self/environ").getD "").toList
  return entries.filterMap fun entry =>
    match entry.dropWhile (· ≠ '=') with
    | _ :: value => some (String.ofList (entry.takeWhile (· ≠ '=')), String.ofList value)
    | [] => none

/-- What the clocks show. -/
def clock : IO Clock := do
  let now ← Std.Time.Timestamp.now
  return ⟨now.toNanosecondsSinceUnixEpoch.val, ← IO.monoNanosNow⟩

/-- The machine without its files. -/
def machine : IO World := do
  let w := World.new (← clock)
  return { w with
    environment := ← environment
    hostName := ← firstLine? "/proc/sys/kernel/hostname"
    identity := (← firstLine? "/proc/sys/kernel/random/uuid").getD (toString w.clock.uptime) }

/-! ## Files -/

/-- What a path leads to. -/
def node? (path : String) : IO (Option Node) := do
  let place := (← IO.currentDir) / path
  if ← place.isDir then return some .directory
  if !(← place.pathExists) then return none
  let text := (← readFile? path).getD "?"
  match Database.ofImage? text with
  | some db => return some (if text.isEmpty then .file text else .database db)
  | none => return some (.file text)

/-- A path and the directories above it, the outermost first. -/
def withParents (path : String) : List String :=
  let rec climb : Nat → String → List String
    | 0, p => [p]
    | n + 1, p =>
      match Path.parent p with
      | some above => if above.isEmpty then [p] else p :: climb n above
      | none => [p]
  (climb (Path.components path).length path).reverse

/-- What all these paths lead to. -/
def diskOf (paths : List String) : IO Disk := do
  let mut disk := Disk.empty
  for path in paths.flatMap withParents do
    if let some n ← node? path then disk := disk.put (Path.components path) n
  return disk

/-- Makes one path what it became. -/
def carryOut (path : String) : Node → IO Unit
  | .directory => IO.FS.createDirAll path
  | .file text => IO.FS.writeFile path text
  | .database db => IO.FS.writeFile path db.image

/-- Makes all these paths what they became. -/
def write (paths : List String) (before after : Disk) : IO Unit := do
  for path in paths.flatMap withParents do
    if let some n := after.node? (Path.components path) then
      if before.node? (Path.components path) ≠ some n then carryOut path n

/-- Does something while no other process uses the database. -/
def guarded {α : Type} (database : Option String) (act : IO α) : IO α := do
  match database.bind fun path => (Path.parent path).map fun above => (path, above) with
  | none => act
  | some (path, above) =>
    if ← ((← IO.currentDir) / above).isDir then
      IO.FS.withFile (path ++ ".guard") .append fun handle => do
        handle.lock
        try act finally handle.unlock
    else act

/-! ## Steps -/

/-- The files that a process works on, and what it shows of its log. -/
structure Scope where
  settingsFile : Option String
  database : Option String
  filter : LogFilter

/-- Shows what a step gave out. -/
def present (filter : LogFilter) (given : List Output) : IO Unit := do
  for o in given do
    IO.eprint (o.sideText filter)
    IO.print o.resultText
  (← IO.getStdout).flush

/-- Lets a step happen. -/
def step {α : Type} (scope : Scope) (w : World) (act : StateM World α) : IO (α × World) := do
  guarded scope.database do
    let paths := scope.settingsFile.toList ++ scope.database.toList
    let disk ← diskOf paths
    let (a, after) := act { w with clock := ← clock, disk, output := [] }
    write paths disk after.disk
    present scope.filter after.output.reverse
    return (a, { after with output := [] })

/-- Lets a step of a session happen. -/
def stepOf {α : Type} (scope : Scope) (s : Session) (act : StateM Session α) :
    IO (α × Session) := do
  let ((a, s), w) ← step scope s.world fun w =>
    let (a, s) := act (s.withWorld w)
    ((a, s), s.world)
  return (a, s.withWorld w)

/-- Renews the locks of a session if their time has come; `renewed` is when that was last. -/
def renew (scope : Scope) (renewed : Nat) (s : Session) : IO (Nat × Session) := do
  let now ← IO.monoNanosNow
  if now - renewed < s.settings.heartbeatInterval.nanos then return (renewed, s)
  return (now, (← stepOf scope s (Manager.outside Service.beat)).2)

/-- Goes on from a step to the end. -/
partial def follow (scope : Scope) (renewed : Nat) (s : Session) :
    Step → IO (Outcome Unit × Session)
  | .finished result => return (result, s)
  | .pause length next => do
    IO.sleep ((length.nanos + 999999) / 1000000).toUInt32
    let (renewed, s) ← renew scope renewed s
    let (following, s) ← stepOf scope s next.step
    follow scope renewed s following

/-- Runs a task. -/
def runTask (scope : Scope) (w : World) (settings : Settings) (bound : Option String) (t : Task) :
    IO (Outcome Unit) := do
  let prepared : StateM World (Outcome Session) := do
    t.prepare
    Session.openFor settings bound
  let (opened, w) ← step scope w prepared
  match opened with
  | .crash => return .crash
  | .fault f => return .fault f
  | .answer s =>
    let (first, s) ← stepOf scope (s.withWorld w) t.start
    let (result, s) ← follow scope (← IO.monoNanosNow) s first
    discard (stepOf scope s Session.close)
    return result

/-- Runs a command. -/
def runCommand (scope : Scope) (w : World) (settings : Settings) (bound : Option String) :
    Command → IO (Outcome Unit)
  | .task t => runTask scope w settings bound t
  | .purge grace => return (← step scope w (Command.runPurge settings grace)).1

/-- Runs what was asked for, and gives the status. -/
def run (i : Invocation) : IO Nat := do
  let w ← machine
  let (filter, wrong) := LogFilter.inForce (w.environmentValue LogFilter.variableName) i.verbosity
  IO.eprint (filterWarnings wrong)
  let scope : Scope := ⟨(findHome w).toOption.map Settings.path, none, filter⟩
  let (settings, w) ← step scope w Invocation.settings
  let outcome ← match settings with
    | .error f => pure (.fault f)
    | .ok s => runCommand { scope with database := some s.databasePath } w s i.bound i.command
  let onTerminal ← (← IO.getStderr).isTty
  return (← step ⟨none, none, filter⟩ w (Invocation.conclude onTerminal outcome)).1

/-- How the program is used. -/
def usage : String :=
  "Distributed resource locks over a shared table\n\n" ++
  "Usage: distlock [-v]... [--lock-timeout <SECONDS>] <COMMAND>\n\n" ++
  "Commands:\n" ++
  "  lock <RESOURCE> <OWNER> [--hold-secs <SECONDS>] [--wait <SECONDS>]\n" ++
  "  refresh <RESOURCE> <OWNER> [--hold-secs <SECONDS>]\n" ++
  "  unlock <RESOURCE> <OWNER>\n" ++
  "  status <RESOURCE> [--owner <OWNER>] [--json]\n" ++
  "  list [--json]\n" ++
  "  hold <RESOURCE> [OWNER] [--hold-secs <SECONDS>]\n" ++
  "  purge [--grace-secs <SECONDS>]\n"

end Process

end Leasehold

/-- Reads the command line and runs it. -/
def main (args : List String) : IO UInt32 := do
  match Leasehold.Invocation.ofArguments args with
  | .error .usage =>
    IO.eprint Leasehold.Process.usage
    return 2
  | .error .help =>
    IO.print Leasehold.Process.usage
    return 0
  | .error .version =>
    IO.println Leasehold.versionLine
    return 0
  | .ok i =>
    try
      return (← Leasehold.Process.run i).toUInt32
    catch e =>
      IO.eprintln ("Error: " ++ toString e)
      return 1

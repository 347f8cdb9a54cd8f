import Leasehold.Command.Report
import Leasehold.Command.Session

/-!
# Commands

What a user can ask for.  Most commands put one request and report on it; asking
for a lock may have to wait, and holding one goes on until somebody stops it.
Such a command is a sequence of steps with pauses between them (`Activity.step`),
so that whoever runs it decides how time passes; `Step.complete` lets it pass on
the command's own machine.

Results are written to the output of the machine, faults are handed back.  A
command that cannot read the clock crashes where it says something about the
present, and what it works in is closed all the same.
-/

namespace Leasehold

/-- A request within a session. -/
inductive Task where
  | lock (resource owner : String) (hold : Option UInt64) (wait : Option String)
  | refresh (resource owner : String) (hold : Option UInt64)
  | unlock (resource owner : String)
  | status (resource : String) (owner : Option String) (json : Bool)
  | list (json : Bool)
  /-- Keeps a lock until the process is stopped; without an owner one is made up. -/
  | keep (resource : String) (owner : Option String) (hold : Option UInt64)
  deriving DecidableEq

/-- A command. -/
inductive Command where
  | task (task : Task)
  /-- Removes rows that are past their deadline by more than a grace. -/
  | purge (grace : Option UInt64)
  deriving DecidableEq

/-- What a command is in the middle of. -/
inductive Activity where
  | waiting (wait : Wait) (owner : String) (hold : UInt64) (progress : Progress)
  | holding (resource owner : String)

/-- What a step of a command comes to. -/
inductive Step where
  | finished (result : Outcome Unit)
  | pause (length : Span) (next : Activity)

namespace Command

/-- The time between two looks at a lock that is held. -/
def pollInterval : Span := Span.ofMillis 200

/-- The least time between two progress lines. -/
def progressInterval : Span := Span.ofSeconds 1

/-- A line about something that was done. -/
def done (what : String) : StateM Session Unit := Session.inWorld (World.printLine ("✓ " ++ what))

/-- The lease that a request asks for. -/
def leaseOf (hold : UInt64) : StateM Session Span := do return (← get).settings.leaseFor hold

/-- Puts a request whose refusal is a fault. -/
def demand (q : Query) : StateM Session (Except Fault Unit) := do
  match ← Manager.ask q with
  | .error f => return .error f
  | .ok false => return .error (.notHeld q.resource)
  | .ok true => return .ok ()

/-- Puts a request, and reports on it when it is granted. -/
def putAndReport (q : Query) (report : StateM Session Unit) :
    StateM Session (Outcome Unit) := do
  match ← demand q with
  | .error f => return .fault f
  | .ok () =>
    report
    return .answer ()

/-- The report on a lock that was granted. -/
def reportLocked (resource owner : String) (hold : UInt64) : StateM Session Unit := do
  done ("Locked " ++ resource ++ " for " ++ owner ++ " (" ++ toString (← leaseOf hold).seconds ++
    "s lease)")

/-- The report on a lease that was moved. -/
def reportExtended (resource owner : String) (hold : UInt64) : StateM Session Unit := do
  done ("Extended " ++ resource ++ " for " ++ owner ++ " by " ++
    toString (← leaseOf hold).seconds ++ "s")

/-- The report on a lock that was given up. -/
def reportReleased (resource : String) : StateM Session Unit := done ("Released " ++ resource)

/-- A result, as JSON or as lines; there may be no lines. -/
def printResult (json : Bool) (value : Json) (lines? : Option (List String)) :
    StateM Session (Outcome Unit) :=
  match if json then some [value.pretty] else lines? with
  | none => return .crash
  | some lines => do
    for l in lines do
      Session.inWorld (World.printLine l)
    return .answer ()

/-- The status of a resource. -/
def status (resource : String) (owner : Option String) (json : Bool) :
    StateM Session (Outcome Unit) := do
  let row ← Session.withClient none fun c => c.row resource
  let held ← match owner with
    | some o => do pure ((← Manager.ask (.isLockedBy resource o)).map fun b => some (o, b))
    | none => pure (.ok none)
  match held with
  | .error f => return .fault f
  | .ok owner =>
    match ← Session.inWorld World.now? with
    | none => return .crash
    | some now =>
      let report : StatusReport := { resource, state := LockState.ofRow? row now, row, owner }
      printResult json report.toJson (some report.lines)

/-- The whole table. -/
def list (json : Bool) : StateM Session (Outcome Unit) := do
  let rows ← Session.withClient [] Client.rows
  let report : TableReport := ⟨rows, ← Session.inWorld World.now?⟩
  printResult json report.toJson report.lines?

end Command

/-! ## Waiting and holding -/

/-- A session with the progress lines of its wait. -/
structure Watched where
  session : Session
  progress : Progress

namespace Watched

/-- A step of the session. -/
def inSession {α : Type} : StateM Session α → StateM Watched α :=
  Feature.part session fun s w => { w with session := s }

/-- A step of the machine. -/
def inWorld {α : Type} (step : StateM World α) : StateM Watched α :=
  inSession (Session.inWorld step)

/-- Shows the progress line of an event, if it has one. -/
def observe (event : WaitEvent) : StateM Watched Unit := do
  let (line, progress) := (← get).progress.line (← inWorld World.uptime) event
  modify ({ · with progress })
  if let some l := line then inWorld (World.give (.progress l))

/-- What a wait sees of the session. -/
def surroundings : Surroundings Watched where
  now := inWorld World.uptime
  stopped := do return (← get).session.world.stop.isSome
  observe := some observe
  sleep d := inWorld (World.sleep d)

/-- Asking for a lock from within a session. -/
def asking (resource owner : String) (hold : UInt64) : Asking Watched :=
  let a : Asking Session := Manager.asking resource owner hold
  { attempt := inSession a.attempt, granted := fun n s => inSession (a.granted n s) }

end Watched

namespace Activity

/-- Asks once for the lock of a wait. -/
def wait (w : Wait) (owner : String) (hold : UInt64) (progress : Progress) : StateM Session Step :=
  fun s =>
    let ((round, w), t) :=
      w.round Watched.surroundings (Watched.asking w.resource owner hold) ⟨s, progress⟩
    match round with
    | .pause length => (.pause length (.waiting w owner hold t.progress), t.session)
    | .finished (.error f) => (.finished (.fault f), t.session)
    | .finished (.ok false) => (.finished (.fault (.notHeld w.resource)), t.session)
    | .finished (.ok true) =>
      (.finished (.answer ()), (Command.reportLocked w.resource owner hold t.session).2)

/-- Gives the held lock up. -/
def letGo (resource owner : String) (reason : StopReason) : StateM Session (Outcome Unit) := do
  Journal.info .hold ("Releasing " ++ resource ++ " for " ++ owner ++ " (" ++ reason.text ++ ")")
  Command.putAndReport (.unlock resource owner) (Command.reportReleased resource)

/-- Looks after a held lock. -/
def watch (resource owner : String) : StateM Session Step := do
  let s ← get
  match s.world.stop with
  | some reason => return .finished (← letGo resource owner reason)
  | none =>
    if s.holds resource owner then return .pause Command.pollInterval (.holding resource owner)
    Journal.warn .hold ("Lost lock on " ++ resource ++ " while holding it")
    return .finished (.fault (.notHeld resource))

/-- The next step of an activity. -/
def step : Activity → StateM Session Step
  | .waiting w owner hold progress => wait w owner hold progress
  | .holding resource owner => watch resource owner

end Activity

namespace Task

/-- Asks for a lock and waits for it. -/
def startWait (resource owner : String) (hold : UInt64) (bound : String) : StateM Session Step := do
  match WaitBound.parse bound with
  | .error e => return .finished (.fault (.invalidArgument e.message))
  | .ok b =>
    let began ← Session.inWorld World.uptime
    let schedule := RetrySchedule.forLease (← Command.leaseOf hold)
    Session.inWorld World.attendSignals
    Activity.wait (Wait.new began resource b .commandLine schedule) owner hold
      (Progress.new Command.progressInterval)

/-- Takes a lock to keep it. -/
def startKeep (resource : String) (owner : Option String) (hold : UInt64) :
    StateM Session Step := do
  let s ← get
  let owner := owner.getD (s.settings.host ++ "-" ++ s.world.identity)
  match ← Command.demand (.lock resource owner hold) with
  | .error f => return .finished (.fault f)
  | .ok () =>
    Command.done ("Holding " ++ resource ++ " as " ++ owner ++ " (Ctrl-C to release)")
    Activity.watch resource owner

/-- The first step of a task. -/
def start : Task → StateM Session Step
  | .lock r o hold none =>
    .finished <$>
      Command.putAndReport (.lock r o (hold.getD 0)) (Command.reportLocked r o (hold.getD 0))
  | .lock r o hold (some bound) => startWait r o (hold.getD 0) bound
  | .refresh r o hold =>
    .finished <$>
      Command.putAndReport (.refresh r o (hold.getD 0)) (Command.reportExtended r o (hold.getD 0))
  | .unlock r o => .finished <$> Command.putAndReport (.unlock r o) (Command.reportReleased r)
  | .status r owner json => .finished <$> Command.status r owner json
  | .list json => .finished <$> Command.list json
  | .keep r owner hold => startKeep r owner (hold.getD 0)

/-- What comes before the session of a task is opened. -/
def prepare : Task → StateM World Unit
  | .keep _ _ _ => World.attendSignals
  | _ => return ()

end Task

/-- Goes on from a step to the end, with at most so many pauses. -/
def Step.complete : Nat → Step → StateM Session (Option (Outcome Unit))
  | _, .finished result => return some result
  | 0, .pause _ _ => return none
  | pauses + 1, .pause length next => do
    Session.inWorld (World.sleep length)
    complete pauses (← next.step)

namespace Command

/-- Removes stale rows. -/
def runPurge (s : Settings) (grace : Option UInt64) : StateM World (Outcome Unit) := do
  match ← Store.openFile s.databasePath s.locking.busySpan with
  | .crash => return .crash
  | .fault f => return .fault f
  | .answer store =>
    match ← store.demand Database.ensureSchema with
    | .error f => return .fault f
    | .ok () =>
      let grace := (grace.map Span.ofSeconds).getD s.locking.grace
      match ← store.sweep grace with
      | none => return .crash
      | some (.error f) => return .fault f
      | some (.ok report) =>
        World.printLine ("✓ Removed " ++ counted report.removed "row" ++
          " expired for more than " ++ toString grace.seconds ++ "s")
        return .answer ()

/-- Runs a task from the opening of its session to the closing; `none` if the pauses do not
suffice. -/
def runTask (s : Settings) (bound : Option String) (pauses : Nat) (t : Task) :
    StateM World (Option (Outcome Unit)) := do
  t.prepare
  match ← Session.openFor s bound with
  | .crash => return some .crash
  | .fault f => return some (.fault f)
  | .answer session =>
    let work : StateM Session (Option (Outcome Unit)) := do
      let result ← (← t.start).complete pauses
      Session.close
      return result
    let (result, session) := work session
    set session.world
    return result

/-- Runs a command. -/
def run (s : Settings) (bound : Option String) (pauses : Nat) :
    Command → StateM World (Option (Outcome Unit))
  | .task t => runTask s bound pauses t
  | .purge grace => some <$> runPurge s grace

end Command

end Leasehold

import Leasehold.Lock.Future
import Leasehold.Lock.Heartbeat
import Leasehold.Lock.Sweep
import Leasehold.Policy.Feature

/-!
# The shared lock service

A feature that answers every request from a lock store that many processes share.
While it is started it decides everything itself, and the heartbeat renews what it
granted; before and after that it has nothing to say.

A lock is asked for in the background and waited for within a bound; the locks
that were granted and not given up are the held ones of the heartbeat.
-/

namespace Leasehold

/-- How a service works. -/
structure ServiceSettings where
  database : String
  host : String
  /-- The lease of requests that name none. -/
  defaultHold : Span
  heartbeatInterval : Span
  /-- How long the answer to a request for a lock is waited for. -/
  waitBound : WaitBound
  busyTimeout : Span
  sweepOnStart : Bool
  sweepGrace : Span
  deriving DecidableEq, Inhabited

/-- The lease of a request: as many seconds as it says, or the usual ones. -/
def ServiceSettings.leaseFor (s : ServiceSettings) (hold : UInt64) : Span :=
  if hold = 0 then s.defaultHold else Span.ofSeconds hold

/-- A service, started or not. -/
structure Service where
  settings : ServiceSettings
  /-- A store to use instead of the settings' database. -/
  opened : Option Store
  /-- The client and its held locks, while started. -/
  active : Option Heartbeat
  deriving Inhabited

/-- A service on its machine. -/
structure Site where
  world : World
  service : Service
  deriving Inhabited

instance : Journal Site := ⟨fun r s => { s with world := Journal.note r s.world }⟩

namespace Site

/-- A step of the machine. -/
def inWorld {α : Type} : StateM World α → StateM Site α :=
  Feature.part (·.world) fun w s => { s with world := w }

/-- A step on the running heartbeat; a substitute if there is none. -/
def whileActive {α : Type} (otherwise : α) (step : Heartbeat → StateM World (α × Heartbeat)) :
    StateM Site α := do
  match (← get).service.active with
  | none => return otherwise
  | some h =>
    let (a, h) ← inWorld (step h)
    modify fun s => { s with service := { s.service with active := some h } }
    return a

end Site

namespace Service

/-- The name by which the service is known to managers. -/
def name : String := "distributed-locking"

/-- A service that is not started. -/
def new (settings : ServiceSettings) : Service := { settings, opened := none, active := none }

/-- A service on an open store. -/
def onStore (settings : ServiceSettings) (store : Store) : Service :=
  { settings, opened := some store, active := none }

/-- The service is started. -/
def isStarted (s : Service) : Bool := s.active.isSome

/-- The locks that are being renewed. -/
def held (s : Service) : Held := (s.active.map (·.held)).getD []

/-- The client of the started service. -/
def client? (s : Service) : Option Client := s.active.map (·.client)

/-- Begins to ask for a lock.  The worker answers at once here, or crashes if it cannot read
the clock; without a start the answer is a refusal. -/
def beginLock (resource owner : String) (hold : UInt64) : StateM Site (Outcome LockFuture) := do
  let s := (← get).service
  match s.client? with
  | none => return .answer (LockFuture.resolved resource false)
  | some c =>
    if LockFuture.unnameable resource then return .crash
    let work ← Site.inWorld (c.acquire resource owner (s.settings.leaseFor hold))
    let (giveBack, f) ← (LockFuture.spawn resource).settle (.ofOption work)
    if giveBack then discard (Site.inWorld (c.release resource owner))
    return .answer f

/-- Asks for a lock, waits for the answer, and renews what was granted. -/
def lock (resource owner : String) (hold : UInt64) : StateM Site (Outcome Verdict) := do
  let s := (← get).service
  if !s.isStarted then return .answer .unhandled
  match ← beginLock resource owner hold with
  | .crash => return .crash
  | .fault f => return .fault f
  | .answer f =>
    let (granted, _) ← f.wait s.settings.waitBound
    if granted then
      Site.whileActive () fun h => do
        return ((), ← h.track resource owner (s.settings.leaseFor hold))
    return .answer (.ofBool granted)

/-- Moves the deadline of a lock and renews it from now on. -/
def refresh (resource owner : String) (hold : UInt64) : StateM Site (Outcome Verdict) := do
  let lease := (← get).service.settings.leaseFor hold
  Site.whileActive (.answer .unhandled) fun h => do
    match ← h.client.refresh resource owner lease with
    | none => return (.crash, h)
    | some true => return (.answer .accepted, ← h.track resource owner lease)
    | some false => return (.answer .denied, h)

/-- Ceases to renew a lock, and then gives it up. -/
def unlock (resource owner : String) : StateM Site Verdict :=
  Site.whileActive .unhandled fun h => do
    let h := (h.untrack resource owner).2
    return (.ofBool (← h.client.release resource owner), h)

/-- Every resource counts as locked. -/
def isLocked (resource : String) : StateM Site Verdict :=
  Site.whileActive .unhandled fun h => do return (.ofBool (← h.client.isLocked resource), h)

/-- The owner's lease has not run out. -/
def isLockedBy (resource owner : String) : StateM Site (Outcome Verdict) :=
  Site.whileActive (.answer .unhandled) fun h => do
    return (.ofOption ((← h.client.isActive resource owner).map .ofBool), h)

/-- What the service says to a request. -/
def before : Query → StateM Site (Outcome Verdict)
  | .lock r o hold => lock r o hold
  | .refresh r o hold => refresh r o hold
  | .unlock r o => .answer <$> unlock r o
  | .isLocked r => .answer <$> isLocked r
  | .isLockedBy r o => isLockedBy r o

/-- A fault of the start. -/
def startFault (f : Fault) : Fault := .featureStart name f.message

/-- What is said of a sweep at the start, whatever came of it. -/
def noteSweep : Except Fault SweepReport → StateM World Unit
  | .ok report => do
    if 0 < report.removed then
      Journal.info .service ("Purged " ++ toString report.removed ++ " long-expired lock row(s)")
  | .error f => Journal.warn .service ("Lock hygiene sweep failed: " ++ f.message)

/-- Begins to renew the locks of a client. -/
def beginRenewal (s : Service) (c : Client) : StateM World Heartbeat := do
  let h ← (Heartbeat.new c s.settings.heartbeatInterval).start
  Journal.info .service (name ++ " started on " ++ c.store.location ++ " as host " ++ c.host)
  return h

/-- The store of a service, opened if it is not. -/
def openStore (s : Service) : StateM World (Outcome Store) :=
  match s.opened with
  | some store => return .answer store
  | none => Store.openFile s.settings.database s.settings.busyTimeout

/-- Opens the store and begins to renew. -/
def activate (s : Service) : StateM World (Outcome Heartbeat) := do
  match ← s.openStore with
  | .crash => return .crash
  | .fault f => return .fault (startFault f)
  | .answer store =>
    match ← store.demand Database.ensureSchema with
    | .error f => return .fault (startFault f)
    | .ok () =>
      let client : Client := ⟨store, s.settings.host⟩
      if s.settings.sweepOnStart then
        match ← store.sweep s.settings.sweepGrace with
        | none => return .crash
        | some swept => noteSweep swept
      return .answer (← s.beginRenewal client)

/-- Starts the service; once it is started nothing more happens. -/
def start : StateM Site (Outcome Unit) := do
  let s := (← get).service
  if s.isStarted then
    Journal.debug .service (name ++ " already started")
    return .answer ()
  match ← Site.inWorld s.activate with
  | .crash => return .crash
  | .fault f => return .fault f
  | .answer h =>
    modify fun t => { t with service := { t.service with active := some h } }
    return .answer ()

/-- Stops the service.  What it held is no longer renewed and runs out. -/
def stop : StateM Site Unit := do
  match (← get).service.active with
  | none => return ()
  | some h =>
    modify fun t => { t with service := { t.service with active := none } }
    Site.inWorld do
      let h ← h.stop
      if !h.held.isEmpty then
        Journal.debug .service (toString h.held.length ++ " lock(s) will expire without renewal")
      Journal.info .service (name ++ " stopped")

/-- One renewal pass in the background of the started service. -/
def beat : StateM Site (Option RenewalReport) := Site.whileActive none Heartbeat.beat

/-- The service as a feature of a manager. -/
def feature : Feature Site where
  name
  before := before
  after _ _ := return .answer false
  start := start
  stop := do
    stop
    return .answer ()

end Service

end Leasehold

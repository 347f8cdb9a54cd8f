import Leasehold.Proofs.Service.Answers

/-!
# A service among others

While a service is at work other clients change the table, and its store may fail, before, during
and after each of its requests.  `Dealings` says what comes of each request: any program may stand
for it.  The calls of a service are stated here once more with the dealings as a parameter; with
the plain ones, where nobody else is at work, they are the service's own (`Dealings.perform_plain`).

A renewal pass deals with the store in its statements only, and what becomes of the held locks
depends on their answers alone (`Heartbeat.renewBy`).
-/

namespace Leasehold

open Program

/-! ## Dealings -/

/-- What comes of the requests of a service to its store, whatever others do meanwhile. -/
structure Dealings where
  openFile : String → Span → StateM World (Outcome Store)
  ensureSchema : Store → StateM World (Except Fault Unit)
  sweep : Store → Span → StateM World (Option (Except Fault SweepReport))
  acquire : Client → String → String → Span → StateM World (Option Bool)
  refresh : Client → String → String → Span → StateM World (Option Bool)
  release : Client → String → String → StateM World Bool
  isActive : Client → String → String → StateM World (Option Bool)
  /-- The statements of a renewal pass. -/
  extendAll : Client → Int → List HeldLock → StateM World (List (Except StoreFault Bool))

namespace Dealings

/-- Nobody else is at work. -/
def plain : Dealings where
  openFile := Store.openFile
  ensureSchema store := store.demand Database.ensureSchema
  sweep := Store.sweep
  acquire := Client.acquire
  refresh := Client.refresh
  release := Client.release
  isActive := Client.isActive
  extendAll := Client.extendAll

variable (d : Dealings)

/-! ## The calls of a service -/

/-- Begins to ask for a lock. -/
def beginLock (resource owner : String) (hold : UInt64) : StateM Site (Outcome LockFuture) := do
  let s := (← get).service
  match s.client? with
  | none => return .answer (LockFuture.resolved resource false)
  | some c =>
    if LockFuture.unnameable resource then return .crash
    let work ← Site.inWorld (d.acquire c resource owner (s.settings.leaseFor hold))
    let (giveBack, f) ← (LockFuture.spawn resource).settle (.ofOption work)
    if giveBack then discard (Site.inWorld (d.release c resource owner))
    return .answer f

/-- Asks for a lock, waits for the answer, and renews what was granted. -/
def lock (resource owner : String) (hold : UInt64) : StateM Site (Outcome Verdict) := do
  let s := (← get).service
  if !s.isStarted then return .answer .unhandled
  match ← d.beginLock resource owner hold with
  | .crash => return .crash
  | .fault f => return .fault f
  | .answer f =>
    let (granted, _) ← f.wait s.settings.waitBound
    if granted then
      Site.whileActive () fun h => do
        return ((), ← h.track resource owner (s.settings.leaseFor hold))
    return .answer (.ofBool granted)

/-- Moves the deadline of a lock and renews it from now on. -/
def refreshLock (resource owner : String) (hold : UInt64) : StateM Site (Outcome Verdict) := do
  let lease := (← get).service.settings.leaseFor hold
  Site.whileActive (.answer .unhandled) fun h => do
    match ← d.refresh h.client resource owner lease with
    | none => return (.crash, h)
    | some true => return (.answer .accepted, ← h.track resource owner lease)
    | some false => return (.answer .denied, h)

/-- Ceases to renew a lock, and then gives it up. -/
def unlock (resource owner : String) : StateM Site Verdict :=
  Site.whileActive .unhandled fun h => do
    let h := (h.untrack resource owner).2
    return (.ofBool (← d.release h.client resource owner), h)

/-- The owner's lease has not run out. -/
def isLockedBy (resource owner : String) : StateM Site (Outcome Verdict) :=
  Site.whileActive (.answer .unhandled) fun h => do
    return (.ofOption ((← d.isActive h.client resource owner).map .ofBool), h)

/-- What the service says to a request. -/
def before : Query → StateM Site (Outcome Verdict)
  | .lock r o hold => d.lock r o hold
  | .refresh r o hold => d.refreshLock r o hold
  | .unlock r o => .answer <$> d.unlock r o
  | .isLocked r => .answer <$> Service.isLocked r
  | .isLockedBy r o => d.isLockedBy r o

/-- The store of a service, opened if it is not. -/
def openStore (s : Service) : StateM World (Outcome Store) :=
  match s.opened with
  | some store => return .answer store
  | none => d.openFile s.settings.database s.settings.busyTimeout

/-- Opens the store and begins to renew. -/
def activate (s : Service) : StateM World (Outcome Heartbeat) := do
  match ← d.openStore s with
  | .crash => return .crash
  | .fault f => return .fault (Service.startFault f)
  | .answer store =>
    match ← d.ensureSchema store with
    | .error f => return .fault (Service.startFault f)
    | .ok () =>
      let client : Client := ⟨store, s.settings.host⟩
      if s.settings.sweepOnStart then
        match ← d.sweep store s.settings.sweepGrace with
        | none => return .crash
        | some swept => Service.noteSweep swept
      return .answer (← s.beginRenewal client)

/-- Starts the service. -/
def start : StateM Site (Outcome Unit) := do
  let s := (← get).service
  if s.isStarted then
    Journal.debug .service (Service.name ++ " already started")
    return .answer ()
  match ← Site.inWorld (d.activate s) with
  | .crash => return .crash
  | .fault f => return .fault f
  | .answer h =>
    modify fun t => { t with service := { t.service with active := some h } }
    return .answer ()

/-- One renewal pass over a snapshot at a clock reading. -/
def renewAt (h : Heartbeat) (snapshot : List HeldLock) (now : Int) :
    StateM World (RenewalReport × Heartbeat) :=
  h.renewBy snapshot (d.extendAll h.client now snapshot)

/-- One renewal pass over all that is held. -/
def tick (h : Heartbeat) : StateM World (Option RenewalReport × Heartbeat) := do
  if h.held.isEmpty then return (some (RenewalReport.ofEntries []), h)
  match ← World.atNow (d.renewAt h h.held) with
  | some (report, h) => return (some report, h)
  | none => return (none, h)

/-- One renewal pass in the background, if there are any. -/
def beat : StateM Site (Option RenewalReport) :=
  Site.whileActive none fun h => do
    if !h.running || h.broken then return (none, h)
    let (report?, h) ← d.tick h
    return (report?, { h with broken := report?.isNone })

/-! ## Plain dealings -/

theorem plain_before (q : Query) : plain.before q = Service.before q := by
  cases q <;> rfl

theorem plain_renewAt (h : Heartbeat) (snapshot : List HeldLock) (now : Int) :
    plain.renewAt h snapshot now = h.renewAt snapshot now :=
  (h.renewAt_eq snapshot now).symm

theorem plain_beat : plain.beat = Service.beat := by
  have ticks : plain.tick = Heartbeat.tick := by
    funext h
    have renewals : plain.renewAt h h.held = h.renewAt h.held := by
      funext now
      exact plain_renewAt h h.held now
    unfold tick Heartbeat.tick
    exact renewals ▸ rfl
  unfold beat Service.beat Heartbeat.beat
  rw [ticks]

end Dealings

end Leasehold

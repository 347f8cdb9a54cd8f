import Leasehold.Lock.Client
import Leasehold.Lock.Held

/-!
# The heartbeat

Renews the held locks of a client at an interval while it runs.  Whether it runs
and what it holds are independent: locks may be taken in and given up at any
time, and a pass can also be made by hand (`Heartbeat.tick`).  Passes in the
background (`Heartbeat.beat`) end for good when one of them breaks down, which is
only noted down when the heartbeat is stopped.
-/

namespace Leasehold

/-- A client's held locks and their renewal. -/
structure Heartbeat where
  client : Client
  interval : Span
  held : Held
  running : Bool
  /-- A pass in the background broke down since the start. -/
  broken : Bool
  deriving DecidableEq, Inhabited

namespace Heartbeat

/-- A heartbeat that holds nothing and does not run. -/
def new (client : Client) (interval : Span) : Heartbeat :=
  { client, interval, held := [], running := false, broken := false }

/-- Begins to run, if it does not run yet. -/
def start (h : Heartbeat) : StateM World Heartbeat := do
  if h.running then return h
  Journal.info .heartbeat ("Started lock heartbeat every " ++ h.interval.secondsText 3 ++ "s")
  return { h with running := true, broken := false }

/-- Ceases to run, if it runs. -/
def stop (h : Heartbeat) : StateM World Heartbeat := do
  if !h.running then return h
  if h.broken then
    Journal.warn .heartbeat "Heartbeat thread panicked before shutdown"
  else
    Journal.debug .heartbeat "Heartbeat thread exiting"
    Journal.info .heartbeat "Stopped lock heartbeat"
  return { h with running := false }

/-- Takes a lock in, to be renewed with its lease. -/
def track (h : Heartbeat) (resource owner : String) (lease : Span) : StateM World Heartbeat := do
  if Span.zero < lease ∧ lease ≤ h.interval then
    Journal.debug .heartbeat ("Lease for " ++ resource ++ " (" ++ lease.secondsText 3 ++
      "s) is not longer than the heartbeat interval")
  return { h with held := h.held.track ⟨resource, owner, lease⟩ }

/-- Gives a lock up if the owner held it, and says so. -/
def untrack (h : Heartbeat) (resource owner : String) : Bool × Heartbeat :=
  let (dropped, held) := h.held.untrack resource owner
  (dropped, { h with held })

/-- One renewal pass over a snapshot at a clock reading. -/
def renewAt (h : Heartbeat) (snapshot : List HeldLock) (now : Int) :
    StateM World (RenewalReport × Heartbeat) := do
  let (entries, held) ← fun w =>
    let (entries, held, db) := Held.renewAll now snapshot h.held (h.client.store.database w)
    ((entries, held), h.client.store.setDatabase w db)
  for r in entries.flatMap RenewedEntry.records do
    modify (Journal.note r)
  return (RenewalReport.ofEntries entries, { h with held })

/-- One renewal pass over all that is held.  There is no report if the clock is needed and
cannot be read. -/
def tick (h : Heartbeat) : StateM World (Option RenewalReport × Heartbeat) := do
  if h.held.isEmpty then return (some (RenewalReport.ofEntries []), h)
  match ← World.atNow (h.renewAt h.held) with
  | some (report, h) => return (some report, h)
  | none => return (none, h)

/-- One renewal pass in the background, if there are any. -/
def beat (h : Heartbeat) : StateM World (Option RenewalReport × Heartbeat) := do
  if !h.running || h.broken then return (none, h)
  let (report?, h) ← h.tick
  return (report?, { h with broken := report?.isNone })

end Heartbeat

end Leasehold

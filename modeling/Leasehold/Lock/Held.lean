import Leasehold.Lock.Database
import Leasehold.Log

/-!
# Held locks and their renewal

The locks that a process believes it holds, at most one to a resource and in the
order of resources.  A renewal pass goes through a snapshot of them and moves the
deadline of each.  A lock that cannot be renewed is lost: it leaves the held ones
and is reported, unless the entry of the snapshot is no longer held as it was
(`Held.dropSame`).

A pass is made of separate steps, one statement and at most one change of the
held locks for each entry, in between which others may act; `Held.renewAll` is a
pass that nobody disturbs.
-/

namespace Leasehold

/-- A lock that a process believes it holds, and the lease with which it is renewed. -/
structure HeldLock where
  resource : String
  owner : String
  lease : Span
  deriving DecidableEq, Inhabited

/-- Locks in the order of their resources, one to a resource. -/
abbrev Held := List HeldLock

namespace Held

/-- The lock held on a resource. -/
def lock? (held : Held) (resource : String) : Option HeldLock := held.find? (·.resource = resource)

/-- Holds a lock, instead of what was held on its resource before. -/
def track (lock : HeldLock) : Held → Held
  | [] => [lock]
  | l :: rest =>
    if lock.resource = l.resource then lock :: rest
    else if Text.before lock.resource l.resource then lock :: l :: rest
    else l :: track lock rest

/-- No longer holds a resource. -/
def drop (resource : String) (held : Held) : Held := held.filter (·.resource ≠ resource)

/-- No longer holds a resource if the owner held it, and says so. -/
def untrack (resource owner : String) (held : Held) : Bool × Held :=
  match held.lock? resource with
  | some l => if l.owner = owner then (true, held.drop resource) else (false, held)
  | none => (false, held)

/-- No longer holds a lock if it is held just as given, and says so. -/
def dropSame (lock : HeldLock) (held : Held) : Bool × Held :=
  if held.lock? lock.resource = some lock then (true, held.drop lock.resource) else (false, held)

end Held

/-- What became of an entry of the snapshot. -/
inductive Renewal where
  | refreshed
  /-- It was given up or replaced since the snapshot. -/
  | obsolete
  | lost
  deriving DecidableEq

/-- An entry of the snapshot, what became of it, and why its statement failed if it did. -/
structure RenewedEntry where
  lock : HeldLock
  renewal : Renewal
  fault : Option StoreFault
  deriving DecidableEq

/-- The sum of a renewal pass. -/
structure RenewalReport where
  refreshed : Nat
  lost : List HeldLock
  deriving DecidableEq, Inhabited

/-- What an observer of renewals is told. -/
inductive RenewalEvent where
  | lost (lock : HeldLock)
  | finished (report : RenewalReport)
  deriving DecidableEq

namespace Held

/-- Renews one entry of a snapshot at a clock reading. -/
def renew (now : Int) (lock : HeldLock) (held : Held) (db : Database) :
    RenewedEntry × Held × Database :=
  match db.extend lock.resource lock.owner (deadlineAfter now lock.lease) with
  | (.ok true, db) => (⟨lock, .refreshed, none⟩, held, db)
  | (reply, db) =>
    let fault := match reply with
      | .error f => some f
      | .ok _ => none
    let (dropped, held) := held.dropSame lock
    (⟨lock, if dropped then .lost else .obsolete, fault⟩, held, db)

/-- Renews the entries of a snapshot in their order. -/
def renewAll (now : Int) : List HeldLock → Held → Database → List RenewedEntry × Held × Database
  | [], held, db => ([], held, db)
  | lock :: rest, held, db =>
    let (entry, held, db) := held.renew now lock db
    let (entries, held, db) := renewAll now rest held db
    (entry :: entries, held, db)

end Held

namespace RenewalReport

/-- Counts what was refreshed and lists what was lost. -/
def ofEntries (entries : List RenewedEntry) : RenewalReport :=
  { refreshed := entries.countP (·.renewal = .refreshed)
    lost := (entries.filter (·.renewal = .lost)).map (·.lock) }

/-- What an observer is told: each loss when it happens, and the sum at the end. -/
def events (r : RenewalReport) : List RenewalEvent := r.lost.map .lost ++ [.finished r]

end RenewalReport

namespace RenewedEntry

/-- What is noted about an entry. -/
def records (e : RenewedEntry) : List LogRecord :=
  let (r, o) := (e.lock.resource, e.lock.owner)
  (match e.fault with
    | some f =>
      [⟨.warn, .client, "Failed to refresh lock on " ++ r ++ " for " ++ o ++ ": " ++ f.message⟩]
    | none => []) ++
  [match e.renewal with
    | .refreshed => ⟨.trace, .heartbeat, "Heartbeat refreshed " ++ r ++ " for " ++ o⟩
    | .obsolete => ⟨.trace, .heartbeat, "Skipping " ++ r ++ " for " ++ o ++ "; no longer tracked"⟩
    | .lost =>
      ⟨.warn, .heartbeat, "Lost lock on " ++ r ++ " for " ++ o ++ "; it will not be renewed"⟩]

end RenewedEntry

end Leasehold

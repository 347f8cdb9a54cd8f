import Leasehold.Lock.Attempt
import Leasehold.Lock.Store

/-!
# Clients of a lock store

A client asks for locks on behalf of one machine.  Its answers are plain truth
values: a statement that fails is noted down and counts as a refusal, so that a
store that cannot be reached looks like a contended resource.  An operation that
needs the clock reads it once, at its start, and has no answer at all if the clock
cannot be read; it has touched nothing then.
-/

namespace Leasehold

/-- A store and the machine on whose behalf it is asked. -/
structure Client where
  store : Store
  host : String
  deriving DecidableEq, Inhabited

namespace Client

/-- The answer of a statement, or a substitute after noting why there is none. -/
def orNote {α : Type} (what : String) (substitute : α) : Except Fault α → StateM World α
  | .ok a => return a
  | .error f => do
    Journal.warn .client (what ++ ": " ++ f.message)
    return substitute

/-- Claims a resource for an owner and a lease that begins at `now`.  A row that is not stale
wins over every claim, one of its own owner included. -/
def acquireAt (c : Client) (resource owner : String) (lease : Span) (now : Int) :
    StateM World (Except Fault Bool) := do
  let claim := Claim.new now resource c.host owner lease
  let ending ← fun w =>
    let (ending, db) := Attempt.perform claim (c.store.database w)
    (ending, c.store.setDatabase w db)
  if let some note := ending.note? resource owner then Journal.debug .client note
  return ending.answer.mapError StoreFault.toFault

/-- Claims a resource now. -/
def tryAcquire (c : Client) (resource owner : String) (lease : Span) :
    StateM World (Option (Except Fault Bool)) :=
  World.atNow (c.acquireAt resource owner lease)

/-- Claims a resource now; a failure is a refusal. -/
def acquire (c : Client) (resource owner : String) (lease : Span) : StateM World (Option Bool) :=
  World.atNow fun now => do
    orNote ("Failed to acquire lock on " ++ resource ++ " for " ++ owner) false
      (← c.acquireAt resource owner lease now)

/-- Moves the deadline of a row that the owner still has to a hold from now. -/
def refresh (c : Client) (resource owner : String) (hold : Span) : StateM World (Option Bool) :=
  World.atNow fun now => do
    orNote ("Failed to refresh lock on " ++ resource ++ " for " ++ owner) false
      (← c.store.demand (Database.extend resource owner (deadlineAfter now hold)))

/-- Gives up a row that the owner still has. -/
def release (c : Client) (resource owner : String) : StateM World Bool := do
  orNote ("Failed to release lock on " ++ resource ++ " for " ++ owner) false
    (← c.store.demand (Database.delete resource owner))

/-- The owner has a row whose lease has not run out. -/
def isActive (c : Client) (resource owner : String) : StateM World (Option Bool) :=
  World.atNow fun now => do
    orNote ("Failed to query lock on " ++ resource ++ " for " ++ owner) false
      (← c.store.demand (Database.isActive resource owner now))

/-- Every resource that is asked about here counts as locked; nothing is looked up. -/
def isLocked (_ : Client) (resource : String) : StateM World Bool := do
  Journal.debug .client ("Reporting " ++ resource ++ " as locked without consulting the store")
  return true

/-- The row of a resource. -/
def row (c : Client) (resource : String) : StateM World (Option LockRow) := do
  orNote ("Failed to read lock row for " ++ resource) none
    (← c.store.demand (Database.select resource))

/-- All rows. -/
def rows (c : Client) : StateM World (List LockRow) := do
  orNote "Failed to list lock rows" [] (← c.store.demand Database.list)

end Client

end Leasehold

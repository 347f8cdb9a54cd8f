import Leasehold.Policy.Manager

/-!
# Guards

A guard stands for a lock that was granted and is given up exactly once: by its
holder, who learns the answer, or when the guard is thrown away, which only notes
down what is unexpected.  A guard is thrown away behind its holder's release too;
`Guard.released` keeps it from giving the lock up a second time.
-/

namespace Leasehold

/-- A lock that will be given up. -/
structure Guard where
  resource : String
  owner : String
  /-- The lock was given up by the holder of the guard. -/
  released : Bool
  deriving DecidableEq, Inhabited

namespace Guard

variable {ε : Type} [Journal ε]

/-- Asks for a lock and gives a guard for it; none if it is refused. -/
def acquire (resource owner : String) (hold : UInt64) :
    StateM (Manager ε) (Except Fault (Option Guard)) := do
  match ← Manager.ask (.lock resource owner hold) with
  | .ok true => return .ok (some ⟨resource, owner, false⟩)
  | .ok false => return .ok none
  | .error f => return .error f

/-- Throws the guard away, and gives the lock up unless its holder did. -/
def discard (g : Guard) : StateM (Manager ε) Unit := do
  if g.released then return ()
  match ← Manager.ask (.unlock g.resource g.owner) with
  | .ok true => return ()
  | .ok false =>
    Journal.warn .guard ("Lock on " ++ g.resource ++ " for " ++ g.owner ++
      " was already gone when its guard dropped")
  | .error f => Journal.warn .guard ("Failed to unlock " ++ g.resource ++ ": " ++ f.message)

/-- Gives the lock up and says whether that was granted.  The guard is thrown away behind it. -/
def release (g : Guard) : StateM (Manager ε) (Except Fault Bool) := do
  let answer ← Manager.ask (.unlock g.resource g.owner)
  discard { g with released := true }
  return answer

end Guard

end Leasehold

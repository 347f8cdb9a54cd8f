import Leasehold.Policy.Holders
import Leasehold.Waiting.Wait

/-!
# The lock manager

Every request goes to the features in the order of their registration; the first
one that accepts or denies it decides, and nothing else happens.  If none does,
the manager's own policy decides, and the features are told in the same order,
up to the first that keeps the news to itself.  A hook that fails or crashes is
noted down and counts as one that had nothing to say.

`Manager.offer` is the first half, `Manager.announce` the second, and
`Manager.ask` the whole.
-/

namespace Leasehold

/-- The width of the columns for resources, machines and owners, in characters. -/
def longestName : Nat := 128

/-- Why a request is not allowed. -/
inductive ArgumentFault where
  | emptyResource
  | emptyOwner
  | longResource
  | longOwner
  deriving DecidableEq

namespace ArgumentFault

/-- The wording of a request's fault. -/
def message : ArgumentFault → String
  | emptyResource => "resource id must not be empty"
  | emptyOwner => "owner must not be empty"
  | longResource => "resource id must be at most " ++ toString longestName ++ " characters"
  | longOwner => "owner must be at most " ++ toString longestName ++ " characters"

end ArgumentFault

namespace Query

/-- The first fault of a request: emptiness counts before length, the resource before the
owner. -/
def fault? (q : Query) : Option ArgumentFault :=
  if q.resource.isEmpty then some .emptyResource
  else if q.owner?.any String.isEmpty then some .emptyOwner
  else if longestName < q.resource.length then some .longResource
  else if q.owner?.any (longestName < ·.length) then some .longOwner
  else none

end Query

/-- A manager at work: its features, who holds what by its own policy, and the world in which
the features act. -/
structure Manager (ε : Type) where
  features : List (Feature ε)
  holders : Holders
  outer : ε

namespace Manager

variable {ε : Type}

/-- Anything that happens in the world outside. -/
def outside {α : Type} (step : StateM ε α) : StateM (Manager ε) α := fun m =>
  let (a, outer) := step m.outer
  (a, { m with outer })

variable [Journal ε]

instance : Journal (Manager ε) := ⟨fun r m => { m with outer := Journal.note r m.outer }⟩

/-- A manager with no features. -/
def new (outer : ε) : Manager ε := ⟨[], Holders.empty, outer⟩

/-- Adds a feature behind all others. -/
def register (f : Feature ε) : StateM (Manager ε) Unit := do
  Journal.debug .manager ("Registered lock feature " ++ f.name)
  modify fun m => { m with features := m.features ++ [f] }

/-- Starts the features; one that fails stays inactive. -/
def startAll : List (Feature ε) → StateM ε Unit
  | [] => return ()
  | f :: rest => do
    match ← f.start with
    | .answer () => Journal.info .manager ("Lock feature " ++ f.name ++ " started")
    | .fault e =>
      Journal.warn .manager ("Lock feature " ++ f.name ++ " failed to start: " ++ e.message)
    | .crash => Journal.warn .manager ("Lock feature " ++ f.name ++ " panicked during start")
    startAll rest

/-- Stops the features. -/
def stopAll : List (Feature ε) → StateM ε Unit
  | [] => return ()
  | f :: rest => do
    if let .crash ← f.stop then
      Journal.warn .manager ("Lock feature " ++ f.name ++ " panicked during shutdown")
    stopAll rest

/-- Starts all features. -/
def start : StateM (Manager ε) Unit := do outside (startAll (← get).features)

/-- Stops all features. -/
def shutdown : StateM (Manager ε) Unit := do outside (stopAll (← get).features)

/-- The decision of the first feature that has one. -/
def offer (q : Query) : List (Feature ε) → StateM ε (Option Bool)
  | [] => return none
  | f :: rest => do
    match ← f.before q with
    | .answer v =>
      match v.decision? with
      | some b =>
        Journal.debug .manager ("Lock feature " ++ f.name ++ " decided " ++ q.name ++ ": " ++
          toString b)
        return some b
      | none => offer q rest
    | .fault e =>
      Journal.warn .manager ("Lock feature " ++ f.name ++ " failed in before " ++ q.name ++ ": " ++
        e.message)
      offer q rest
    | .crash =>
      Journal.warn .manager ("Lock feature " ++ f.name ++ " panicked in before " ++ q.name)
      offer q rest

/-- Tells the features of a decision, up to the first that keeps it to itself. -/
def announce (q : Query) (decision : Bool) : List (Feature ε) → StateM ε Unit
  | [] => return ()
  | f :: rest => do
    match ← f.after q decision with
    | .answer true => return ()
    | .answer false => announce q decision rest
    | .fault e =>
      Journal.warn .manager ("Lock feature " ++ f.name ++ " failed in after " ++ q.name ++ ": " ++
        e.message)
      announce q decision rest
    | .crash =>
      Journal.warn .manager ("Lock feature " ++ f.name ++ " panicked in after " ++ q.name)
      announce q decision rest

/-- What is noted about a decision of the manager's own policy. -/
def policyNote? (q : Query) (decision : Bool) : Option String :=
  match q with
  | .lock r o _ => some ("Default policy lock " ++ r ++ " for " ++ o ++ ": " ++ toString decision)
  | .unlock r o => some ("Default policy unlock " ++ r ++ " by " ++ o ++ ": " ++ toString decision)
  | .refresh _ _ _ | .isLocked _ | .isLockedBy _ _ => none

/-- Decides a request by the manager's own policy. -/
def decideAlone (q : Query) : StateM (Manager ε) Bool := do
  let (decision, holders) := (← get).holders.decide q
  modify fun m => { m with holders }
  if let some note := policyNote? q decision then Journal.debug .manager note
  if q.isAnnounced then outside (announce q decision (← get).features)
  return decision

/-- Answers a request. -/
def ask (q : Query) : StateM (Manager ε) (Except Fault Bool) := do
  match q.fault? with
  | some f => return .error (.invalidArgument f.message)
  | none =>
    match ← outside (offer q (← get).features) with
    | some decision => return .ok decision
    | none => return .ok (← decideAlone q)

/-- The surroundings of a wait, with the manager in them. -/
def within (s : Surroundings ε) : Surroundings (Manager ε) where
  now := outside s.now
  stopped := outside s.stopped
  observe := s.observe.map fun observe event => outside (observe event)
  sleep span := outside (s.sleep span)

/-- Asking for a lock, as a wait does it. -/
def asking (resource owner : String) (hold : UInt64) : Asking (Manager ε) where
  attempt := ask (.lock resource owner hold)
  granted refusals waited :=
    Journal.debug .manager ("Acquired " ++ resource ++ " for " ++ owner ++ " after " ++
      toString refusals ++ " refusals (" ++ waited.secondsText 3 ++ "s)")

/-- Asks for a lock until it is granted or the wait ends, in at most so many rounds. -/
def lockWithWait (s : Surroundings ε) (owner : String) (hold : UInt64) (rounds : Nat) (w : Wait) :
    StateM (Manager ε) (Option (Except Fault Bool) × Wait) :=
  w.run (within s) (asking w.resource owner hold) rounds

end Manager

end Leasehold

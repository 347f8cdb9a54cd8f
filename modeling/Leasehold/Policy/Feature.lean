import Leasehold.Fault.Outcome
import Leasehold.Log

/-!
# Features

A feature is asked about every request before the manager's own policy is, and is
told of what that policy decided.  It acts in a world `ε` that it may read and
change in any way; a hook may also fail or crash.  `Feature.along` carries a
feature into a larger world of which its own is a part.
-/

namespace Leasehold

/-- A request to a lock manager. -/
inductive Query where
  | lock (resource owner : String) (hold : UInt64)
  | refresh (resource owner : String) (hold : UInt64)
  | unlock (resource owner : String)
  | isLocked (resource : String)
  | isLockedBy (resource owner : String)
  deriving DecidableEq

namespace Query

/-- The resource that a request is about. -/
def resource : Query → String
  | lock r _ _ | refresh r _ _ | unlock r _ | isLocked r | isLockedBy r _ => r

/-- The owner that a request names. -/
def owner? : Query → Option String
  | lock _ o _ | refresh _ o _ | unlock _ o | isLockedBy _ o => some o
  | isLocked _ => none

/-- The name of a request. -/
def name : Query → String
  | lock _ _ _ => "lock"
  | refresh _ _ _ => "refresh"
  | unlock _ _ => "unlock"
  | isLocked _ => "is_locked"
  | isLockedBy _ _ => "is_locked_by"

/-- Features are told of the decision on a request. -/
def isAnnounced : Query → Bool
  | lock _ _ _ | refresh _ _ _ | unlock _ _ => true
  | isLocked _ | isLockedBy _ _ => false

end Query

/-- What a feature says to a request. -/
inductive Verdict where
  | accepted
  | denied
  | unhandled
  deriving DecidableEq, Inhabited

namespace Verdict

/-- The verdict of a feature that decides. -/
def ofBool (b : Bool) : Verdict := if b then accepted else denied

/-- The decision, if there is one. -/
def decision? : Verdict → Option Bool
  | accepted => some true
  | denied => some false
  | unhandled => none

@[simp] theorem decision?_ofBool (b : Bool) : (ofBool b).decision? = some b := by cases b <;> rfl

end Verdict

/-- A feature that acts in a world `ε`. -/
structure Feature (ε : Type) where
  name : String
  /-- What it says to a request. -/
  before : Query → StateM ε (Outcome Verdict)
  /-- What it does with the decision on a request; true keeps it from later features. -/
  after : Query → Bool → StateM ε (Outcome Bool)
  /-- Begins its work. -/
  start : StateM ε (Outcome Unit)
  /-- Ends its work, any number of times. -/
  stop : StateM ε (Outcome Unit)

namespace Feature

/-- A name for features that give none. -/
def defaultName : String := "lock-feature"

/-- A feature that leaves every decision to others. -/
def passive (ε : Type) (name : String) : Feature ε where
  name
  before _ := return .answer .unhandled
  after _ _ := return .answer false
  start := return .answer ()
  stop := return .answer ()

/-- A step in a part of a world as a step in the whole. -/
def part {δ ε α : Type} (get : ε → δ) (put : δ → ε → ε) (step : StateM δ α) : StateM ε α := fun s =>
  let (a, d) := step (get s)
  (a, put d s)

/-- A feature in a larger world. -/
def along {δ ε : Type} (get : ε → δ) (put : δ → ε → ε) (f : Feature δ) : Feature ε where
  name := f.name
  before q := part get put (f.before q)
  after q b := part get put (f.after q b)
  start := part get put f.start
  stop := part get put f.stop

end Feature

end Leasehold

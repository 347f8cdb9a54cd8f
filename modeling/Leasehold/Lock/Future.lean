import Leasehold.Log
import Leasehold.Waiting.Bound

/-!
# Lock attempts in the background

An attempt that runs on its own, and somebody who may or may not wait for it.
The two meet in one slot: either the worker writes its answer first, or whoever
waits leaves first, and then the worker gives back what it acquired.  Each of
them takes one step on the slot (`Slot.settle`, `Slot.leave`).
-/

namespace Leasehold

/-- Where the worker and its waiter meet. -/
inductive Slot where
  | pending
  /-- The waiter left before the worker answered. -/
  | abandoned
  | answered (granted : Bool)
  deriving DecidableEq, Inhabited

/-- How the work on an attempt ended. -/
inductive WorkResult where
  | answered (granted : Bool)
  | crashed
  deriving DecidableEq

/-- The work on an attempt that crashes if it has no answer. -/
def WorkResult.ofOption : Option Bool → WorkResult
  | some b => answered b
  | none => crashed

/-- A crash counts as a refusal. -/
def WorkResult.granted : WorkResult → Bool
  | answered b => b
  | crashed => false

namespace Slot

/-- The worker's step: the slot after it, and whether the worker must give back the lock. -/
def settle (granted : Bool) : Slot → Slot × Bool
  | abandoned => (abandoned, granted)
  | pending => (answered granted, false)
  | answered _ => (answered granted, false)

/-- A look at the answer. -/
def poll : Slot → Option Bool
  | pending => none
  | abandoned => some false
  | answered b => some b

/-- The waiter's step: the answer that it takes away, and the slot after it. -/
def leave : Slot → Bool × Slot
  | pending => (false, abandoned)
  | abandoned => (false, abandoned)
  | answered b => (b, answered b)

end Slot

/-- An attempt in the background, as its waiter sees it. -/
structure LockFuture where
  resource : String
  slot : Slot
  deriving DecidableEq, Inhabited

namespace LockFuture

variable {ε : Type} [Journal ε]

/-- An attempt that has begun. -/
def spawn (resource : String) : LockFuture := ⟨resource, .pending⟩

/-- An attempt whose answer is known. -/
def resolved (resource : String) (granted : Bool) : LockFuture := ⟨resource, .answered granted⟩

/-- An attempt on this resource cannot be begun: its worker is named after the resource, and
such a name holds no NUL. -/
def unnameable (resource : String) : Bool := resource.toList.contains '\x00'

theorem unnameable_iff {resource : String} :
    unnameable resource = true ↔ '\x00' ∈ resource.toList := List.contains_iff_mem

/-- The worker's end; says whether it must give back the lock. -/
def settle (f : LockFuture) (result : WorkResult) : StateM ε (Bool × LockFuture) := do
  if result = .crashed then
    Journal.warn .worker ("Lock worker for " ++ f.resource ++ " panicked")
  let (slot, giveBack) := f.slot.settle result.granted
  if giveBack then
    Journal.warn .worker ("Lock on " ++ f.resource ++
      " acquired after its waiter gave up; releasing it")
  return (giveBack, { f with slot })

/-- The end of a wait for the answer, which comes when the answer is there or the bound is
reached. -/
def wait (f : LockFuture) (bound : WaitBound) : StateM ε (Bool × LockFuture) := do
  let (answer, slot) := f.slot.leave
  if f.slot = .pending then
    Journal.warn .worker ("Gave up waiting for lock on " ++ f.resource ++ " after " ++ bound.text)
  return (answer, { f with slot })

/-- The waiter goes away without a word. -/
def abandon (f : LockFuture) : LockFuture := { f with slot := f.slot.leave.2 }

end LockFuture

end Leasehold

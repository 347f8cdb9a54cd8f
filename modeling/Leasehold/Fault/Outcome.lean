import Leasehold.Fault.Basic

/-!
# Outcomes of guarded calls

A call into code that may fail or break off.  Whoever guards such a call sees an
answer, a fault, or a crash, and goes on in all three cases.
-/

namespace Leasehold

/-- What a guarded call comes to. -/
inductive Outcome (α : Type) where
  | answer (value : α)
  | fault (fault : Fault)
  | crash
  deriving Inhabited

namespace Outcome

variable {α : Type}

/-- The outcome of a call that cannot crash. -/
def ofExcept : Except Fault α → Outcome α
  | .ok a => answer a
  | .error f => fault f

/-- The outcome of a call that crashes if it has no answer. -/
def ofOption : Option α → Outcome α
  | some a => answer a
  | none => crash

/-- The answer, if there is one. -/
def answer? : Outcome α → Option α
  | answer a => some a
  | fault _ => none
  | crash => none

end Outcome

end Leasehold

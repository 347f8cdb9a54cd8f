import Leasehold.Decimal.Writer
import Leasehold.Waiting.Bound

/-!
# What can be observed of a wait

The moments at which a wait for a lock tells its observer something, and the
progress lines that an interactive command prints for them.  Lines about further
attempts come at most once in an interval, and success is only mentioned if it
took at least one.
-/

namespace Leasehold

/-- Something that happened during a wait. -/
inductive WaitEvent where
  /-- The lock was refused for the first time. -/
  | began (resource : String) (bound : WaitBound)
  /-- Another attempt will be made. -/
  | retrying (resource : String) (attempt : Nat) (elapsed : Span) (remaining : Option Span)
  /-- The lock was granted. -/
  | acquired (resource : String) (waited : Span)
  /-- The bound was reached. -/
  | timedOut (resource : String) (waited : Span)
  /-- Somebody asked to stop. -/
  | cancelled (resource : String) (waited : Span)
  deriving DecidableEq

/-- Progress lines with a least interval, and the uptime of the last one. -/
structure Progress where
  interval : Span
  lastShown : Option Nat
  deriving DecidableEq

namespace Progress

/-- No line was shown yet. -/
def new (interval : Span) : Progress := ⟨interval, none⟩

/-- A line may be shown at that uptime. -/
def due (p : Progress) (now : Nat) : Bool :=
  match p.lastShown with
  | some before => p.interval.nanos ≤ now - before
  | none => true

/-- The line for an event at that uptime, if there is one, and the state after it. -/
def line (p : Progress) (now : Nat) : WaitEvent → Option String × Progress
  | .began r b =>
    (some ("Waiting for lock on " ++ r ++ " (timeout: " ++ b.text ++ "); Ctrl-C to cancel."), p)
  | .retrying r _ elapsed remaining =>
    if p.due now then
      let rest := (remaining.map fun s => " (~" ++ toString s.seconds ++ "s remaining)").getD ""
      (some ("Still waiting for lock on " ++ r ++ ": elapsed " ++ toString elapsed.seconds ++ "s" ++
        rest), { p with lastShown := some now })
    else (none, p)
  | .acquired r waited =>
    (if p.interval ≤ waited then
      some ("Lock on " ++ r ++ " acquired after " ++ waited.secondsText 1 ++ "s.")
    else none, p)
  | .timedOut r waited =>
    (some ("Gave up on " ++ r ++ " after " ++ waited.secondsText 1 ++ "s."), p)
  | .cancelled r waited =>
    (some ("Cancelled wait for " ++ r ++ " after " ++ waited.secondsText 1 ++ "s."), p)

end Progress

end Leasehold

import Leasehold.Decimal.Writer
import Leasehold.Waiting.Bound

/-!
# Faults

Everything that can go wrong with a lock request, as a cause with what it
concerns.  `Fault.message` is the one place of the wording and `Fault.exitCode`
of the status with which a command ends.
-/

namespace Leasehold

/-- Why an operation did not come to an answer. -/
inductive Fault where
  /-- An argument is not allowed. -/
  | invalidArgument (text : String)
  /-- The place of the lock table cannot be used. -/
  | storage (text : String)
  /-- The settings cannot be read or written. -/
  | configuration (text : String)
  /-- The settings were read, but one of them is not allowed. -/
  | invalidSettings (text : String)
  /-- A lock was refused, or is not the owner's. -/
  | notHeld (resource : String)
  /-- A feature could not start. -/
  | featureStart (feature details : String)
  /-- A wait came to its end without the lock. -/
  | timedOut (resource : String) (waited : Binary64) (bound : WaitBound) (source : BoundSource)
  /-- A wait was asked to stop. -/
  | cancelled (resource : String) (waited : Binary64)
  /-- The system failed. -/
  | system (text : String)
  /-- The lock table refused a statement. -/
  | database (text : String)
  /-- A file could not be read or written. -/
  | inputOutput (text : String)
  /-- A JSON text is not what was expected. -/
  | json (text : String)
  deriving DecidableEq

namespace Fault

/-- The wording of a fault. -/
def message : Fault → String
  | invalidArgument t => "Invalid argument: " ++ t
  | storage t => "Lock store error: " ++ t
  | configuration t => "Configuration error: " ++ t
  | invalidSettings t => "Invalid configuration: " ++ t
  | notHeld r => "Resource '" ++ r ++ "' is not held by the requested owner"
  | featureStart f d => "Failed to start lock feature '" ++ f ++ "': " ++ d
  | timedOut r w b s =>
    "Timed out after " ++ w.fixed 1 ++ "s waiting for lock on '" ++ r ++ "' (timeout " ++ b.text ++
      ", from " ++ s.text ++ ")"
  | cancelled r w => "Cancelled after " ++ w.fixed 1 ++ "s while waiting for lock on '" ++ r ++ "'"
  | system t => "System error: " ++ t
  | database t => t
  | inputOutput t => t
  | json t => t

/-- The exit status of a command that ends with the fault. -/
def exitCode : Fault → Nat
  | invalidArgument _ | invalidSettings _ | configuration _ => 2
  | notHeld _ => 3
  | storage _ | database _ | featureStart _ _ => 20
  | timedOut _ _ _ _ => 124
  | cancelled _ _ => 130
  | system _ | inputOutput _ | json _ => 1

end Fault

end Leasehold

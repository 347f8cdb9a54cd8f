import Leasehold.Text.Quoted
import Leasehold.World.Basic

/-!
# Lock stores

A store is an open lock database: one that lives in the process, or a file that
all processes share.  Every request to it is one statement (`Store.put`).
-/

namespace Leasehold

/-- An open lock database. -/
inductive Store where
  | memory
  | file (path : String)
  deriving DecidableEq, Inhabited

namespace Store

/-- Where the database is. -/
def location : Store → String
  | memory => ":memory:"
  | file path => path

/-- A store in diagnostics. -/
def describe (s : Store) : String :=
  "LockStore \x7b location: " ++ Text.quoted s.location ++ " \x7d"

/-- The state of the database. -/
def database (w : World) : Store → Database
  | memory => w.memory
  | file path => w.disk.database path

/-- The world with another state of the database. -/
def setDatabase (w : World) (db : Database) : Store → World
  | memory => { w with memory := db }
  | file path => { w with disk := w.disk.putDatabase path db }

/-- Puts a statement. -/
def put {α : Type} (s : Store) (statement : Database → Database.Reply α) :
    StateM World (Except StoreFault α) := fun w =>
  let (answer, db) := statement (s.database w)
  (answer, s.setDatabase w db)

/-- Puts a statement whose failure ends the request. -/
def demand {α : Type} (s : Store) (statement : Database → Database.Reply α) :
    StateM World (Except Fault α) := do
  return (← s.put statement).mapError StoreFault.toFault

/-- The longest time to wait for a busy database, in milliseconds; a longer one breaks off
the opening. -/
def longestBusyTimeout : Nat := 2147483647

/-- Makes the directories above a database file. -/
def makeParent (path : String) : StateM World (Except Fault Unit) := fun w =>
  match Path.parent path with
  | some above =>
    if above.isEmpty then (.ok (), w)
    else
      match w.disk.makeDirectories above with
      | .ok disk => (.ok (), { w with disk })
      | .error f =>
        (.error (.storage
          ("Failed to ensure parent directory " ++ above ++ " exists: " ++ f.message)), w)
  | none => (.ok (), w)

/-- Opens the file of a shared database, which is created if it is not there. -/
def openFile (path : String) (busyTimeout : Span) : StateM World (Outcome Store) := do
  match ← makeParent path with
  | .error f => return .fault f
  | .ok () =>
    match (← get).disk.openDatabase path, decide (longestBusyTimeout < busyTimeout.millis) with
    | .error (.cannotOpen p), _ => return .fault (StoreFault.cannotOpen p).toFault
    | _, true => return .crash
    | .error f, false => return .fault f.toFault
    | .ok disk, false =>
      modify fun w => { w with disk }
      Journal.debug .store ("Opened lock store at " ++ path ++ " (journal mode wal)")
      return .answer (.file path)

end Store

end Leasehold

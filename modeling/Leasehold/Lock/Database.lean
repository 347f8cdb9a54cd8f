import Leasehold.Fault.Basic
import Leasehold.Lock.Table

/-!
# Databases of locks

A database has a lock table or has none yet.  `Database.run` and `Database.ask`
are the two ways to put a statement to it: a statement that changes the table,
and one that only reads.  Without a table both fail and change nothing.
-/

namespace Leasehold

/-- Why a statement failed, or a database could not be opened. -/
inductive StoreFault where
  /-- There is no lock table. -/
  | noTable
  /-- A row has a cell that cannot be read. -/
  | unreadable (cell : Unreadable)
  /-- The key of a new row is already there. -/
  | duplicateKey
  /-- Insertions are already muted. -/
  | alreadyMuted
  /-- The file holds something else. -/
  | notADatabase
  /-- The file cannot be opened. -/
  | cannotOpen (path : String)
  deriving DecidableEq

/-- The wording of a failed statement. -/
def StoreFault.message : StoreFault → String
  | noTable => "no such table: locks"
  | unreadable u =>
    "Invalid column type " ++ u.found.kind ++ " at index: " ++ toString u.column.index ++
      ", name: " ++ u.column.name
  | duplicateKey => "UNIQUE constraint failed: locks.resourceId"
  | alreadyMuted => "trigger vanish already exists"
  | notADatabase => "file is not a database"
  | cannotOpen path => "unable to open database file: " ++ path

/-- A database, with its lock table if it has one. -/
structure Database where
  table : Option Table
  deriving DecidableEq, Inhabited

namespace Database

/-- A database without a table. -/
def empty : Database := ⟨none⟩

/-- The answer of a statement and the database after it. -/
abbrev Reply (α : Type) := Except StoreFault α × Database

/-- Puts a statement that may change the table. -/
def run {α : Type} (statement : Table → α × Table) (db : Database) : Reply α :=
  match db.table with
  | some t => (.ok (statement t).1, ⟨some (statement t).2⟩)
  | none => (.error .noTable, db)

/-- Puts a statement that only reads. -/
def ask {α : Type} (question : Table → Except Unreadable α) (db : Database) : Reply α :=
  match db.table with
  | some t => ((question t).mapError .unreadable, db)
  | none => (.error .noTable, db)

/-- Creates the table unless it is there. -/
def ensureSchema (db : Database) : Reply Unit := (.ok (), ⟨some (db.table.getD Table.empty)⟩)

/-- Inserts a row unless its resource has one. -/
def insertIfAbsent (row : LockRow) : Database → Reply Bool := run (Table.insertIfAbsent row)

/-- The row of a resource. -/
def select (resource : String) : Database → Reply (Option LockRow) := ask (Table.select resource)

/-- Gives a stale row to the claimant. -/
def stealIfStale (claim : LockRow) (now : Int) : Database → Reply Bool :=
  run (Table.stealIfStale claim now)

/-- Moves the deadline of an owner's row. -/
def extend (resource owner : String) (deadline : Int) : Database → Reply Bool :=
  run (Table.extend resource owner deadline)

/-- Removes an owner's row. -/
def delete (resource owner : String) : Database → Reply Bool := run (Table.delete resource owner)

/-- The owner has a row whose deadline is not past. -/
def isActive (resource owner : String) (now : Int) : Database → Reply Bool :=
  ask fun t => .ok (t.isActive resource owner now)

/-- All rows in the order of their keys. -/
def list : Database → Reply (List LockRow) := ask Table.list

/-- Removes the rows whose deadline lies before the cutoff. -/
def purgeBefore (cutoff : Int) : Database → Reply Nat := run (Table.purgeBefore cutoff)

/-! ## Statements of other programs -/

/-- Inserts four values into a new row. -/
def insertValues (e : Entry) (db : Database) : Reply Nat :=
  match db.run (Table.insertValues e) with
  | (.ok (some n), db) => (.ok n, db)
  | (.ok none, db) => (.error .duplicateKey, db)
  | (.error f, db) => (.error f, db)

/-- Removes the table with all that belongs to it. -/
def dropTable (db : Database) : Reply Nat :=
  match db.table with
  | some _ => (.ok 0, ⟨none⟩)
  | none => (.error .noTable, db)

/-- Makes every later insertion change nothing. -/
def muteInsertions (db : Database) : Reply Nat :=
  match db.table with
  | some t => if t.mute then (.error .alreadyMuted, db) else (.ok 0, ⟨some { t with mute := true }⟩)
  | none => (.error .noTable, db)

@[simp] theorem run_some {α : Type} (statement : Table → α × Table) (t : Table) :
    run statement ⟨some t⟩ = (.ok (statement t).1, ⟨some (statement t).2⟩) := rfl

/-- A question changes nothing. -/
@[simp] theorem ask_snd {α : Type} (question : Table → Except Unreadable α) (db : Database) :
    (ask question db).2 = db := by
  unfold ask
  split <;> rfl

@[simp] theorem select_snd (resource : String) (db : Database) : (select resource db).2 = db :=
  ask_snd _ _

end Database

/-- A statement's fault as the fault of the whole request. -/
def StoreFault.toFault (f : StoreFault) : Fault := .database f.message

end Leasehold

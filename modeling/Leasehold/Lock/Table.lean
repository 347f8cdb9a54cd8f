import Leasehold.Lock.Cell
import Leasehold.Lock.Row

/-!
# The lock table

Rows in the order of their keys, at most one to a resource.  Each operation is
one statement: what it does, it does to the table as a whole and at once.
`Table.WellFormed` is the order of the keys, which every statement keeps, and
`entryOf?` is the view through which statements are described: what a statement
does to the row of its own resource, and that it leaves all others alone.
-/

namespace Leasehold

/-- A row as the table holds it. -/
structure Entry where
  key : Cell
  host : Cell
  owner : Cell
  deadline : Cell
  deriving DecidableEq, Inhabited

/-- A column of the table. -/
inductive Column where
  | key
  | host
  | owner
  | deadline
  deriving DecidableEq

namespace Column

/-- The place of a column. -/
def index : Column → Nat
  | key => 0
  | host => 1
  | owner => 2
  | deadline => 3

/-- The name of a column in the table's definition. -/
def name : Column → String
  | key => "resourceId"
  | host => "host"
  | owner => "owner"
  | deadline => "expirationTime"

end Column

/-- A cell of a kind that its column cannot be read as. -/
structure Unreadable where
  column : Column
  found : Cell
  deriving DecidableEq

namespace Entry

/-- The entry of a row. -/
def ofRow (r : LockRow) : Entry :=
  ⟨.text r.resource, .text r.host, .text r.owner, .integer r.deadline⟩

/-- The entry that the columns keep of four values. -/
def stored (key host owner deadline : Cell) : Entry :=
  ⟨key.storedAsText, host.storedAsText, owner.storedAsText, deadline.storedAsNumber⟩

/-- Reads a text, for which a null is empty. -/
def readText (column : Column) : Cell → Except Unreadable String
  | .text s => .ok s
  | .null => .ok ""
  | c => .error ⟨column, c⟩

/-- Reads a key, which is a text. -/
def readKey : Cell → Except Unreadable String
  | .text s => .ok s
  | c => .error ⟨.key, c⟩

/-- Reads a deadline, for which a null is zero. -/
def readDeadline : Cell → Except Unreadable Int
  | .integer n => .ok n
  | .null => .ok 0
  | c => .error ⟨.deadline, c⟩

/-- Reads the columns of an entry from left to right. -/
def row (e : Entry) : Except Unreadable LockRow := do
  let resource ← readKey e.key
  let host ← readText .host e.host
  let owner ← readText .owner e.owner
  let deadline ← readDeadline e.deadline
  return ⟨resource, host, owner, deadline⟩

@[simp] theorem row_ofRow (r : LockRow) : (ofRow r).row = .ok r := rfl

end Entry

/-- The lock table. -/
structure Table where
  /-- The rows in the order of their keys. -/
  entries : List Entry
  /-- Insertions change nothing. -/
  mute : Bool
  deriving DecidableEq, Inhabited

namespace Table

/-- A table without rows. -/
def empty : Table := ⟨[], false⟩

/-- The keys ascend strictly and are texts. -/
def WellFormed (t : Table) : Prop :=
  t.entries.Pairwise (fun a b => a.key.keyBefore b.key = true) ∧
    ∀ e ∈ t.entries, ∃ s, e.key = .text s

/-- The entry belongs to a resource. -/
def isOf (resource : String) (e : Entry) : Bool := e.key = .text resource

/-- The entry belongs to a resource and an owner. -/
def isOwned (resource owner : String) (e : Entry) : Bool :=
  e.key = .text resource && e.owner = .text owner

/-- The entry of a resource. -/
def entryOf? (t : Table) (resource : String) : Option Entry := t.entries.find? (isOf resource)

/-- Puts an entry before the first one whose key comes later. -/
def place (e : Entry) : List Entry → List Entry
  | [] => [e]
  | f :: rest => if e.key.keyBefore f.key then e :: f :: rest else f :: place e rest

/-- Changes the entries that pass a test, and counts them. -/
def update (test : Entry → Bool) (change : Entry → Entry) (t : Table) : Nat × Table :=
  (t.entries.countP test,
    { t with entries := t.entries.map fun e => if test e then change e else e })

/-- Removes the entries that pass a test, and counts them. -/
def remove (test : Entry → Bool) (t : Table) : Nat × Table :=
  (t.entries.countP test, { t with entries := t.entries.filter fun e => !test e })

/-! ## Statements -/

/-- Inserts a row unless its resource has one. -/
def insertIfAbsent (row : LockRow) (t : Table) : Bool × Table :=
  if t.mute || (t.entryOf? row.resource).isSome then (false, t)
  else (true, { t with entries := place (Entry.ofRow row) t.entries })

/-- The row of a resource. -/
def select (resource : String) (t : Table) : Except Unreadable (Option LockRow) :=
  match t.entryOf? resource with
  | some e => e.row.map some
  | none => .ok none

/-- Gives a stale row to the claimant.  The test belongs to the statement. -/
def stealIfStale (claim : LockRow) (now : Int) (t : Table) : Bool × Table :=
  let (n, t) := t.update (fun e => isOf claim.resource e && e.deadline.below now) fun e =>
    { e with
      host := .text claim.host, owner := .text claim.owner, deadline := .integer claim.deadline }
  (n = 1, t)

/-- Moves the deadline of an owner's row, stale or not. -/
def extend (resource owner : String) (deadline : Int) (t : Table) : Bool × Table :=
  let (n, t) := t.update (isOwned resource owner) fun e => { e with deadline := .integer deadline }
  (n = 1, t)

/-- Removes an owner's row. -/
def delete (resource owner : String) (t : Table) : Bool × Table :=
  let (n, t) := t.remove (isOwned resource owner)
  (n = 1, t)

/-- The owner has a row whose deadline is not past. -/
def isActive (resource owner : String) (now : Int) (t : Table) : Bool :=
  t.entries.any fun e => isOwned resource owner e && e.deadline.atLeast now

/-- All rows in the order of their keys. -/
def list (t : Table) : Except Unreadable (List LockRow) := t.entries.mapM Entry.row

/-- Removes the rows whose deadline lies before the cutoff, and counts them. -/
def purgeBefore (cutoff : Int) (t : Table) : Nat × Table :=
  t.remove fun e => e.deadline.below cutoff

/-- Inserts four values as another program would, and counts the rows.  Fails with a key
that is already there. -/
def insertValues (e : Entry) (t : Table) : Option Nat × Table :=
  if t.mute then (some 0, t)
  else if e.key ≠ .null && t.entries.any (·.key = e.key) then (none, t)
  else (some 1, { t with entries := place e t.entries })

/-! ## What statements leave alone -/

theorem mem_place {e x : Entry} {es : List Entry} : x ∈ place e es ↔ x = e ∨ x ∈ es := by
  induction es with
  | nil => simp [place]
  | cons f rest ih =>
    unfold place
    split
    · simp
    · simp only [List.mem_cons, ih]
      exact or_left_comm

theorem wellFormed_empty : WellFormed empty := by simp [WellFormed, empty]

end Table

end Leasehold

import Leasehold.Json
import Leasehold.Lock.Row
import Leasehold.Text.Grid

/-!
# Reports on lock rows

What is said of one resource and of the whole table, as text and as JSON.
-/

namespace Leasehold

/-- The JSON form of a row. -/
def LockRow.toJson (r : LockRow) : Json :=
  .record [("resource_id", .text r.resource), ("host", .text r.host), ("owner", .text r.owner),
    ("expiration_time", .whole r.deadline)]

/-- The end of a row's lease as text, if it is a date. -/
def LockRow.expiryText? (r : LockRow) : Option String := r.expiry?.map Calendar.text

/-- What is known about a resource, and about an owner if one was named. -/
structure StatusReport where
  resource : String
  state : LockState
  row : Option LockRow
  /-- The owner that was asked about, and whether the lease is the owner's. -/
  owner : Option (String × Bool)

namespace StatusReport

/-- The report as JSON; what is not known is left out. -/
def toJson (r : StatusReport) : Json :=
  let known (name : String) (v : Option Json) : List (String × Json) :=
    (v.map ((name, ·))).toList
  .record ([("resource", .text r.resource), ("state", .text r.state.text)] ++
    known "row" (r.row.map LockRow.toJson) ++
    known "expires_at" (r.row.bind fun row => row.expiryText?.map .text) ++
    known "held_by_owner" (r.owner.map fun o => .bool o.2))

/-- The lines about the row. -/
def rowLines (r : StatusReport) : List String :=
  match r.row with
  | none => [r.resource ++ " is unlocked"]
  | some row =>
    [r.resource ++ " is " ++ r.state.text, "  Owner:   " ++ row.owner, "  Host:    " ++ row.host,
      "  Expires: " ++ row.expiryText?.getD "unknown"]

/-- The line about the owner. -/
def ownerLine (owner : String × Bool) : String :=
  "  Held by " ++ owner.1 ++ ": " ++ (if owner.2 then "yes" else "no")

/-- The report as lines. -/
def lines (r : StatusReport) : List String := r.rowLines ++ (r.owner.map ownerLine).toList

end StatusReport

/-- A number of things, with the plural unless there is exactly one. -/
def counted (n : Nat) (thing : String) : String :=
  toString n ++ " " ++ thing ++ (if n = 1 then "" else "s")

/-- All rows, at a clock reading if there is one. -/
structure TableReport where
  rows : List LockRow
  now : Option Int

namespace TableReport

/-- The report as JSON. -/
def toJson (r : TableReport) : Json := .list (r.rows.map LockRow.toJson)

/-- The cells of a row. -/
def cells (now : Int) (row : LockRow) : List String :=
  [row.resource, row.owner, row.host, row.expiryText?.getD "",
    (LockState.ofRow? (some row) now).text]

/-- The boxed table at a clock reading. -/
def grid (r : TableReport) (now : Int) : Text.Grid :=
  ⟨["Resource", "Owner", "Host", "Expires", "State"], r.rows.map (cells now)⟩

/-- The report as lines; those on rows need a clock reading. -/
def lines? (r : TableReport) : Option (List String) :=
  if r.rows.isEmpty then some ["No lock rows"]
  else r.now.map fun now => [(r.grid now).render, counted r.rows.length "row"]

end TableReport

end Leasehold

import Leasehold.Time.Calendar

/-!
# Lock rows

Who holds a resource, on which machine, and until when.  A row is stale as soon
as the clock is strictly past its deadline; at the deadline itself it still
counts (`isStaleAt_iff`).
-/

namespace Leasehold

/-- One row of the lock table. -/
structure LockRow where
  resource : String
  host : String
  owner : String
  /-- The end of the lease, in milliseconds since the epoch. -/
  deadline : Int
  deriving DecidableEq, Inhabited

/-- What a row, or its absence, means to somebody who wants the resource. -/
inductive LockState where
  | unlocked
  | locked
  | expired
  deriving DecidableEq

namespace LockRow

/-- The lease has run out at `now`. -/
def isStaleAt (r : LockRow) (now : Int) : Bool := r.deadline < now

/-- The end of the lease as a date. -/
def expiry? (r : LockRow) : Option Calendar := Calendar.ofMillis? r.deadline

theorem isStaleAt_iff (r : LockRow) (now : Int) : r.isStaleAt now = true ↔ r.deadline < now := by
  simp [isStaleAt]

end LockRow

namespace LockState

/-- The state of a resource whose row is given. -/
def ofRow? (row : Option LockRow) (now : Int) : LockState :=
  match row with
  | none => unlocked
  | some r => if r.isStaleAt now then expired else locked

/-- The name of a state in reports. -/
def text : LockState → String
  | unlocked => "unlocked"
  | locked => "locked"
  | expired => "expired"

end LockState

/-- The grace after which a stale row may be swept away: a lease and a minute, and at least
ten minutes.  A lease so long that the sum is no span has the least grace. -/
def defaultGrace (lease : Span) : Span :=
  match lease.add? (Span.ofSeconds 60) with
  | some grace => grace.longer (Span.ofSeconds 600)
  | none => Span.ofSeconds 600

example : defaultGrace (Span.ofSeconds 30) = Span.ofSeconds 600 := by decide +kernel
example : defaultGrace Span.longest = Span.ofSeconds 600 := by decide +kernel

end Leasehold

import Leasehold.Lock.Store

/-!
# Sweeping stale rows away

A row that is long past its deadline can be taken over by anybody, so removing it
changes nobody's chances; it only keeps the table from growing.  A sweep is one
statement with a cutoff that lies a grace before the clock.
-/

namespace Leasehold

/-- What a sweep did. -/
structure SweepReport where
  removed : Nat
  /-- Rows with an earlier deadline were removed. -/
  cutoff : Int
  deriving DecidableEq, Inhabited

/-- The sweep of a database at a clock reading. -/
def Database.sweep (now : Int) (grace : Span) (db : Database) : Database.Reply SweepReport :=
  let cutoff := momentBefore now grace
  let (removed, db) := db.purgeBefore cutoff
  (removed.map fun removed => ⟨removed, cutoff⟩, db)

/-- Sweeps a store now; `none` if the clock cannot be read. -/
def Store.sweep (s : Store) (grace : Span) :
    StateM World (Option (Except Fault SweepReport)) :=
  World.atNow fun now => do
    let started ← World.uptime
    match ← s.demand (Database.sweep now grace) with
    | .error f => return .error f
    | .ok report =>
      let took := Span.saturate ((← World.uptime) - started)
      Journal.debug .sweep ("Lock hygiene sweep removed " ++ toString report.removed ++
        " row(s) expired before " ++ toString report.cutoff ++ " in " ++ took.secondsText 3 ++ "s")
      return .ok report

end Leasehold

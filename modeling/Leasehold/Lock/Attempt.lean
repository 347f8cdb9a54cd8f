import Leasehold.Lock.Database

/-!
# One attempt to get a lock

An attempt is up to three statements, and any other client may come in between:
insert the row; if the resource has one, read it; if that row is stale, take it
over, provided that the statement itself still finds it stale.  All three use the
clock reading made at the start.

`Attempt.step` puts the next statement, so that attempts of several clients can be
interleaved; `Attempt.perform` is an attempt that nobody disturbs.  How an attempt
ends (`Ending`) says both the answer and what is noted about it.
-/

namespace Leasehold

/-- What somebody wants to write, and the clock reading behind it. -/
structure Claim where
  row : LockRow
  now : Int
  deriving DecidableEq

/-- The claim for a lease that begins at `now`. -/
def Claim.new (now : Int) (resource host owner : String) (lease : Span) : Claim :=
  ⟨⟨resource, host, owner, deadlineAfter now lease⟩, now⟩

/-- How an attempt ended. -/
inductive Ending where
  /-- There was no row. -/
  | inserted
  /-- There was a row at first, and then there was none. -/
  | vanished
  /-- The row is not stale. -/
  | held (row : LockRow)
  /-- The stale row was taken over. -/
  | tookOver (row : LockRow)
  /-- The row was stale when it was read, but no longer. -/
  | lostRace
  /-- A statement failed. -/
  | failed (fault : StoreFault)
  deriving DecidableEq

namespace Ending

/-- The lock is granted or refused, or the attempt failed. -/
def answer : Ending → Except StoreFault Bool
  | inserted | tookOver _ => .ok true
  | vanished | held _ | lostRace => .ok false
  | failed f => .error f

/-- The lock is granted. -/
def granted : Ending → Bool
  | inserted | tookOver _ => true
  | vanished | held _ | lostRace | failed _ => false

/-- What is noted about the end of an attempt for `owner`, if anything. -/
def note? (resource owner : String) : Ending → Option String
  | inserted => some ("Inserted lock row for " ++ resource ++ " owned by " ++ owner)
  | vanished => some ("Lock row for " ++ resource ++ " vanished during acquire")
  | held r =>
    some ("Lock on " ++ resource ++ " is held by " ++ r.owner ++ " on " ++ r.host ++ " until " ++
      toString r.deadline)
  | tookOver r =>
    some ("Took over stale lock on " ++ resource ++ " from " ++ r.owner ++ " for " ++ owner)
  | lostRace => some ("Lost race to take over stale lock on " ++ resource)
  | failed _ => none

theorem granted_iff (e : Ending) : e.granted = true ↔ e.answer = .ok true := by
  cases e <;> simp [granted, answer]

end Ending

/-- What an attempt does next. -/
inductive Attempt where
  | insert
  | read
  | steal (seen : LockRow)
  | done (ending : Ending)
  deriving DecidableEq

namespace Attempt

/-- Puts the next statement.  An attempt that is done stays so and touches nothing. -/
def step (claim : Claim) (attempt : Attempt) (db : Database) : Attempt × Database :=
  match attempt with
  | insert =>
    match db.insertIfAbsent claim.row with
    | (.ok true, db) => (done .inserted, db)
    | (.ok false, db) => (read, db)
    | (.error f, db) => (done (.failed f), db)
  | read =>
    match db.select claim.row.resource with
    | (.ok none, db) => (done .vanished, db)
    | (.ok (some row), db) =>
      if row.isStaleAt claim.now then (steal row, db) else (done (.held row), db)
    | (.error f, db) => (done (.failed f), db)
  | steal seen =>
    match db.stealIfStale claim.row claim.now with
    | (.ok true, db) => (done (.tookOver seen), db)
    | (.ok false, db) => (done .lostRace, db)
    | (.error f, db) => (done (.failed f), db)
  | done ending => (done ending, db)

/-- The whole attempt without anybody in between. -/
def perform (claim : Claim) (db : Database) : Ending × Database :=
  let s₁ := step claim insert db
  let s₂ := step claim s₁.1 s₁.2
  let s₃ := step claim s₂.1 s₂.2
  match s₃.1 with
  | done ending => (ending, s₃.2)
  | _ => (.vanished, s₃.2)

@[simp] theorem step_done (claim : Claim) (ending : Ending) (db : Database) :
    step claim (done ending) db = (done ending, db) := rfl

/-- After three statements every attempt is done. -/
theorem step_step_step_done (claim : Claim) (db₁ db₂ db₃ : Database) :
    ∃ ending, (step claim (step claim (step claim insert db₁).1 db₂).1 db₃).1 = done ending := by
  have last : ∀ a db, (a = insert → False) → (a = read → False) →
      ∃ ending, (step claim a db).1 = done ending := by
    intro a db hi hr
    cases a with
    | insert => exact absurd rfl hi
    | read => exact absurd rfl hr
    | steal seen => simp only [step]; split <;> exact ⟨_, rfl⟩
    | done e => exact ⟨e, rfl⟩
  have second : ∀ a db, (a = insert → False) →
      (step claim a db).1 ≠ insert ∧ (step claim a db).1 ≠ read := by
    intro a db hi
    cases a with
    | insert => exact absurd rfl hi
    | read => simp only [step]; split <;> (try split) <;> simp
    | steal seen => simp only [step]; split <;> simp
    | done e => simp
  have first : (step claim insert db₁).1 ≠ insert := by
    simp only [step]; split <;> simp
  have h := second _ db₂ first
  exact last _ db₃ h.1 h.2

end Attempt

end Leasehold

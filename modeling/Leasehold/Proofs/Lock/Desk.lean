import Leasehold.Proofs.Lock.Renewal
import Leasehold.Proofs.Lock.Requests
import Mathlib.Logic.Function.Iterate

/-!
# A process with several calls and one renewal pass

The threads of a process lock and unlock while its heartbeat renews what is held.  None
of this is one step: a lock puts the statements of its attempt and takes in what it was
granted, an unlock ceases to renew before it gives the row up, and a renewal pass works
on a snapshot, with one statement for each entry and, where that fails, a look at the
held locks afterwards.

`Desk` lets these steps come in any order.  Left alone, a pass is `Held.renewAll`
(`Desk.run_tick`), a lock is an attempt that nobody disturbs (`Desk.run_lock`), and an
unlock is its two steps (`Desk.run_unlock`).
-/

namespace Leasehold

/-- What a call of the process is about to do. -/
inductive Visit where
  /-- A lock: its attempt goes on, and what it is granted is then taken in. -/
  | lock (claim : Claim) (lease : Span) (attempt : Attempt)
  /-- An unlock that has yet to cease renewing. -/
  | untrack (resource owner : String)
  /-- An unlock that has yet to give the row up. -/
  | release (resource owner : String)
  | ended
  deriving DecidableEq

namespace Visit

/-- The job whose statement comes next; without a statement nothing is left of it. -/
def job : Visit → Job
  | lock claim _ attempt => .acquire claim attempt
  | release resource owner => .release resource owner
  | untrack _ _ | ended => .finished

/-- The call has not taken a step yet. -/
def isBegun : Visit → Bool
  | lock _ _ .insert | untrack _ _ => true
  | lock _ _ .read | lock _ _ (.steal _) | lock _ _ (.done _) | release _ _ | ended => false

/-- The lock that is taken in next. -/
def takes? : Visit → Option HeldLock
  | lock claim lease (.done ending) =>
    if ending.granted then some ⟨claim.row.resource, claim.row.owner, lease⟩ else none
  | lock _ _ .insert | lock _ _ .read | lock _ _ (.steal _) | untrack _ _ | release _ _ | ended =>
    none

/-- The held locks after the next step. -/
def heldAfter (v : Visit) (held : Held) : Held :=
  match v with
  | untrack resource owner => (held.untrack resource owner).2
  | lock _ _ _ | release _ _ | ended => (v.takes?.map fun lock => held.track lock).getD held

/-- What comes after the next step. -/
def next (db : Database) : Visit → Visit
  | lock _ _ (.done _) => ended
  | lock claim lease attempt => lock claim lease (attempt.step claim db).1
  | untrack resource owner => release resource owner
  | release _ _ | ended => ended

end Visit

/-- How far a renewal pass is. -/
inductive Pass where
  | waiting
  /-- It extends the first of these next. -/
  | renewing (rest : List HeldLock)
  /-- The extension of a lock has failed; it looks next whether that lock is still held. -/
  | checking (lock : HeldLock) (rest : List HeldLock)
  deriving DecidableEq

/-- The lock that a pass is about to look for. -/
def Pass.checks? : Pass → Option HeldLock
  | checking lock _ => some lock
  | waiting | renewing _ => none

/-- A process at work on its table. -/
structure Desk where
  db : Database
  clock : Int
  held : Held
  /-- The calls, in the order in which they began. -/
  visits : List Visit
  pass : Pass
  /-- The losses that were reported. -/
  lost : List HeldLock
  deriving DecidableEq

namespace Desk

/-- What can happen next. -/
inductive Move where
  /-- Time passes. -/
  | pass (millis : Nat)
  /-- A lock is called for. -/
  | lock (resource host owner : String) (lease : Span)
  /-- An unlock is called for. -/
  | unlock (resource owner : String)
  /-- A call takes its next step. -/
  | act (index : Nat)
  /-- The renewal pass takes its next step. -/
  | tick
  deriving DecidableEq

/-- A process that holds nothing and does nothing. -/
def idle (db : Database) (clock : Int) : Desk := ⟨db, clock, [], [], .waiting, []⟩

/-- The desk after the next step of the renewal pass. -/
def beat (s : Desk) : Desk :=
  match s.pass with
  | .waiting => { s with pass := .renewing s.held }
  | .renewing [] => s
  | .renewing (l :: rest) =>
    let (answer, db) := s.db.extend l.resource l.owner (deadlineAfter s.clock l.lease)
    { s with db, pass := if answer = .ok true then .renewing rest else .checking l rest }
  | .checking l rest =>
    let (dropped, held) := s.held.dropSame l
    { s with held, pass := .renewing rest, lost := if dropped then s.lost ++ [l] else s.lost }

/-- The desk after the next step of a call. -/
def proceed (s : Desk) (index : Nat) (v : Visit) : Desk :=
  { s with
    db := (v.job.step s.db).2
    held := v.heldAfter s.held
    visits := s.visits.set index (v.next s.db) }

/-- The desk after a move. -/
def step (s : Desk) : Move → Desk
  | .pass millis => { s with clock := s.clock + millis }
  | .lock resource host owner lease =>
    { s with visits := s.visits ++
        [.lock (Claim.new s.clock resource host owner lease) lease .insert] }
  | .unlock resource owner => { s with visits := s.visits ++ [.untrack resource owner] }
  | .act index =>
    match s.visits[index]? with
    | some v => s.proceed index v
    | none => s
  | .tick => s.beat

/-- The desk after a run. -/
def run (s : Desk) (moves : List Move) : Desk := moves.foldl step s

@[simp] theorem run_cons (s : Desk) (m : Move) (moves : List Move) :
    s.run (m :: moves) = (s.step m).run moves := rfl

variable {s : Desk}

theorem step_act {index : Nat} {v : Visit} (h : s.visits[index]? = some v) :
    s.step (.act index) = s.proceed index v := by
  rw [step, h]

/-! ## A pass that nobody disturbs -/

/-- Nothing comes after the end of a pass. -/
theorem run_finished (n : Nat) (h : s.pass = .renewing []) :
    s.run (List.replicate n .tick) = s := by
  induction n with
  | zero => rfl
  | succ n ih =>
    rw [List.replicate_succ, run_cons, step, beat, h]
    exact ih

/-- The loss that the renewal of an entry reports, if it reports one. -/
def lossOf (entry : RenewedEntry) : List HeldLock :=
  if entry.renewal = .lost then [entry.lock] else []

theorem lost_cons (entry : RenewedEntry) (entries : List RenewedEntry) :
    (RenewalReport.ofEntries (entry :: entries)).lost =
      lossOf entry ++ (RenewalReport.ofEntries entries).lost := by
  unfold RenewalReport.ofEntries lossOf
  by_cases h : entry.renewal = .lost <;> simp [h]

/-- An entry of the snapshot is done with in one step or in two. -/
theorem run_entry {l : HeldLock} {rest : List HeldLock} (h : s.pass = .renewing (l :: rest)) :
    ∃ steps, (steps = 1 ∨ steps = 2) ∧
      s.run (List.replicate steps .tick) =
        { s with
          db := (s.held.renew s.clock l s.db).2.2
          held := (s.held.renew s.clock l s.db).2.1
          pass := .renewing rest
          lost := s.lost ++ lossOf (s.held.renew s.clock l s.db).1 } := by
  have first : s.step .tick =
      { s with
        db := (s.db.extend l.resource l.owner (deadlineAfter s.clock l.lease)).2
        pass := if (s.db.extend l.resource l.owner (deadlineAfter s.clock l.lease)).1 = .ok true
          then .renewing rest else .checking l rest } := by
    rw [step, beat, h]
  rw [Held.renew]
  generalize s.db.extend l.resource l.owner (deadlineAfter s.clock l.lease) = reply at first
  obtain ⟨answer, db⟩ := reply
  by_cases granted : answer = .ok true
  · subst granted
    refine ⟨1, .inl rfl, ?_⟩
    show s.step .tick = _
    rw [first]
    simp [lossOf]
  · refine ⟨2, .inr rfl, ?_⟩
    show (s.step .tick).step .tick = _
    rw [first]
    dsimp only
    rw [if_neg granted, step, beat]
    dsimp only
    generalize s.held.dropSame l = dropping
    obtain ⟨dropped, held⟩ := dropping
    cases answer with
    | error f => cases dropped <;> simp [lossOf]
    | ok renewed =>
      cases renewed with
      | true => exact absurd rfl granted
      | false => cases dropped <;> simp [lossOf]

/-- The steps of a pass over a snapshot are `Held.renewAll`. -/
theorem run_renewing (snapshot : List HeldLock) (n : Nat) (s : Desk)
    (h : s.pass = .renewing snapshot) :
    s.run (List.replicate (2 * snapshot.length + n) .tick) =
      { s with
        db := (Held.renewAll s.clock snapshot s.held s.db).2.2
        held := (Held.renewAll s.clock snapshot s.held s.db).2.1
        pass := .renewing []
        lost := s.lost ++ (RenewalReport.ofEntries
          (Held.renewAll s.clock snapshot s.held s.db).1).lost } := by
  induction snapshot generalizing s n with
  | nil =>
    rw [run_finished _ h]
    obtain ⟨db, clock, held, visits, pass, lost⟩ := s
    cases h
    simp [RenewalReport.ofEntries]
  | cons l rest ih =>
    obtain ⟨steps, few, done⟩ := run_entry h
    have count : 2 * (l :: rest).length + n = steps + (2 * rest.length + (n + 2 - steps)) := by
      rw [List.length_cons]
      omega
    rw [count, List.replicate_add, run, List.foldl_append]
    change ((s.run (List.replicate steps .tick)).run _) = _
    rw [done, ih _ _ rfl, Held.renewAll_cons, lost_cons, List.append_assoc]

/-- A pass that nobody disturbs renews all that is held when it begins. -/
theorem run_tick (n : Nat) (h : s.pass = .waiting) :
    s.run (.tick :: List.replicate (2 * s.held.length + n) .tick) =
      { s with
        db := (Held.renewAll s.clock s.held s.held s.db).2.2
        held := (Held.renewAll s.clock s.held s.held s.db).2.1
        pass := .renewing []
        lost := s.lost ++ (RenewalReport.ofEntries
          (Held.renewAll s.clock s.held s.held s.db).1).lost } := by
  have begun : s.step .tick = { s with pass := .renewing s.held } := by
    rw [step, beat, h]
  rw [run_cons, begun]
  exact run_renewing s.held n { s with pass := .renewing s.held } rfl

/-! ## Calls that nobody disturbs -/

/-- The next step of the call that began last. -/
theorem step_last (s : Desk) (v : Visit) :
    { s with visits := s.visits ++ [v] }.step (.act s.visits.length) =
      { s with
        db := (v.job.step s.db).2
        held := v.heldAfter s.held
        visits := s.visits ++ [v.next s.db] } := by
  have last : { s with visits := s.visits ++ [v] }.visits[s.visits.length]? = some v := by simp
  rw [step_act last]
  simp [proceed]

/-- An unlock ceases to renew, and then gives the row up. -/
theorem run_unlock (s : Desk) (resource owner : String) :
    s.run [.unlock resource owner, .act s.visits.length, .act s.visits.length] =
      { s with
        db := (s.db.delete resource owner).2
        held := (s.held.untrack resource owner).2
        visits := s.visits ++ [Visit.ended] } := by
  rw [run_cons, step, run_cons, step_last, run_cons]
  exact step_last { s with held := (s.held.untrack resource owner).2 } (.release resource owner)

/-- A call that is over takes no step any more. -/
theorem run_ended (n : Nat) (s : Desk) :
    { s with visits := s.visits ++ [Visit.ended] }.run (List.replicate n (.act s.visits.length)) =
      { s with visits := s.visits ++ [Visit.ended] } := by
  induction n with
  | zero => rfl
  | succ n ih =>
    rw [List.replicate_succ, run_cons, step_last]
    exact ih

/-- The steps of a lock whose attempt is done after so many statements. -/
theorem run_attempt {claim : Claim} {lease : Span} {ending : Ending} {db : Database} (n : Nat)
    (a : Attempt) (s : Desk)
    (h : (fun p : Attempt × Database => p.1.step claim p.2)^[n] (a, s.db) = (.done ending, db)) :
    { s with visits := s.visits ++ [Visit.lock claim lease a] }.run
        (List.replicate (n + 1) (.act s.visits.length)) =
      { s with
        db := db
        held := (Visit.lock claim lease (.done ending)).heldAfter s.held
        visits := s.visits ++ [Visit.ended] } := by
  induction n generalizing a s with
  | zero =>
    cases h
    exact step_last s (.lock claim lease (.done ending))
  | succ n ih =>
    rw [Function.iterate_succ_apply] at h
    rw [List.replicate_succ, run_cons, step_last]
    cases a with
    | done ending' =>
      have still : (fun p : Attempt × Database => p.1.step claim p.2)^[n] (.done ending', s.db) =
          (.done ending', s.db) := Function.iterate_fixed rfl n
      cases still.symm.trans h
      exact run_ended (n + 1)
        { s with held := (Visit.lock claim lease (.done ending)).heldAfter s.held }
    | insert => exact ih _ { s with db := (Attempt.insert.step claim s.db).2 } h
    | read => exact ih _ { s with db := (Attempt.read.step claim s.db).2 } h
    | steal seen => exact ih _ { s with db := ((Attempt.steal seen).step claim s.db).2 } h

/-- A lock is an attempt, and what it is granted is taken in. -/
theorem run_lock (s : Desk) (resource host owner : String) (lease : Span) :
    s.run (.lock resource host owner lease :: List.replicate 4 (.act s.visits.length)) =
      { s with
        db := (Attempt.perform (Claim.new s.clock resource host owner lease) s.db).2
        held :=
          if (Attempt.perform (Claim.new s.clock resource host owner lease) s.db).1.granted then
            s.held.track ⟨resource, owner, lease⟩
          else s.held
        visits := s.visits ++ [Visit.ended] } := by
  obtain ⟨ending, hdone, hperform⟩ :=
    Attempt.perform_eq (Claim.new s.clock resource host owner lease) s.db
  rw [hperform, run_cons, step]
  refine (run_attempt 3 .insert s (Prod.ext hdone rfl)).trans ?_
  cases hgranted : ending.granted <;> simp [Visit.heldAfter, Visit.takes?, hgranted, Claim.new]

end Desk

end Leasehold

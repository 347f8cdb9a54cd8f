import Leasehold.Proofs.Lock.Effect
import Leasehold.Proofs.Lock.Rollback
import Leasehold.Proofs.Lock.Settlement

/-!
# Attempts that nobody asks about

A waiter may go away without a word and without having seen an answer.  What it leaves behind
depends on who was first.  If the waiter was, then the worker finds it gone and gives back what
it acquires.  If the worker was, then its answer stands in the slot, nobody will ever read it,
and the lock stays until its owner gives it up or its lease is over.

The slot decides this, whatever the work was (`Meeting.Unread.ends`).  At the table the worker is
an attempt that nobody comes in between of (`Attempt.progress`), and `Background.Solo` lists how
far it can be, with all that goes with it.  A step leads from one of these stages to another
(`Solo.step`), the departure of the waiter is one more (`Solo.leave`), and what a worker leaves
at its end is read off the stages (`Solo.of_ended_left`, `Solo.of_ended_first`).
-/

namespace Leasehold

/-! ## What a rollback leaves of what was written -/

namespace Table

variable {t t' : Table} {row : LockRow}

theorem Written.entryOf? (h : t.Written row t') :
    t'.entryOf? row.resource = some (Entry.ofRow row) := by
  rw [Table.entryOf?, ← List.head?_filter, h.own]
  rfl

/-- All rows of the resource are the owner's. -/
theorem Written.isOwned_eq (h : t.Written row t') {e : Entry} (he : e ∈ t'.entries) :
    isOwned row.resource row.owner e = isOf row.resource e := by
  cases hof : isOf row.resource e with
  | false => rw [isOwned, ← isOf, hof, Bool.false_and]
  | true =>
    have own : e ∈ t'.entries.filter (isOf row.resource) := List.mem_filter.mpr ⟨he, hof⟩
    rw [h.own, List.mem_singleton] at own
    exact isOwned_iff.mpr (own ▸ ⟨rfl, rfl⟩)

/-- Giving up what was written leaves all rows but those of the resource. -/
theorem Written.delete_snd (h : t.Written row t') :
    (t'.delete row.resource row.owner).2 = (t.remove (isOf row.resource)).2 := by
  have rest : (t'.entries.filter fun e => !isOwned row.resource row.owner e) =
      t'.entries.filter fun e => !isOf row.resource e :=
    List.filter_congr fun e he => congrArg (!·) (h.isOwned_eq he)
  simp only [delete, remove, rest, h.others, h.mute]

end Table

namespace Database

variable {db db' : Database} {row : LockRow} {resource : String}

/-- The database without the rows of a resource. -/
def without (resource : String) (db : Database) : Database :=
  (db.run (Table.remove (Table.isOf resource))).2

theorem entryOf?_without : (db.without resource).entryOf? resource = none := by
  obtain ⟨table⟩ := db
  cases table with
  | none => rfl
  | some t =>
    refine Table.entryOf?_eq_none_iff.mpr fun e he hk => ?_
    simpa [Table.isOf_iff.mpr hk] using (List.mem_filter.mp he).2

theorem Written.delete_snd (h : db.Written row db') :
    (db'.delete row.resource row.owner).2 = db.without row.resource := by
  obtain ⟨t, t', rfl, rfl, written⟩ := h
  exact congrArg (Database.mk ∘ some) written.delete_snd

theorem Written.ownedBy (h : db.Written row db') :
    db'.ownedBy row.resource row.owner = true := by
  obtain ⟨t, t', rfl, rfl, written⟩ := h
  exact (Option.any_eq_true _ _).mpr ⟨_, written.entryOf?, decide_eq_true rfl⟩

end Database

/-! ## An attempt with nobody in between -/

namespace Attempt

variable {claim : Claim} {db : Database} {n : Nat} {ending : Ending}

/-- How far an attempt is after some statements, with nobody in between. -/
def progress (claim : Claim) (db : Database) : Nat → Attempt × Database
  | 0 => (insert, db)
  | n + 1 => step claim (progress claim db n).1 (progress claim db n).2

theorem progress_add_of_done (h : (progress claim db n).1 = done ending) (more : Nat) :
    progress claim db (n + more) = progress claim db n := by
  induction more with
  | zero => rfl
  | succ more ih =>
    show step claim (progress claim db (n + more)).1 (progress claim db (n + more)).2 = _
    rw [ih, h, step_done, ← h]

/-- The third statement is the last one. -/
theorem progress_three (claim : Claim) (db : Database) :
    progress claim db 3 = (done (perform claim db).1, (perform claim db).2) := by
  obtain ⟨ending, hdone⟩ := step_step_step_done claim db (progress claim db 1).2
    (progress claim db 2).2
  have third : (progress claim db 3).1 = done ending := hdone
  have performs : perform claim db = (ending, (progress claim db 3).2) :=
    perform_of_steps rfl rfl (Prod.ext third rfl)
  rw [performs, ← third]

theorem progress_add_three (n : Nat) :
    progress claim db (n + 3) = (done (perform claim db).1, (perform claim db).2) := by
  have third := progress_three claim db
  rw [Nat.add_comm, progress_add_of_done (congrArg Prod.fst third), third]

/-- An attempt that is done has come to what an undisturbed one comes to. -/
theorem progress_of_done (h : (progress claim db n).1 = done ending) :
    progress claim db n = (done (perform claim db).1, (perform claim db).2) :=
  (progress_add_of_done h 3).symm.trans (progress_add_three n)

end Attempt

/-! ## Who was first -/

namespace Meeting

variable {ε : Type} {events : List Event} {slot : Slot} {worker : WorkerStage} {waiting : Bool}

/-- The waiter has gone away without a word and without having seen an answer. -/
structure Unread (events : List Event) : Prop where
  dropped : .dropped ∈ events
  unwaited : ∀ answer, .waited answer ∉ events
  unseen : ∀ answer, .polled (some answer) ∉ events

/-- The waiter of an attempt that acquires was first, and what was acquired is given back once; or
the worker was first, and it is kept. -/
theorem Course.unread (h : Course true events slot worker waiting) (unread : Unread events) :
    (LeftFirst events ∧ ¬SettledFirst events ∧
      (worker = .finished → events.count .gaveBack = 1)) ∨
    (SettledFirst events ∧ ¬LeftFirst events ∧ slot = .answered true ∧ .gaveBack ∉ events) := by
  obtain ⟨dropped, unwaited, unseen⟩ := unread
  cases h with
  | «open» looks => simp at dropped
  | left looks leave leaves =>
    have first := decisive?_leave leaves []
    cases leaves with
    | waited => simp at dropped
    | dropped => exact .inl (by simp [LeftFirst, SettledFirst, first, Event.isDeparture])
  | answered looks known => simp at dropped
  | taken looks known leave leaves =>
    exact .inr (by cases leaves <;> simp [LeftFirst, SettledFirst, Event.isDeparture])
  | vain looks leave leaves refused => cases refused
  | owing looks leave leaves acquired =>
    have first := decisive?_leave leaves [.settled]
    cases leaves with
    | waited => simp at dropped
    | dropped => exact .inl (by simp [LeftFirst, SettledFirst, first, Event.isDeparture])
  | returned looks leave leaves acquired =>
    have first := decisive?_leave leaves [.settled, .gaveBack]
    cases leaves with
    | waited => simp at dropped
    | dropped => exact .inl (by simp [LeftFirst, SettledFirst, first, Event.isDeparture])

variable [Journal ε]

/-- The waiter of an attempt that acquires goes away unread: what becomes of the lock depends on
who was first, and the worker gets to its end. -/
theorem Unread.ends {resource : String} {result : WorkResult} {outer : ε} {moves : List Move}
    (unread : Unread ((begun resource result outer).run moves).1)
    (acquired : result.granted = true) :
    let run := (begun resource result outer).run moves
    (LeftFirst run.1 ∨ SettledFirst run.1) ∧
    (LeftFirst run.1 → run.2.worker = .finished → run.1.count .gaveBack = 1) ∧
    (SettledFirst run.1 → run.2.future.slot = .answered true ∧ .gaveBack ∉ run.1) ∧
    (run.2.run [.work, .work]).2.worker = .finished := by
  intro run
  have start : (begun resource result outer).Fits [] := Course.open 0
  have course := start.run moves
  unfold Fits at course
  rw [result_run, show (begun resource result outer).result.granted = true from acquired] at course
  have worked := worker_run_work run.2
  rcases course.unread unread with ⟨left, late, once⟩ | ⟨settled, late, slot, kept⟩
  · exact ⟨.inl left, fun _ => once, fun settled => absurd settled late, worked⟩
  · exact ⟨.inr settled, fun left => absurd left late, fun _ => ⟨slot, kept⟩, worked⟩

end Meeting

/-! ## What a worker leaves at its end -/

namespace Background

variable {s x : Background} {claim : Claim} {left : Bool} {m : Move}

/-- The worker of an attempt has settled its slot. -/
def settledAt (s : Background) (index : Nat) : Bool := (s.errands[index]?).any Errand.settled

/-- The worker of an attempt gives back what it acquired, or has done so. -/
def givesBackAt (s : Background) (index : Nat) : Bool :=
  (s.errands[index]?).any fun e => e.rollback.isSome

/-- The worker of an attempt has nothing more to do. -/
def endedAt (s : Background) (index : Nat) : Bool :=
  (s.errands[index]?).any fun e =>
    e.settled && e.rollback.all fun place => s.traffic.jobs[place]? = some .finished

/-- What happens by itself while the worker of the next attempt is at work: time passes, its jobs
have turns, and it settles its slot. -/
inductive Alone (s : Background) : Move → Prop where
  | pass (millis : Nat) : Alone s (.traffic (.pass millis))
  | turn (job : Nat) : Alone s (.traffic (.turn (s.traffic.jobs.length + job)))
  | settle : Alone s (.settle s.errands.length)

/-- One attempt beside all that was there before. -/
def beside (s : Background) (claim : Claim) (clock : Int) (db : Database) (jobs : List Job)
    (slot : Slot) (settled : Bool) (rollback : Option Nat) : Background :=
  ⟨⟨db, clock, s.traffic.jobs ++ jobs⟩, s.errands ++
    [⟨claim.row.resource, claim.row.owner, s.traffic.jobs.length, slot, settled, rollback⟩]⟩

/-- How far the worker of one more attempt is, with its waiter there (`false`) or gone before the
slot was settled (`true`). -/
inductive Solo (s : Background) (claim : Claim) : Bool → Background → Prop where
  /-- The slot is not settled yet. -/
  | asking (left : Bool) (clock : Int) (n : Nat) :
    Solo s claim left (s.beside claim clock (Attempt.progress claim s.traffic.db n).2
      [.acquire claim (Attempt.progress claim s.traffic.db n).1]
      (if left then .abandoned else .pending) false none)
  /-- The worker has left its answer in the slot. -/
  | told (clock : Int) :
    Solo s claim false (s.beside claim clock (Attempt.perform claim s.traffic.db).2
      [.acquire claim (.done (Attempt.perform claim s.traffic.db).1)]
      (.answered (Attempt.perform claim s.traffic.db).1.granted) true none)
  /-- It has found its waiter gone, and has nothing to give back. -/
  | vain (clock : Int) (refused : (Attempt.perform claim s.traffic.db).1.granted = false) :
    Solo s claim true (s.beside claim clock (Attempt.perform claim s.traffic.db).2
      [.acquire claim (.done (Attempt.perform claim s.traffic.db).1)] .abandoned true none)
  /-- It has found its waiter gone, and the rollback has begun. -/
  | owing (clock : Int) (acquired : (Attempt.perform claim s.traffic.db).1.granted = true) :
    Solo s claim true (s.beside claim clock (Attempt.perform claim s.traffic.db).2
      [.acquire claim (.done (Attempt.perform claim s.traffic.db).1),
        .release claim.row.resource claim.row.owner]
      .abandoned true (some (s.traffic.jobs.length + 1)))
  /-- The rollback has had its turn. -/
  | returned (clock : Int) (acquired : (Attempt.perform claim s.traffic.db).1.granted = true) :
    Solo s claim true (s.beside claim clock
      ((Attempt.perform claim s.traffic.db).2.delete claim.row.resource claim.row.owner).2
      [.acquire claim (.done (Attempt.perform claim s.traffic.db).1), .finished]
      .abandoned true (some (s.traffic.jobs.length + 1)))

theorem step_settle_of_none {index : Nat} (h : x.settling? index = none) :
    x.step (.settle index) = x := by
  simp [step, move?, errandsAfter, h]

section beside

variable {clock : Int} {db : Database} {jobs : List Job} {slot : Slot} {settled : Bool}
  {rollback : Option Nat} {job : Job} {k : Nat}

theorem beside_turn (h : jobs[k]? = some job) :
    (s.beside claim clock db jobs slot settled rollback).step
        (.traffic (.turn (s.traffic.jobs.length + k))) =
      s.beside claim clock (job.step db).2 (jobs.set k (job.step db).1) slot settled rollback := by
  have here : (s.traffic.jobs ++ jobs)[s.traffic.jobs.length + k]? = some job := by
    rw [List.getElem?_append_right (Nat.le_add_right _ _), Nat.add_sub_cancel_left, h]
  simp [beside, step, move?, errandsAfter, Traffic.step, Traffic.turn?, here, Traffic.after,
    Turn.next, List.set_append_right]

theorem beside_turn_of_none (h : jobs[k]? = none) :
    (s.beside claim clock db jobs slot settled rollback).step
        (.traffic (.turn (s.traffic.jobs.length + k))) =
      s.beside claim clock db jobs slot settled rollback := by
  have nowhere : (s.traffic.jobs ++ jobs)[s.traffic.jobs.length + k]? = none := by
    rw [List.getElem?_append_right (Nat.le_add_right _ _), Nat.add_sub_cancel_left, h]
  simp [beside, step, move?, errandsAfter, Traffic.step, Traffic.turn?, nowhere]

/-- A turn of a job that has nothing to do changes nothing. -/
theorem beside_turn_idle (idle : ∀ job ∈ jobs, job.step db = (job, db)) (k : Nat) :
    (s.beside claim clock db jobs slot settled rollback).step
        (.traffic (.turn (s.traffic.jobs.length + k))) =
      s.beside claim clock db jobs slot settled rollback := by
  cases here : jobs[k]? with
  | none => exact beside_turn_of_none here
  | some job =>
    obtain ⟨hlt, hget⟩ := List.getElem?_eq_some_iff.mp here
    rw [beside_turn here, idle job (List.mem_of_getElem? here), ← hget, List.set_getElem_self]

theorem errands_beside :
    (s.beside claim clock db jobs slot settled rollback).errands[s.errands.length]? =
      some ⟨claim.row.resource, claim.row.owner, s.traffic.jobs.length, slot, settled,
        rollback⟩ := by
  simp [beside]

theorem jobs_beside (k : Nat) :
    (s.beside claim clock db jobs slot settled rollback).traffic.jobs[s.traffic.jobs.length + k]? =
      jobs[k]? := by
  simp [beside, List.getElem?_append_right]

theorem beside_leave :
    (s.beside claim clock db jobs slot settled rollback).step (.leave s.errands.length) =
      s.beside claim clock db jobs slot.leave.2 settled rollback := by
  simp [beside, step, move?, errandsAfter, Errand.leave, List.set_append_right]

/-- A slot is settled once. -/
theorem beside_settle_of_settled :
    (s.beside claim clock db jobs slot true rollback).step (.settle s.errands.length) =
      s.beside claim clock db jobs slot true rollback := by
  refine step_settle_of_none ?_
  rw [settling?, errands_beside]

/-- A slot is settled when the attempt is done. -/
theorem beside_settle_of_open {attempt : Attempt} (h : ∀ ending, attempt ≠ .done ending) :
    (s.beside claim clock db [.acquire claim attempt] slot false none).step
        (.settle s.errands.length) =
      s.beside claim clock db [.acquire claim attempt] slot false none := by
  refine step_settle_of_none ?_
  cases attempt with
  | done ending => exact absurd rfl (h ending)
  | insert | read | steal seen => simp [settling?, beside]

/-- The slot of an attempt that is done is settled, and what must be given back is given back by
the next job. -/
theorem beside_settle {ending : Ending} :
    (s.beside claim clock db [.acquire claim (.done ending)] slot false none).step
        (.settle s.errands.length) =
      s.beside claim clock db
        (.acquire claim (.done ending) ::
          if (slot.settle ending.granted).2 then [.release claim.row.resource claim.row.owner]
          else [])
        (slot.settle ending.granted).1 true
        (if (slot.settle ending.granted).2 then some (s.traffic.jobs.length + 1) else none) := by
  have found : (s.beside claim clock db [.acquire claim (.done ending)] slot false none).settling?
      s.errands.length = some (⟨claim.row.resource, claim.row.owner, s.traffic.jobs.length, slot,
        false, none⟩, ending.granted) := by
    simp [settling?, beside]
  simp only [step, move?, errandsAfter, found]
  cases back : (slot.settle ending.granted).2 <;>
    simp [beside, Errand.settle, Traffic.step, Operation.start, back]

end beside

/-! ## From stage to stage -/

/-- The attempt begins. -/
theorem Solo.begin (s : Background) (resource host owner : String) (lease : Span) :
    Solo s (Claim.new s.traffic.clock resource host owner lease) false
      (s.step (.begin resource host owner lease)) :=
  .asking false s.traffic.clock 0

theorem Solo.turn (h : Solo s claim left x) (k : Nat) :
    Solo s claim left (x.step (.traffic (.turn (s.traffic.jobs.length + k)))) := by
  cases h with
  | asking left clock n =>
    cases k with
    | zero =>
      rw [beside_turn rfl]
      exact .asking left clock (n + 1)
    | succ k =>
      rw [beside_turn_of_none rfl]
      exact .asking left clock n
  | told clock =>
    rw [beside_turn_idle (by simp [Job.step])]
    exact .told clock
  | vain clock refused =>
    rw [beside_turn_idle (by simp [Job.step])]
    exact .vain clock refused
  | owing clock acquired =>
    rcases k with _ | _ | k
    · rw [beside_turn rfl]
      exact .owing clock acquired
    · -- the turn of the rollback
      rw [beside_turn rfl]
      exact .returned clock acquired
    · rw [beside_turn_of_none rfl]
      exact .owing clock acquired
  | returned clock acquired =>
    rw [beside_turn_idle (by simp [Job.step])]
    exact .returned clock acquired

/-- The slot of an attempt that is done is settled, whoever was first. -/
theorem Solo.settle_asking {clock : Int} {n : Nat} {ending : Ending}
    (hdone : (Attempt.progress claim s.traffic.db n).1 = .done ending) :
    Solo s claim left ((s.beside claim clock (Attempt.progress claim s.traffic.db n).2
      [.acquire claim (Attempt.progress claim s.traffic.db n).1]
      (if left then .abandoned else .pending) false none).step (.settle s.errands.length)) := by
  rw [Attempt.progress_of_done hdone, beside_settle]
  -- the worker finds the slot pending, or finds it abandoned
  cases left with
  | false => exact .told clock
  | true =>
    cases granted : (Attempt.perform claim s.traffic.db).1.granted with
    | false => exact .vain clock granted
    | true => exact .owing clock granted

theorem Solo.settle (h : Solo s claim left x) :
    Solo s claim left (x.step (.settle s.errands.length)) := by
  cases h with
  | asking left clock n =>
    by_cases hopen : ∀ ending, (Attempt.progress claim s.traffic.db n).1 ≠ .done ending
    · rw [beside_settle_of_open hopen]
      exact .asking left clock n
    · obtain ⟨ending, hdone⟩ := not_forall.mp hopen
      exact settle_asking (not_not.mp hdone)
  | told clock =>
    rw [beside_settle_of_settled]
    exact .told clock
  | vain clock refused =>
    rw [beside_settle_of_settled]
    exact .vain clock refused
  | owing clock acquired =>
    rw [beside_settle_of_settled]
    exact .owing clock acquired
  | returned clock acquired =>
    rw [beside_settle_of_settled]
    exact .returned clock acquired

/-- What happens by itself leads from stage to stage, and who was first stays so. -/
theorem Solo.step (h : Solo s claim left x) (alone : s.Alone m) :
    Solo s claim left (x.step m) := by
  cases alone with
  | turn k => exact h.turn k
  | settle => exact h.settle
  | pass millis =>
    cases h with
    | asking left clock n => exact .asking left (clock + millis) n
    | told clock => exact .told (clock + millis)
    | vain clock refused => exact .vain (clock + millis) refused
    | owing clock acquired => exact .owing (clock + millis) acquired
    | returned clock acquired => exact .returned (clock + millis) acquired

theorem Solo.run {moves : List Move} (h : Solo s claim left x) (alone : ∀ m ∈ moves, s.Alone m) :
    Solo s claim left (x.run moves) := by
  induction moves generalizing x with
  | nil => exact h
  | cons m moves ih =>
    exact ih (h.step (alone m List.mem_cons_self)) fun m' hm' =>
      alone m' (List.mem_cons_of_mem m hm')

/-- The waiter goes away: it was first unless the slot is settled. -/
theorem Solo.leave (h : Solo s claim false x) :
    Solo s claim (!x.settledAt s.errands.length) (x.step (.leave s.errands.length)) := by
  cases h with
  | asking _ clock n =>
    rw [beside_leave, settledAt, errands_beside]
    exact .asking true clock n
  | told clock =>
    rw [beside_leave, settledAt, errands_beside]
    exact .told clock

/-! ## The end of the worker -/

/-- A worker at its end has given back what it acquired if it has found its waiter gone, and else
leaves what its attempt has left. -/
theorem Solo.of_ended (h : Solo s claim left x) (ended : x.endedAt s.errands.length = true) :
    x.givesBackAt s.errands.length =
        (left && (Attempt.perform claim s.traffic.db).1.granted) ∧
      x.traffic.db = if left && (Attempt.perform claim s.traffic.db).1.granted then
        ((Attempt.perform claim s.traffic.db).2.delete claim.row.resource claim.row.owner).2
      else (Attempt.perform claim s.traffic.db).2 := by
  cases h with
  | asking left clock n =>
    rw [endedAt, errands_beside] at ended
    cases ended
  | told clock =>
    rw [givesBackAt, errands_beside]
    exact ⟨rfl, rfl⟩
  | vain clock refused =>
    rw [givesBackAt, errands_beside, refused]
    exact ⟨rfl, rfl⟩
  | owing clock acquired =>
    rw [endedAt, errands_beside, Option.any_some, Option.all_some, jobs_beside] at ended
    cases ended
  | returned clock acquired =>
    rw [givesBackAt, errands_beside, acquired]
    exact ⟨rfl, rfl⟩

/-- An attempt goes on by the turns of its worker. -/
theorem beside_turns {clock : Int} {slot : Slot} (n more : Nat) :
    (s.beside claim clock (Attempt.progress claim s.traffic.db n).2
      [.acquire claim (Attempt.progress claim s.traffic.db n).1] slot false none).run
        (List.replicate more (.traffic (.turn (s.traffic.jobs.length + 0)))) =
      s.beside claim clock (Attempt.progress claim s.traffic.db (n + more)).2
        [.acquire claim (Attempt.progress claim s.traffic.db (n + more)).1] slot false none := by
  induction more generalizing n with
  | zero => rfl
  | succ more ih =>
    rw [List.replicate_succ, run, List.foldl_cons, beside_turn rfl, Nat.add_comm more,
      ← Nat.add_assoc]
    exact ih (n + 1)

/-- A worker gets its slot settled, whatever its waiter does. -/
theorem Solo.settles (h : Solo s claim left x) :
    ∃ more, (∀ m ∈ more, s.Alone m) ∧ (x.run more).settledAt s.errands.length = true := by
  cases h with
  | asking left clock n =>
    refine ⟨List.replicate 3 (.traffic (.turn (s.traffic.jobs.length + 0))) ++
      [.settle s.errands.length], fun m hm => ?_, ?_⟩
    · rcases List.mem_append.mp hm with hturn | hsettle
      · rw [List.eq_of_mem_replicate hturn]
        exact .turn 0
      · rw [List.mem_singleton.mp hsettle]
        exact .settle
    · -- three turns of the worker, and then its slot
      rw [Background.run, List.foldl_append]
      change (Background.step (Background.run _ _) _).settledAt _ = true
      rw [beside_turns, Attempt.progress_add_three, beside_settle, settledAt, errands_beside]
      rfl
  | told clock | vain clock refused | owing clock acquired | returned clock acquired =>
    refine ⟨[], fun m hm => absurd hm List.not_mem_nil, ?_⟩
    rw [Background.run, List.foldl_nil, settledAt, errands_beside]
    rfl

/-- A worker that has settled its slot has one thing to do at most. -/
theorem Solo.last_turn (h : Solo s claim left x) (settled : x.settledAt s.errands.length = true) :
    (x.step (.traffic (.turn (s.traffic.jobs.length + 1)))).endedAt s.errands.length = true := by
  cases h with
  | asking _ clock n =>
    rw [settledAt, errands_beside] at settled
    cases settled
  | told clock | vain clock refused =>
    rw [beside_turn_of_none rfl, endedAt, errands_beside]
    rfl
  | owing clock acquired | returned clock acquired =>
    rw [beside_turn rfl, endedAt, errands_beside, Option.any_some, Option.all_some, jobs_beside]
    rfl

/-- A worker gets to its end, whatever its waiter does. -/
theorem Solo.ends (h : Solo s claim left x) :
    ∃ more, (∀ m ∈ more, s.Alone m) ∧ (x.run more).endedAt s.errands.length = true := by
  obtain ⟨more, alone, settled⟩ := h.settles
  refine ⟨more ++ [.traffic (.turn (s.traffic.jobs.length + 1))], fun m hm => ?_, ?_⟩
  · rcases List.mem_append.mp hm with hmore | hlast
    · exact alone m hmore
    · rw [List.mem_singleton.mp hlast]
      exact .turn 1
  · rw [Background.run, List.foldl_append]
    exact (h.run alone).last_turn settled

/-- A worker that finds its waiter gone leaves no row of its own. -/
theorem Solo.of_ended_left (single : s.traffic.db.Single claim.row.resource)
    (h : Solo s claim true x) (ended : x.endedAt s.errands.length = true) :
    let free := s.traffic.db.Free claim.row.resource claim.now
    (x.givesBackAt s.errands.length = true ↔ free) ∧
    (free → x.traffic.db = s.traffic.db.without claim.row.resource) ∧
    (¬free → x.traffic.db = s.traffic.db) ∧
    (s.traffic.db.ownedBy claim.row.resource claim.row.owner = false →
      x.traffic.db.ownedBy claim.row.resource claim.row.owner = false) := by
  intro free
  obtain ⟨answer, written, unchanged⟩ := Attempt.perform_exact single
  have granted := (Attempt.perform claim s.traffic.db).1.granted_iff.trans answer
  obtain ⟨back, db⟩ := h.of_ended ended
  rw [Bool.true_and] at back db
  have gone : free → x.traffic.db = s.traffic.db.without claim.row.resource := fun isFree => by
    rw [db, granted.mpr isFree, if_pos rfl, (written isFree).delete_snd]
  have same : ¬free → x.traffic.db = s.traffic.db := fun taken => by
    rw [db, if_neg (granted.not.mpr taken), unchanged taken]
  refine ⟨back ▸ granted, gone, same, fun unowned => ?_⟩
  by_cases isFree : free
  · rw [gone isFree, Database.ownedBy, Database.entryOf?_without]
    rfl
  · rw [same isFree]
    exact unowned

/-- A worker that was first leaves the row that its attempt has written. -/
theorem Solo.of_ended_first (single : s.traffic.db.Single claim.row.resource)
    (h : Solo s claim false x) (ended : x.endedAt s.errands.length = true) :
    let free := s.traffic.db.Free claim.row.resource claim.now
    x.givesBackAt s.errands.length = false ∧
    (free → s.traffic.db.Written claim.row x.traffic.db) ∧
    (¬free → x.traffic.db = s.traffic.db) ∧
    (s.traffic.db.ownedBy claim.row.resource claim.row.owner = false →
      (x.traffic.db.ownedBy claim.row.resource claim.row.owner = true ↔ free)) := by
  intro free
  obtain ⟨-, written, unchanged⟩ := Attempt.perform_exact single
  obtain ⟨back, db⟩ := h.of_ended ended
  rw [Bool.false_and, if_neg Bool.false_ne_true] at db
  rw [db]
  refine ⟨back, written, unchanged, fun unowned => ⟨fun owned => ?_, fun isFree => ?_⟩⟩
  · by_contra taken
    rw [unchanged taken, unowned] at owned
    cases owned
  · exact (written isFree).ownedBy

/-- A waiter goes away without a word and without having seen an answer.  If it was first, then
what its worker acquires is given back once, and of the row that the attempt has written nothing
is left.  If the worker was first, then nothing is given back, and the row stays. -/
theorem unread_drop {ε : Type} [Journal ε] (outer : ε) (resource host owner : String)
    (lease : Span) :
    (∀ (result : WorkResult) (moves : List Meeting.Move),
      let run := (Meeting.begun resource result outer).run moves
      Meeting.Unread run.1 → result.granted = true →
        (Meeting.LeftFirst run.1 ∨ Meeting.SettledFirst run.1) ∧
        (Meeting.LeftFirst run.1 → run.2.worker = .finished → run.1.count .gaveBack = 1) ∧
        (Meeting.SettledFirst run.1 →
          run.2.future.slot = .answered true ∧ .gaveBack ∉ run.1) ∧
        (run.2.run [.work, .work]).2.worker = .finished) ∧
    ∀ (s : Background) (before after : List Move), s.traffic.db.Single resource →
      (∀ m ∈ before ++ after, s.Alone m) →
      let i := s.errands.length
      let free := s.traffic.db.Free resource s.traffic.clock
      let dropped := (s.step (.begin resource host owner lease)).run before
      let last := (dropped.step (.leave i)).run after
      (last.endedAt i = true → dropped.settledAt i = false →
        (last.givesBackAt i = true ↔ free) ∧
        (free → last.traffic.db = s.traffic.db.without resource) ∧
        (¬free → last.traffic.db = s.traffic.db) ∧
        (s.traffic.db.ownedBy resource owner = false →
          last.traffic.db.ownedBy resource owner = false)) ∧
      (last.endedAt i = true → dropped.settledAt i = true →
        last.givesBackAt i = false ∧
        (free → s.traffic.db.Written ⟨resource, host, owner, deadlineAfter s.traffic.clock lease⟩
          last.traffic.db) ∧
        (¬free → last.traffic.db = s.traffic.db) ∧
        (s.traffic.db.ownedBy resource owner = false →
          (last.traffic.db.ownedBy resource owner = true ↔ free))) ∧
      ∃ more, (∀ m ∈ more, s.Alone m) ∧ (last.run more).endedAt i = true := by
  refine ⟨fun result moves unread acquired => unread.ends acquired, ?_⟩
  intro s before after single alone i free dropped last
  have atDrop : Solo s (Claim.new s.traffic.clock resource host owner lease) false dropped :=
    (Solo.begin s resource host owner lease).run fun m hm => alone m (List.mem_append_left _ hm)
  have atLast := atDrop.leave.run fun m hm => alone m (List.mem_append_right _ hm)
  refine ⟨fun ended unsettled => ?_, fun ended settled => ?_, atLast.ends⟩
  · rw [unsettled] at atLast
    exact atLast.of_ended_left single ended
  · rw [settled] at atLast
    exact atLast.of_ended_first single ended

/-- The waiter goes away between the insertion and the settlement, and no row is left. -/
theorem unread_drop_early :
    let run := (Meeting.begun "r" (.answered true) ([] : List LogRecord)).run
      [.poll, .drop, .work, .work]
    let dropped := (idle.step (.begin "r" "h" "o" (Span.ofMillis 1000))).run [.traffic (.turn 0)]
    let last := (dropped.step (.leave 0)).run [.settle 0, .traffic (.pass 5), .traffic (.turn 1)]
    Meeting.Unread run.1 ∧ run.1.count .gaveBack = 1 ∧
      idle.traffic.db.ownedBy "r" "o" = false ∧ dropped.traffic.db.ownedBy "r" "o" = true ∧
      last.endedAt 0 = true ∧ last.traffic.db.ownedBy "r" "o" = false := by
  intro run dropped last
  have unread : Meeting.Unread run.1 := by
    have events : run.1 = [.polled none, .dropped, .settled, .gaveBack] := by decide +kernel
    rw [events]
    exact ⟨by simp, by simp, by simp⟩
  have left : Meeting.LeftFirst run.1 := by
    unfold Meeting.LeftFirst
    decide +kernel
  have single : idle.traffic.db.Single "r" := by
    intro t ht
    cases ht
    exact Nat.zero_le 1
  have alone : ∀ m ∈ [Move.traffic (.turn 0)] ++
      [.settle 0, .traffic (.pass 5), .traffic (.turn 1)], idle.Alone m := by
    have first : idle.Alone (.traffic (.turn 0)) := .turn 0
    have answers : idle.Alone (.settle 0) := .settle
    have last : idle.Alone (.traffic (.turn 1)) := .turn 1
    simpa using ⟨first, answers, Alone.pass 5, last⟩
  have ended : last.endedAt 0 = true := by decide +kernel
  obtain ⟨met, stored⟩ :=
    unread_drop ([] : List LogRecord) "r" "h" "o" (Span.ofMillis 1000)
  obtain ⟨-, once, -⟩ := met (.answered true) [.poll, .drop, .work, .work] unread rfl
  obtain ⟨gone, -⟩ := stored idle [.traffic (.turn 0)]
    [.settle 0, .traffic (.pass 5), .traffic (.turn 1)] single alone
  have unowned : idle.traffic.db.ownedBy "r" "o" = false := rfl
  exact ⟨unread, once left (by decide +kernel), unowned, by decide +kernel, ended,
    (gone ended (by decide +kernel)).2.2.2 unowned⟩

/-- The waiter goes away after the settlement.  Its worker is at its end and has given nothing
back, and the row stays. -/
theorem unread_drop_late :
    let run := (Meeting.begun "r" (.answered true) ([] : List LogRecord)).run [.work, .drop]
    let last := idle.run [.begin "r" "h" "o" (Span.ofMillis 1000), .traffic (.turn 0), .settle 0,
      .leave 0]
    Meeting.Unread run.1 ∧ run.2.worker = .finished ∧ .gaveBack ∉ run.1 ∧
      idle.traffic.db.ownedBy "r" "o" = false ∧ last.endedAt 0 = true ∧
      last.traffic.db.row? "r" = some ⟨"r", "h", "o", 1000⟩ ∧
      last.traffic.db.ownedBy "r" "o" = true := by
  intro run last
  have events : run.1 = [.settled, .dropped] := by decide +kernel
  rw [events]
  exact ⟨⟨by simp, by simp, by simp⟩, by decide +kernel⟩

end Background

end Leasehold

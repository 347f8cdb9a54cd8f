import Leasehold.Lock.Attempt
import Leasehold.Proofs.Lock.Statements

/-!
# Many clients at one table

Clients begin operations at any time and put their statements in any order.  An
operation reads the clock once, when it begins (`Operation.start`), and goes on as
a *job*, whose every turn is one statement.  Between two turns of a job the clock
may move and other jobs may have any number of turns, so a job may act on a
reading that is long past.

`Traffic` is the database, the clock and the jobs.  A *move* lets time pass,
begins an operation, or gives a job its turn; the clock never goes back because
time passes by a natural number.  `Traffic.history` is what the turns of a run
were, each with the database it found.

`Turn.touch` says once what a turn can do to the entry of a resource.  Every
theorem about runs is an induction whose step is a case analysis of `Turn.Touch`.
-/

namespace Leasehold

/-- What a client wants of the table. -/
inductive Operation where
  | acquire (resource host owner : String) (lease : Span)
  | refresh (resource owner : String) (hold : Span)
  | release (resource owner : String)
  | sweep (grace : Span)
  deriving DecidableEq

/-- An operation under way, with what it read of the clock and what it does next. -/
inductive Job where
  | acquire (claim : Claim) (attempt : Attempt)
  | refresh (resource owner : String) (deadline : Int)
  | release (resource owner : String)
  | sweep (now : Int) (grace : Span)
  | finished
  deriving DecidableEq

/-- The job of an operation that begins at a clock reading. -/
def Operation.start (now : Int) : Operation → Job
  | acquire resource host owner lease => .acquire (Claim.new now resource host owner lease) .insert
  | refresh resource owner hold => .refresh resource owner (deadlineAfter now hold)
  | release resource owner => .release resource owner
  | sweep grace => .sweep now grace

namespace Job

/-- Puts the next statement. -/
def step : Job → Database → Job × Database
  | acquire claim attempt, db =>
    (acquire claim (attempt.step claim db).1, (attempt.step claim db).2)
  | refresh resource owner deadline, db => (finished, (db.extend resource owner deadline).2)
  | release resource owner, db => (finished, (db.delete resource owner).2)
  | sweep now grace, db => (finished, (db.sweep now grace).2)
  | finished, db => (finished, db)

/-- The job acts on a reading that the clock can have shown until a moment. -/
def KnownAt (clock : Int) : Job → Prop
  | acquire claim _ => claim.now ≤ clock
  | sweep now _ => Text.Digits.signedMin ≤ now ∧ now ≤ clock
  | refresh _ _ _ | release _ _ | finished => True

end Job

/-- A job that is about to put a statement to a database. -/
structure Turn where
  /-- The place of the job among all jobs. -/
  index : Nat
  job : Job
  db : Database
  deriving DecidableEq

namespace Turn

/-- The database after the turn. -/
def next (t : Turn) : Database := (t.job.step t.db).2

/-- The turn writes an acquirer's row: an insertion or a takeover that answers true. -/
def wins (resource : String) (t : Turn) : Bool :=
  match t.job with
  | .acquire claim attempt =>
    claim.row.resource = resource && !attempt.isGranted && (attempt.step claim t.db).1.isGranted
  | .refresh _ _ _ | .release _ _ | .sweep _ _ | .finished => false

/-- The turn removes the row of a resource on behalf of the owner that is stored in it. -/
def releases (resource : String) (t : Turn) : Bool :=
  match t.job, t.db.row? resource with
  | .release r owner, some row =>
    r = resource && row.owner = owner && (t.db.delete r owner).1 = .ok true
  | _, _ => false

/-- The turn sweeps the row of a resource away. -/
def sweepsAway (resource : String) (t : Turn) : Bool :=
  match t.job with
  | .sweep _ _ => (t.db.row? resource).isSome && (t.next.row? resource).isNone
  | .acquire _ _ | .refresh _ _ _ | .release _ _ | .finished => false

/-- The turn is a takeover that acts on a reading strictly past the deadline stored in the row. -/
def takesStale (resource : String) (t : Turn) : Bool :=
  match t.job, t.db.row? resource with
  | .acquire claim (.steal _), some row =>
    claim.row.resource = resource && row.deadline < claim.now
  | _, _ => false

/-- What a turn can do to the entry of a resource. -/
inductive Touch (resource : String) (t : Turn) : Prop where
  | nothing (same : t.next.entryOf? resource = t.db.entryOf? resource)
      (lost : t.wins resource = false)
  | insert (claim : Claim) (job : t.job = .acquire claim .insert)
      (own : claim.row.resource = resource) (won : t.wins resource = true)
      (before : t.db.entryOf? resource = none)
      (after : t.next.entryOf? resource = some (Entry.ofRow claim.row))
  | steal (claim : Claim) (seen : LockRow) (e : Entry) (job : t.job = .acquire claim (.steal seen))
      (own : claim.row.resource = resource) (won : t.wins resource = true)
      (before : t.db.entryOf? resource = some e) (stale : e.deadline.below claim.now = true)
      (after : t.next.entryOf? resource = some (Entry.ofRow claim.row))
  | refresh (owner : String) (deadline : Int) (e : Entry)
      (job : t.job = .refresh resource owner deadline)
      (before : t.db.entryOf? resource = some e) (owned : e.owner = .text owner)
      (after : t.next.entryOf? resource = some (e.extended deadline))
  | release (owner : String) (e : Entry) (job : t.job = .release resource owner)
      (before : t.db.entryOf? resource = some e) (owned : e.owner = .text owner)
      (after : t.next.entryOf? resource = none)
  | sweep (now : Int) (grace : Span) (e : Entry) (job : t.job = .sweep now grace)
      (before : t.db.entryOf? resource = some e)
      (stale : e.deadline.below (momentBefore now grace) = true)
      (after : t.next.entryOf? resource = none)

end Turn

/-- A database, a clock, and the operations under way in the order in which they began. -/
structure Traffic where
  db : Database
  clock : Int
  jobs : List Job
  deriving DecidableEq

namespace Traffic

/-- What can happen next. -/
inductive Move where
  /-- Time passes. -/
  | pass (millis : Nat)
  /-- An operation begins and reads the clock. -/
  | start (operation : Operation)
  /-- A job puts its next statement. -/
  | turn (index : Nat)
  deriving DecidableEq

/-- The turn that a move is, if it is one. -/
def turn? (s : Traffic) : Move → Option Turn
  | .turn index => s.jobs[index]?.map fun job => ⟨index, job, s.db⟩
  | .pass _ | .start _ => none

/-- The traffic after a turn. -/
def after (s : Traffic) (t : Turn) : Traffic :=
  { s with db := t.next, jobs := s.jobs.set t.index (t.job.step t.db).1 }

/-- The traffic after a move. -/
def step (s : Traffic) : Move → Traffic
  | .pass millis => { s with clock := s.clock + millis }
  | .start operation => { s with jobs := s.jobs ++ [operation.start s.clock] }
  | .turn index =>
    match s.turn? (.turn index) with
    | some t => s.after t
    | none => s

/-- The traffic after a run. -/
def run (s : Traffic) (moves : List Move) : Traffic := moves.foldl step s

/-- The turns of a run. -/
def history : Traffic → List Move → List Turn
  | _, [] => []
  | s, m :: moves => (s.turn? m).toList ++ history (s.step m) moves

/-- All that the traffic is in the course of a run, from the beginning to the end. -/
def trail : Traffic → List Move → List Traffic
  | s, [] => [s]
  | s, m :: moves => s :: trail (s.step m) moves

/-- The table is sound, the clock shows a signed word or more, and no job acts on a reading of
the future. -/
structure Sound (s : Traffic) : Prop where
  database : s.db.Sound
  clock : Text.Digits.signedMin ≤ s.clock
  known : ∀ job ∈ s.jobs, job.KnownAt s.clock

end Traffic

/-! ## What one turn does -/

theorem Attempt.step_has {P : Table → Prop} (kept : Table.Kept P) (claim : Claim)
    (attempt : Attempt) {db : Database} (h : db.Has P) : (attempt.step claim db).2.Has P := by
  obtain ⟨tb, rfl, ht⟩ := h
  cases attempt with
  | insert =>
    rw [step_insert]
    exact ⟨_, rfl, kept.insertIfAbsent ht⟩
  | read =>
    rw [(step_read claim _).2]
    exact ⟨_, rfl, ht⟩
  | steal seen =>
    rw [step_steal]
    exact ⟨_, rfl, kept.stealIfStale ht⟩
  | done ending => exact ⟨_, rfl, ht⟩

theorem Job.step_has {P : Table → Prop} (kept : Table.Kept P) (job : Job) {db : Database}
    (h : db.Has P) : (job.step db).2.Has P := by
  cases job with
  | acquire claim attempt => exact attempt.step_has kept claim h
  | refresh resource owner deadline =>
    obtain ⟨tb, rfl, ht⟩ := h
    exact ⟨_, rfl, kept.extend ht⟩
  | release resource owner =>
    obtain ⟨tb, rfl, ht⟩ := h
    exact ⟨_, rfl, kept.delete ht⟩
  | sweep now grace =>
    obtain ⟨tb, rfl, ht⟩ := h
    exact ⟨_, rfl, kept.purgeBefore ht⟩
  | finished => exact h

namespace Turn

variable {t : Turn} {resource : String}

theorem next_sound (h : t.db.Sound) : t.next.Sound := t.job.step_has Table.kept_sound h

theorem touch_insert (index : Nat) (claim : Claim) (tb : Table) :
    Touch resource ⟨index, .acquire claim .insert, ⟨some tb⟩⟩ := by
  have after := tb.entryOf?_insertIfAbsent claim.row resource
  cases hins : (tb.insertIfAbsent claim.row).1 with
  | false =>
    rw [hins] at after
    refine .nothing ?_ ?_
    · simpa [next, Job.step, Attempt.step_insert] using after
    · simp [wins, Attempt.step_insert, hins, Attempt.isGranted]
  | true =>
    by_cases hr : claim.row.resource = resource
    · rw [hins] at after
      have absent : tb.entryOf? claim.row.resource = none := by
        rw [Table.insertIfAbsent_fst] at hins
        simpa using (Bool.and_eq_true_iff.mp hins).2
      refine .insert claim rfl hr ?_ ?_ ?_
      · simp [wins, Attempt.step_insert, hins, hr, Attempt.isGranted, Ending.granted]
      · rw [← hr]
        exact absent
      · simpa [next, Job.step, Attempt.step_insert, hr] using after
    · refine .nothing ?_ ?_
      · simpa [next, Job.step, Attempt.step_insert, Ne.symm hr] using after
      · simp [wins, hr]

theorem touch_steal (index : Nat) (claim : Claim) (seen : LockRow) {tb : Table}
    (h : tb.Single resource) :
    Touch resource ⟨index, .acquire claim (.steal seen), ⟨some tb⟩⟩ := by
  have after := h.entryOf?_stealIfStale claim.row claim.now
  cases hst : (tb.stealIfStale claim.row claim.now).1 with
  | false =>
    rw [hst] at after
    refine .nothing ?_ ?_
    · simpa [next, Job.step, Attempt.step_steal] using after
    · simp [wins, Attempt.step_steal, hst, Attempt.isGranted, Ending.granted]
  | true =>
    by_cases hr : claim.row.resource = resource
    · subst hr
      rw [hst] at after
      have won : wins claim.row.resource ⟨index, .acquire claim (.steal seen), ⟨some tb⟩⟩ := by
        simp [wins, Attempt.step_steal, hst, Attempt.isGranted, Ending.granted]
      rw [h.stealIfStale_fst] at hst
      obtain ⟨e, he, hb⟩ := (Option.any_eq_true _ _).mp hst
      refine .steal claim seen e rfl rfl won he hb ?_
      simpa [next, Job.step, Attempt.step_steal] using after
    · refine .nothing ?_ ?_
      · simpa [next, Job.step, Attempt.step_steal, Ne.symm hr] using after
      · simp [wins, hr]

theorem touch_acquire (index : Nat) (claim : Claim) (attempt : Attempt) {tb : Table}
    (h : tb.Single resource) : Touch resource ⟨index, .acquire claim attempt, ⟨some tb⟩⟩ := by
  cases attempt with
  | insert => exact touch_insert index claim tb
  | read =>
    obtain ⟨lost, same⟩ := Attempt.step_read claim ⟨some tb⟩
    exact .nothing (by simp [next, Job.step, same]) (by simp [wins, lost])
  | steal seen => exact touch_steal index claim seen h
  | done ending => exact .nothing rfl (by simp [wins])

theorem touch_refresh (index : Nat) (r owner : String) (deadline : Int) {tb : Table}
    (h : tb.Single resource) : Touch resource ⟨index, .refresh r owner deadline, ⟨some tb⟩⟩ := by
  have after := h.entryOf?_extend r owner deadline
  cases hext : (tb.extend r owner deadline).1 with
  | false => exact .nothing (after.trans (by simp [hext])) rfl
  | true =>
    by_cases hr : resource = r
    · subst hr
      rw [hext] at after
      rw [h.extend_fst] at hext
      obtain ⟨e, he, ho⟩ := (Option.any_eq_true _ _).mp hext
      exact .refresh owner deadline e rfl he (of_decide_eq_true ho) (after.trans (by simp [he]))
    · exact .nothing (after.trans (by simp [hr])) rfl

theorem touch_release (index : Nat) (r owner : String) {tb : Table} (h : tb.Single resource) :
    Touch resource ⟨index, .release r owner, ⟨some tb⟩⟩ := by
  have after := h.entryOf?_delete r owner
  cases hdel : (tb.delete r owner).1 with
  | false => exact .nothing (after.trans (by simp [hdel])) rfl
  | true =>
    by_cases hr : resource = r
    · subst hr
      rw [hdel] at after
      rw [h.delete_fst] at hdel
      obtain ⟨e, he, ho⟩ := (Option.any_eq_true _ _).mp hdel
      exact .release owner e rfl he (of_decide_eq_true ho) (after.trans (by simp))
    · exact .nothing (after.trans (by simp [hr])) rfl

theorem touch_sweep (index : Nat) (now : Int) (grace : Span) {tb : Table}
    (h : tb.Single resource) : Touch resource ⟨index, .sweep now grace, ⟨some tb⟩⟩ := by
  have after := h.entryOf?_purgeBefore (momentBefore now grace)
  cases he : tb.entryOf? resource with
  | none => exact .nothing (after.trans (by simp [he])) rfl
  | some e =>
    rw [he] at after
    cases hb : e.deadline.below (momentBefore now grace) with
    | false => exact .nothing (after.trans (by simp [he, hb])) rfl
    | true => exact .sweep now grace e rfl he hb (after.trans (by simp [hb]))

/-- What a turn does to the entry of a resource that has at most one. -/
theorem touch (h : t.db.Has (Table.Single resource)) : t.Touch resource := by
  obtain ⟨index, job, db⟩ := t
  obtain ⟨tb, rfl, ht⟩ := h
  cases job with
  | acquire claim attempt => exact touch_acquire index claim attempt ht
  | refresh r owner deadline => exact touch_refresh index r owner deadline ht
  | release r owner => exact touch_release index r owner ht
  | sweep now grace => exact touch_sweep index now grace ht
  | finished => exact .nothing rfl rfl

/-- A turn that finds what another one has left. -/
def Meets (t u : Turn) : Prop := u.db = t.next

theorem releases_of {owner : String} {e : Entry} (h : t.db.Sound)
    (job : t.job = .release resource owner) (before : t.db.entryOf? resource = some e)
    (owned : e.owner = .text owner) : t.releases resource = true := by
  obtain ⟨index, job', db⟩ := t
  obtain ⟨tb, rfl, ht⟩ := h
  cases job
  obtain ⟨row, hrow, hsome⟩ := ht.exists_row before
  have gone : (tb.delete resource owner).1 = true := by
    rw [(ht.wellFormed.single resource).delete_fst]
    exact (Option.any_eq_true _ _).mpr ⟨e, before, by simp [owned]⟩
  simp [releases, hsome, Entry.owner_of_row hrow owned, Database.delete, gone]

theorem sweepsAway_of {now : Int} {grace : Span} {e : Entry} (h : t.db.Sound)
    (job : t.job = .sweep now grace) (before : t.db.entryOf? resource = some e)
    (after : t.next.entryOf? resource = none) : t.sweepsAway resource = true := by
  obtain ⟨row, -, hsome⟩ := h.exists_row before
  have hnone := (next_sound h).row?_eq_none_iff.mpr after
  simp [sweepsAway, job, hsome, hnone]

theorem takesStale_of {claim : Claim} {seen : LockRow} {e : Entry} (h : t.db.Sound)
    (job : t.job = .acquire claim (.steal seen)) (own : claim.row.resource = resource)
    (before : t.db.entryOf? resource = some e) (stale : e.deadline.below claim.now = true) :
    t.takesStale resource = true := by
  obtain ⟨row, hrow, hsome⟩ := h.exists_row before
  simp [takesStale, job, hsome, own, (Entry.deadline_of_below hrow stale).2]

/-- A row stays unless it is given up or swept away. -/
theorem entryOf?_kept (h : t.db.Sound) (before : (t.db.entryOf? resource).isSome)
    (kept : t.releases resource = false) (unswept : t.sweepsAway resource = false) :
    (t.next.entryOf? resource).isSome := by
  cases t.touch (h.single resource) with
  | nothing same => rwa [same]
  | insert claim job own won absent after => simp [after]
  | steal claim seen e job own won found stale after => simp [after]
  | refresh owner deadline e job found owned after => simp [after]
  | release owner e job found owned after =>
    rw [releases_of h job found owned] at kept
    cases kept
  | sweep now grace e job found stale after =>
    rw [sweepsAway_of h job found after] at unswept
    cases unswept

/-- A winner leaves its own row. -/
theorem entryOf?_of_wins (h : t.db.Has (Table.Single resource)) (won : t.wins resource = true) :
    ∃ claim a, t.job = .acquire claim a ∧ claim.row.resource = resource ∧
      t.next.entryOf? resource = some (Entry.ofRow claim.row) := by
  cases t.touch h with
  | nothing same lost =>
    rw [lost] at won
    cases won
  | insert claim job own won absent after => exact ⟨claim, .insert, job, own, after⟩
  | steal claim seen e job own won found stale after => exact ⟨claim, .steal seen, job, own, after⟩
  | refresh owner deadline e job => simp [wins, job] at won
  | release owner e job => simp [wins, job] at won
  | sweep now grace e job => simp [wins, job] at won

theorem present_of_wins (h : t.db.Has (Table.Single resource)) (won : t.wins resource = true) :
    (t.next.entryOf? resource).isSome := by
  obtain ⟨claim, a, -, -, after⟩ := entryOf?_of_wins h won
  simp [after]

/-- Where there is a row, the only winner is one that takes it over as stale. -/
theorem takesStale_of_wins (h : t.db.Sound) (before : (t.db.entryOf? resource).isSome)
    (won : t.wins resource = true) : t.takesStale resource = true := by
  cases t.touch (h.single resource) with
  | nothing same lost =>
    rw [lost] at won
    cases won
  | insert claim job own won absent => simp [absent] at before
  | steal claim seen e job own won found stale => exact takesStale_of h job own found stale
  | refresh owner deadline e job => simp [wins, job] at won
  | release owner e job => simp [wins, job] at won
  | sweep now grace e job => simp [wins, job] at won

end Turn

/-! ## Runs -/

theorem Operation.start_knownAt {now : Int} (h : Text.Digits.signedMin ≤ now)
    (operation : Operation) : (operation.start now).KnownAt now := by
  cases operation with
  | acquire resource host owner lease => exact Int.le_refl now
  | sweep grace => exact ⟨h, Int.le_refl now⟩
  | refresh resource owner hold => trivial
  | release resource owner => trivial

namespace Job

variable {job : Job} {clock later : Int}

theorem KnownAt.mono (h : job.KnownAt clock) (hle : clock ≤ later) : job.KnownAt later := by
  cases job with
  | acquire claim attempt => exact Int.le_trans h hle
  | sweep now grace => exact ⟨h.1, Int.le_trans h.2 hle⟩
  | refresh resource owner deadline => trivial
  | release resource owner => trivial
  | finished => trivial

theorem KnownAt.step (h : job.KnownAt clock) (db : Database) : (job.step db).1.KnownAt clock := by
  cases job with
  | acquire claim attempt => exact h
  | sweep now grace => trivial
  | refresh resource owner deadline => trivial
  | release resource owner => trivial
  | finished => trivial

end Job

namespace Traffic

variable {s : Traffic}

theorem Sound.after (h : s.Sound) {index : Nat} {job : Job} (hjob : s.jobs[index]? = some job) :
    (s.after ⟨index, job, s.db⟩).Sound := by
  refine ⟨job.step_has Table.kept_sound h.database, h.clock, fun other hother => ?_⟩
  rcases List.mem_or_eq_of_mem_set hother with hold | rfl
  · exact h.known other hold
  · exact (h.known job (List.mem_of_getElem? hjob)).step s.db

theorem Sound.step (h : s.Sound) (m : Move) : (s.step m).Sound := by
  cases m with
  | pass millis =>
    have later : s.clock ≤ s.clock + millis := by omega
    exact ⟨h.database, Int.le_trans h.clock later, fun job hjob => (h.known job hjob).mono later⟩
  | start operation =>
    refine ⟨h.database, h.clock, fun job hjob => ?_⟩
    rcases List.mem_append.mp hjob with hold | hnew
    · exact h.known job hold
    · rw [List.mem_singleton.mp hnew]
      exact operation.start_knownAt h.clock
  | turn index =>
    cases hjob : s.jobs[index]? with
    | none => simpa [Traffic.step, turn?, hjob] using h
    | some job => simpa [Traffic.step, turn?, hjob] using h.after hjob

@[simp] theorem run_cons (s : Traffic) (m : Move) (moves : List Move) :
    s.run (m :: moves) = (s.step m).run moves := rfl

theorem turn?_turn {index : Nat} {job : Job} (h : s.jobs[index]? = some job) :
    s.turn? (.turn index) = some ⟨index, job, s.db⟩ := by
  simp [turn?, h]

theorem length_step (s : Traffic) (m : Move) : s.jobs.length ≤ (s.step m).jobs.length := by
  cases m with
  | pass millis => exact Nat.le_refl _
  | start operation => simp [Traffic.step]
  | turn index => cases hjob : s.jobs[index]? <;> simp [Traffic.step, turn?, hjob, after]

/-- A job goes on by its own turns. -/
theorem jobs_step_turn {index : Nat} {job : Job} (h : s.jobs[index]? = some job) :
    (s.step (.turn index)).jobs[index]? = some (job.step s.db).1 := by
  have hlt : index < s.jobs.length := (List.getElem?_eq_some_iff.mp h).1
  simp [Traffic.step, turn?_turn h, after, hlt]

/-- A job goes on by its own turns only. -/
theorem jobs_step_of_ne {m : Move} {index : Nat} {job : Job} (h : s.jobs[index]? = some job)
    (hm : m ≠ .turn index) : (s.step m).jobs[index]? = some job := by
  cases m with
  | pass millis => exact h
  | start operation =>
    have hlt : index < s.jobs.length := (List.getElem?_eq_some_iff.mp h).1
    exact (List.getElem?_append_left hlt).trans h
  | turn other =>
    have hne : other ≠ index := fun heq => hm (heq ▸ rfl)
    cases hother : s.jobs[other]? with
    | none => simpa [Traffic.step, turn?, hother] using h
    | some job' => simpa [Traffic.step, turn?_turn hother, after, hne] using h

/-- A move that is no turn leaves the database alone. -/
theorem db_step (s : Traffic) (m : Move) :
    (s.step m).db = ((s.turn? m).map Turn.next).getD s.db := by
  cases m with
  | pass millis => rfl
  | start operation => rfl
  | turn index => cases hjob : s.jobs[index]? <;> simp [step, turn?, hjob, after]

theorem turn?_db {m : Move} {t : Turn} (h : s.turn? m = some t) : t.db = s.db := by
  cases m with
  | pass millis => cases h
  | start operation => cases h
  | turn index =>
    obtain ⟨job, -, rfl⟩ := Option.map_eq_some_iff.mp h
    rfl

theorem turn?_job {m : Move} {t : Turn} (h : s.turn? m = some t) :
    s.jobs[t.index]? = some t.job := by
  cases m with
  | pass millis => cases h
  | start operation => cases h
  | turn index =>
    obtain ⟨job, hjob, rfl⟩ := Option.map_eq_some_iff.mp h
    exact hjob

theorem step_has {P : Table → Prop} (kept : Table.Kept P) (h : s.db.Has P) (m : Move) :
    (s.step m).db.Has P := by
  rw [db_step]
  cases hm : s.turn? m with
  | none => exact h
  | some t => exact t.job.step_has kept (turn?_db hm ▸ h)

/-- What statements keep, every turn of a run finds. -/
theorem history_has {P : Table → Prop} (kept : Table.Kept P) (h : s.db.Has P) (moves : List Move) :
    ∀ t ∈ s.history moves, t.db.Has P := by
  induction moves generalizing s with
  | nil => exact fun t ht => absurd ht List.not_mem_nil
  | cons m moves ih =>
    intro t ht
    rcases List.mem_append.mp ht with hnow | hlater
    · rw [turn?_db (Option.mem_toList.mp hnow)]
      exact h
    · exact ih (step_has kept h m) t hlater

/-- Every turn of a run acts on a reading that the clock has shown. -/
theorem Sound.history_known (h : s.Sound) (moves : List Move) :
    ∀ t ∈ s.history moves, ∃ clock, t.job.KnownAt clock := by
  induction moves generalizing s with
  | nil => exact fun t ht => absurd ht List.not_mem_nil
  | cons m moves ih =>
    intro t ht
    rcases List.mem_append.mp ht with hnow | hlater
    · have hjob := turn?_job (Option.mem_toList.mp hnow)
      exact ⟨s.clock, h.known t.job (List.mem_of_getElem? hjob)⟩
    · exact ih (h.step m) t hlater

/-- An acquirer stays what it is, with the same claim. -/
theorem acquire_step {index : Nat} {claim : Claim}
    (h : ∃ a, s.jobs[index]? = some (.acquire claim a)) (m : Move) :
    ∃ a, (s.step m).jobs[index]? = some (.acquire claim a) := by
  obtain ⟨a, ha⟩ := h
  by_cases hm : m = .turn index
  · subst hm
    exact ⟨_, jobs_step_turn ha⟩
  · exact ⟨a, jobs_step_of_ne ha hm⟩

theorem history_acquire {index : Nat} {claim : Claim} (moves : List Move)
    (h : ∃ a, s.jobs[index]? = some (.acquire claim a)) :
    ∀ t ∈ s.history moves, t.index = index → ∃ a, t.job = .acquire claim a := by
  induction moves generalizing s with
  | nil => exact fun t ht => absurd ht List.not_mem_nil
  | cons m moves ih =>
    intro t ht hindex
    rcases List.mem_append.mp ht with hnow | hlater
    · obtain ⟨a, ha⟩ := h
      have hjob := turn?_job (Option.mem_toList.mp hnow)
      rw [hindex, ha] at hjob
      exact ⟨a, (Option.some.inj hjob).symm⟩
    · exact ih (acquire_step h m) t hlater hindex

/-- Each turn of a run finds what the one before has left. -/
theorem isChain_history (s : Traffic) (moves : List Move) (t : Turn) (ht : t.next = s.db) :
    (t :: s.history moves).IsChain Turn.Meets := by
  induction moves generalizing s t with
  | nil => exact .singleton t
  | cons m moves ih =>
    have hdb := db_step s m
    cases hm : s.turn? m with
    | none =>
      rw [hm] at hdb
      simpa [Traffic.history, hm] using ih (s.step m) t (ht.trans hdb.symm)
    | some u =>
      rw [hm] at hdb
      have hu : Turn.Meets t u := (turn?_db hm).trans ht.symm
      simpa [Traffic.history, hm] using List.IsChain.cons_cons hu (ih (s.step m) u hdb.symm)

end Traffic

end Leasehold

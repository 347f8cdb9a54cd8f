import Leasehold.Proofs.Lock.Race
import Leasehold.Proofs.Lock.Renewal
import Leasehold.Proofs.Lock.Requests
import Leasehold.Proofs.Time.Deadline

/-!
# A heartbeat keeps its lock

A lock that was granted and is renewed before its lease is over stays with its
owner, whatever others do who are not the owner: nobody else is granted it, no
sweep removes its row, and no renewal pass reports it lost.

`Scene` is a heartbeat on its machine with the operations of others that are under
way.  `Scene.Kept` is the invariant.  It ties the held lock to the row, whose
deadline is a lease after the last renewal, and every operation under way to that
deadline: no reading behind an operation is past it (`Job.KnownAt`), because
readings are taken in time and deadlines only move forward.
-/

namespace Leasehold

/-! ## Operations of others -/

/-- The operation neither moves the deadline of the owner's row nor gives the row up. -/
def Operation.Spares (resource owner : String) : Operation → Prop
  | refresh r o _ | release r o => ¬(r = resource ∧ o = owner)
  | acquire _ _ _ _ | sweep _ => True

/-- The operation reads the clock when it begins. -/
def Operation.reads : Operation → Bool
  | acquire _ _ _ _ | refresh _ _ _ | sweep _ => true
  | release _ _ => false

namespace Job

variable {job : Job} {resource owner : String}

/-- The job neither moves the deadline of the owner's row nor gives the row up. -/
def Spares (resource owner : String) : Job → Prop
  | refresh r o _ | release r o => ¬(r = resource ∧ o = owner)
  | acquire _ _ | sweep _ _ | finished => True

/-- The job has not been granted a resource. -/
def Losing (resource : String) : Job → Prop
  | acquire claim a =>
    claim.row.resource = resource → a.answer? = none ∨ a.answer? = some (.ok false)
  | refresh _ _ _ | release _ _ | sweep _ _ | finished => True

theorem Spares.step (h : job.Spares resource owner) (db : Database) :
    (job.step db).1.Spares resource owner := by
  cases job with
  | acquire claim a => trivial
  | refresh r o deadline => trivial
  | release r o => trivial
  | sweep now grace => trivial
  | finished => trivial

theorem spares_start {operation : Operation} (h : operation.Spares resource owner) (now : Int) :
    (operation.start now).Spares resource owner := by
  cases operation with
  | acquire r host o lease => trivial
  | refresh r o hold => exact h
  | release r o => exact h
  | sweep grace => trivial

theorem losing_start (operation : Operation) (now : Int) :
    (operation.start now).Losing resource := by
  cases operation with
  | acquire r host o lease => exact fun _ => .inl rfl
  | refresh r o hold => trivial
  | release r o => trivial
  | sweep grace => trivial

/-- While the row of a resource is not past its deadline, nobody is granted the resource. -/
theorem Losing.step (row : LockRow) {db : Database} (h : job.Losing row.resource)
    (table : db.Has (Table.Single row.resource))
    (taken : db.entryOf? row.resource = some (Entry.ofRow row))
    (known : job.KnownAt row.deadline) : (job.step db).1.Losing row.resource := by
  cases job with
  | acquire claim a =>
    intro own
    have own : claim.row.resource = row.resource := own
    exact (Race.step_taken claim (own ▸ table) (own ▸ taken) known (h own)).1
  | refresh r o deadline => trivial
  | release r o => trivial
  | sweep now grace => trivial
  | finished => trivial

end Job

/-- A turn that spares the owner, and whose reading is not past the deadline, leaves the row. -/
theorem Turn.row_spared {t : Turn} (row : LockRow)
    (table : t.db.Has (Table.Single row.resource))
    (taken : t.db.entryOf? row.resource = some (Entry.ofRow row))
    (known : t.job.KnownAt row.deadline) (spares : t.job.Spares row.resource row.owner) :
    t.next.entryOf? row.resource = some (Entry.ofRow row) := by
  cases t.touch table with
  | nothing same => exact same.trans taken
  | insert claim job own won absent => cases absent.symm.trans taken
  | steal claim seen e job own won found stale =>
    cases taken.symm.trans found
    rw [job] at known
    have past := (Entry.deadline_of_below (Entry.row_ofRow row) stale).2
    have hnow : claim.now ≤ row.deadline := known
    omega
  | refresh owner deadline e job found owned =>
    cases taken.symm.trans found
    rw [job] at spares
    exact absurd ⟨rfl, (Cell.text.inj owned).symm⟩ spares
  | release owner e job found owned =>
    cases taken.symm.trans found
    rw [job] at spares
    exact absurd ⟨rfl, (Cell.text.inj owned).symm⟩ spares
  | sweep now grace e job found stale =>
    cases taken.symm.trans found
    rw [job] at known
    have past := Entry.deadline_of_swept (Entry.row_ofRow row) known.1 stale
    have hnow := known.2
    omega

/-! ## The scene -/

/-- A heartbeat on its machine, and the operations of others that are under way. -/
structure Scene where
  world : World
  heartbeat : Heartbeat
  jobs : List Job
  /-- The reading of the last tick, or of the grant if there was none since. -/
  renewed : Int

namespace Scene

/-- What can happen next. -/
inductive Move where
  /-- Time passes. -/
  | pass (time : Span)
  /-- Another client begins an operation. -/
  | start (operation : Operation)
  /-- An operation under way puts its next statement. -/
  | turn (index : Nat)
  /-- The heartbeat takes a lock in. -/
  | track (lock : HeldLock)
  /-- The heartbeat gives a lock up. -/
  | untrack (resource owner : String)
  /-- The heartbeat renews what it holds. -/
  | tick

/-- The database that all clients share. -/
def database (s : Scene) : Database := s.heartbeat.client.store.database s.world

/-- The scene after a move. -/
def step (s : Scene) : Move → Scene
  | .pass time => { s with world := { s.world with clock := s.world.clock.advance time } }
  | .start operation =>
    { s with jobs := s.jobs ++ [operation.start (s.world.clock.reading?.getD 0)] }
  | .turn index =>
    match s.jobs[index]? with
    | some job =>
      { s with
        world := s.heartbeat.client.store.setDatabase s.world (job.step s.database).2
        jobs := s.jobs.set index (job.step s.database).1 }
    | none => s
  | .track lock =>
    let (heartbeat, world) := s.heartbeat.track lock.resource lock.owner lock.lease s.world
    { s with world, heartbeat }
  | .untrack resource owner => { s with heartbeat := (s.heartbeat.untrack resource owner).2 }
  | .tick =>
    let ((_, heartbeat), world) := s.heartbeat.tick s.world
    { s with world, heartbeat, renewed := s.world.clock.reading?.getD s.renewed }

/-- All that the scene is in the course of a run, from the beginning to the end. -/
def trail : Scene → List Move → List Scene
  | s, [] => [s]
  | s, m :: moves => s :: trail (s.step m) moves

/-- The scene at the end of a run is one of its scenes. -/
theorem foldl_mem_trail (s : Scene) (moves : List Move) : moves.foldl step s ∈ s.trail moves := by
  induction moves generalizing s with
  | nil => exact List.mem_singleton_self s
  | cons m moves ih => exact List.mem_cons_of_mem s (ih (s.step m))

/-- The clock can be read, at most the whole milliseconds of a lease after the last renewal. -/
def InTime (lease : Span) (s : Scene) : Prop :=
  ∃ t, s.world.clock.reading? = some t ∧ t ≤ s.renewed + lease.millis

/-- Readings are taken in time, others leave the owner's row to the owner, and the heartbeat goes
on holding its lock. -/
def Allowed (lock : HeldLock) (s : Scene) : Move → Prop
  | .pass _ | .turn _ => True
  | .start operation =>
    operation.Spares lock.resource lock.owner ∧ (operation.reads = true → s.InTime lock.lease)
  | .track other => other.resource ≠ lock.resource
  | .untrack other _ => other ≠ lock.resource
  | .tick => s.InTime lock.lease

/-- Every move of a run is allowed where it is made. -/
def AllAllowed (lock : HeldLock) : Scene → List Move → Prop
  | _, [] => True
  | s, m :: moves => s.Allowed lock m ∧ AllAllowed lock (s.step m) moves

/-- The row of a lock that was renewed at a reading. -/
def rowAt (lock : HeldLock) (host : String) (renewed : Int) : LockRow :=
  ⟨lock.resource, host, lock.owner, deadlineAfter renewed lock.lease⟩

/-- The lock is held, its row is a lease after the last renewal, and nobody else can get it. -/
structure Kept (lock : HeldLock) (host : String) (s : Scene) : Prop where
  opened : s.heartbeat.client.store.Open s.world
  table : s.database.Has (Table.Single lock.resource)
  row : s.database.entryOf? lock.resource = some (Entry.ofRow (rowAt lock host s.renewed))
  nonneg : 0 ≤ s.renewed
  past : s.renewed ≤ s.world.clock.millis
  sorted : s.heartbeat.held.WellFormed
  held : s.heartbeat.held.lock? lock.resource = some lock
  known : ∀ job ∈ s.jobs, job.KnownAt (deadlineAfter s.renewed lock.lease)
  spares : ∀ job ∈ s.jobs, job.Spares lock.resource lock.owner
  losing : ∀ job ∈ s.jobs, job.Losing lock.resource

/-! ## Each move keeps the lock -/

variable {s : Scene} {lock : HeldLock} {host : String}

theorem InTime.le_deadline (h : s.InTime lock.lease) (nonneg : 0 ≤ s.renewed) :
    ∃ t, s.world.clock.reading? = some t ∧ 0 ≤ t ∧ t ≤ deadlineAfter s.renewed lock.lease := by
  obtain ⟨t, ht, hle⟩ := h
  obtain ⟨-, hpos, hlast⟩ := Clock.reading?_eq_some_iff.mp ht
  exact ⟨t, ht, hpos, le_deadlineAfter_of_within nonneg hlast hle⟩

theorem Kept.pass (h : s.Kept lock host) (time : Span) : (s.step (.pass time)).Kept lock host := by
  have later := s.world.clock.millis_advance time
  have same : (s.step (.pass time)).database = s.database := by
    unfold database Scene.step
    cases s.heartbeat.client.store <;> rfl
  refine ⟨?_, same ▸ h.table, same ▸ h.row, h.nonneg, Int.le_trans h.past later, h.sorted, h.held,
    h.known, h.spares, h.losing⟩
  have opened := h.opened
  simp only [Scene.step]
  cases hstore : s.heartbeat.client.store with
  | memory => trivial
  | file path =>
    rw [hstore] at opened
    exact opened

theorem Kept.start (h : s.Kept lock host) {operation : Operation}
    (allowed : s.Allowed lock (.start operation)) : (s.step (.start operation)).Kept lock host := by
  obtain ⟨spares, reads⟩ := allowed
  refine ⟨h.opened, h.table, h.row, h.nonneg, h.past, h.sorted, h.held, fun job hjob => ?_,
    fun job hjob => ?_, fun job hjob => ?_⟩
  · rcases List.mem_append.mp hjob with hold | hnew
    · exact h.known job hold
    · rw [List.mem_singleton.mp hnew]
      cases hreads : operation.reads with
      | true =>
        obtain ⟨t, ht, hpos, hle⟩ := (reads hreads).le_deadline h.nonneg
        have hmin : Text.Digits.signedMin ≤ t := by
          simp only [Text.Digits.signedMin]
          omega
        rw [ht]
        exact (operation.start_knownAt hmin).mono hle
      | false =>
        cases operation with
        | release r o => trivial
        | acquire r host o lease => cases hreads
        | refresh r o hold => cases hreads
        | sweep grace => cases hreads
  · rcases List.mem_append.mp hjob with hold | hnew
    · exact h.spares job hold
    · rw [List.mem_singleton.mp hnew]
      exact Job.spares_start spares _
  · rcases List.mem_append.mp hjob with hold | hnew
    · exact h.losing job hold
    · rw [List.mem_singleton.mp hnew]
      exact Job.losing_start operation _

theorem Kept.turn (h : s.Kept lock host) (index : Nat) :
    (s.step (.turn index)).Kept lock host := by
  cases hjob : s.jobs[index]? with
  | none => simpa [Scene.step, hjob] using h
  | some job =>
    have hmem := List.mem_of_getElem? hjob
    have known := h.known job hmem
    have read := Store.database_setDatabase h.opened (job.step s.database).2
    have row : (job.step s.database).2.entryOf? lock.resource =
        some (Entry.ofRow (rowAt lock host s.renewed)) :=
      Turn.row_spared (t := ⟨index, job, s.database⟩) (rowAt lock host s.renewed) h.table h.row
        known (h.spares job hmem)
    have lost : (job.step s.database).1.Losing lock.resource :=
      Job.Losing.step (rowAt lock host s.renewed) (h.losing job hmem) h.table h.row known
    have step : s.step (.turn index) =
        { s with
          world := s.heartbeat.client.store.setDatabase s.world (job.step s.database).2
          jobs := s.jobs.set index (job.step s.database).1 } := by
      simp [Scene.step, hjob]
    rw [step]
    refine ⟨h.opened.setDatabase _, ?_, ?_, h.nonneg, ?_, h.sorted, h.held, ?_, ?_, ?_⟩
    · show (Store.database _ s.heartbeat.client.store).Has (Table.Single lock.resource)
      rw [read]
      exact job.step_has (Table.kept_single _) h.table
    · show (Store.database _ s.heartbeat.client.store).entryOf? lock.resource = _
      rw [read]
      exact row
    · show s.renewed ≤ (Store.setDatabase _ _ s.heartbeat.client.store).clock.millis
      rw [Store.clock_setDatabase]
      exact h.past
    · intro other hother
      rcases List.mem_or_eq_of_mem_set hother with hold | rfl
      · exact h.known other hold
      · exact known.step s.database
    · intro other hother
      rcases List.mem_or_eq_of_mem_set hother with hold | rfl
      · exact h.spares other hold
      · exact (h.spares job hmem).step s.database
    · intro other hother
      rcases List.mem_or_eq_of_mem_set hother with hold | rfl
      · exact h.losing other hold
      · exact lost

theorem Kept.track (h : s.Kept lock host) {other : HeldLock}
    (allowed : other.resource ≠ lock.resource) : (s.step (.track other)).Kept lock host := by
  obtain ⟨heartbeat, alike⟩ := s.heartbeat.track_spec other.resource other.owner other.lease s.world
  have step : s.step (.track other) =
      { s with
        world := (s.heartbeat.track other.resource other.owner other.lease s.world).2
        heartbeat := { s.heartbeat with held := s.heartbeat.held.track other } } := by
    rw [← heartbeat]
    rfl
  have same := s.heartbeat.client.store.database_alike alike
  rw [step]
  refine ⟨h.opened.alike alike, ?_, ?_, h.nonneg, ?_, h.sorted.track, ?_, h.known, h.spares,
    h.losing⟩
  · show (Store.database _ s.heartbeat.client.store).Has (Table.Single lock.resource)
    rw [same]
    exact h.table
  · show (Store.database _ s.heartbeat.client.store).entryOf? lock.resource = _
    rw [same]
    exact h.row
  · show s.renewed ≤ (World.clock _).millis
    rw [alike.clock]
    exact h.past
  · exact (Held.lock?_track_of_ne (Ne.symm allowed)).trans h.held

theorem Kept.untrack (h : s.Kept lock host) {other owner : String}
    (allowed : other ≠ lock.resource) : (s.step (.untrack other owner)).Kept lock host := by
  refine ⟨h.opened, h.table, h.row, h.nonneg, h.past, h.sorted.untrack, ?_, h.known, h.spares,
    h.losing⟩
  exact (Held.lock?_untrack_of_ne (Ne.symm allowed)).trans h.held

/-- What a tick in time does: it reports no loss of the lock, keeps it held, and moves the
deadline of its row. -/
theorem Kept.tick_spec (h : s.Kept lock host) {t : Int} (ht : s.world.clock.reading? = some t) :
    ∃ report held db, (s.heartbeat.tick s.world).1 = (some report, { s.heartbeat with held }) ∧
      (s.heartbeat.client.store.setDatabase s.world db).Alike (s.heartbeat.tick s.world).2 ∧
      (∀ lost ∈ report.lost, lost.resource ≠ lock.resource) ∧ held.WellFormed ∧
      held.lock? lock.resource = some lock ∧ db.Has (Table.Single lock.resource) ∧
      db.entryOf? lock.resource = some (Entry.ofRow (rowAt lock host t)) := by
  have hmem : lock ∈ s.heartbeat.held := List.mem_of_find?_eq_some h.held
  have nonempty : s.heartbeat.held ≠ [] := List.ne_nil_of_mem hmem
  have only : ∀ l ∈ s.heartbeat.held, l.resource = lock.resource → l = lock := by
    intro l hl hr
    have found := h.sorted.lock?_of_mem hl
    rw [hr, h.held] at found
    exact (Option.some.inj found).symm
  have wellFormed := h.sorted.renewAll t s.heartbeat.held s.database
  have table := Held.renewAll_has (Table.kept_single _) t s.heartbeat.held s.heartbeat.held h.table
  obtain ⟨tracked, refreshed, row⟩ :=
    Held.renewAll_keeps t s.heartbeat.held only h.held h.table h.row rfl
  obtain ⟨answer, alike⟩ := Heartbeat.tick_spec ht nonempty rfl
  rw [if_pos hmem] at row
  exact ⟨_, _, _, answer, alike, RenewalReport.lost_refreshed refreshed, wellFormed, tracked,
    table, row⟩

theorem Kept.tick (h : s.Kept lock host) (allowed : s.InTime lock.lease) :
    (s.step .tick).Kept lock host := by
  obtain ⟨t, ht, hpos, hle⟩ := allowed.le_deadline h.nonneg
  have hmillis := (Clock.reading?_eq_some_iff.mp ht).1
  have later : s.renewed ≤ t := hmillis ▸ h.past
  obtain ⟨report, held, db, answer, alike, -, sorted, tracked, table, row⟩ := h.tick_spec ht
  have step : s.step .tick =
      { s with
        world := (s.heartbeat.tick s.world).2
        heartbeat := { s.heartbeat with held }
        renewed := t } := by
    have hstep : s.step .tick =
        { s with
          world := (s.heartbeat.tick s.world).2
          heartbeat := (s.heartbeat.tick s.world).1.2
          renewed := s.world.clock.reading?.getD s.renewed } := rfl
    rw [hstep, answer, ht]
    rfl
  have read := (s.heartbeat.client.store.database_alike alike).trans
    (Store.database_setDatabase h.opened db)
  rw [step]
  refine ⟨(h.opened.setDatabase db).alike alike, ?_, ?_, hpos, ?_, sorted, tracked,
    fun job hjob => ?_, h.spares, h.losing⟩
  · show (Store.database _ s.heartbeat.client.store).Has (Table.Single lock.resource)
    rw [read]
    exact table
  · show (Store.database _ s.heartbeat.client.store).entryOf? lock.resource = _
    rw [read]
    exact row
  · show t ≤ (World.clock _).millis
    exact Int.le_of_eq (by rw [alike.clock, Store.clock_setDatabase, hmillis])
  · exact (h.known job hjob).mono (deadlineAfter_mono later lock.lease)

theorem Kept.step (h : s.Kept lock host) {m : Move} (allowed : s.Allowed lock m) :
    (s.step m).Kept lock host := by
  cases m with
  | pass time => exact h.pass time
  | start operation => exact h.start allowed
  | turn index => exact h.turn index
  | track other => exact h.track allowed
  | untrack other owner => exact h.untrack allowed
  | tick => exact h.tick allowed

theorem Kept.trail (h : s.Kept lock host) {moves : List Move} (allowed : s.AllAllowed lock moves) :
    ∀ u ∈ s.trail moves, u.Kept lock host := by
  induction moves generalizing s with
  | nil =>
    intro u hu
    rw [List.mem_singleton.mp hu]
    exact h
  | cons m moves ih =>
    intro u hu
    rcases List.mem_cons.mp hu with rfl | hlater
    · exact h
    · exact ih (h.step allowed.1) allowed.2 u hlater

/-- The lock that a client was granted is kept, if the heartbeat already holds it. -/
theorem kept_of_acquire {client : Client} {w : World} {heartbeat : Heartbeat} {jobs : List Job}
    {t : Int} (reading : w.clock.reading? = some t) (opened : client.store.Open w)
    (table : (client.store.database w).Has (Table.Single lock.resource))
    (granted : (client.acquire lock.resource lock.owner lock.lease w).1 = some true)
    (same : heartbeat.client.store = client.store) (sorted : heartbeat.held.WellFormed)
    (held : heartbeat.held.lock? lock.resource = some lock)
    (others : ∀ job ∈ jobs, job.KnownAt t ∧ job.Spares lock.resource lock.owner ∧
      job.Losing lock.resource) :
    Kept lock client.host
      ⟨(client.acquire lock.resource lock.owner lock.lease w).2, heartbeat, jobs, t⟩ := by
  obtain ⟨hmillis, hpos, hlast⟩ := Clock.reading?_eq_some_iff.mp reading
  generalize hperform : Attempt.perform
    (Claim.new t lock.resource client.host lock.owner lock.lease) (client.store.database w) = done
  obtain ⟨ending, db⟩ := done
  have holds : client.store.Holds w.clock (client.store.database w) w := ⟨opened, rfl, rfl⟩
  obtain ⟨answer, left⟩ := Client.acquire_holds holds reading hperform
  rw [answer] at granted
  have row := Attempt.entryOf?_perform table (by rw [hperform]; exact Option.some.inj granted)
  have table' := Attempt.perform_has (Table.kept_single _)
    (Claim.new t lock.resource client.host lock.owner lock.lease) table
  rw [hperform] at row table'
  have within : t ≤ deadlineAfter t lock.lease :=
    le_deadlineAfter_of_within hpos hlast (by omega)
  refine ⟨?_, ?_, ?_, hpos, ?_, sorted, held, fun job hjob => (others job hjob).1.mono within,
    fun job hjob => (others job hjob).2.1, fun job hjob => (others job hjob).2.2⟩
  · show heartbeat.client.store.Open _
    rw [same]
    exact left.isOpen
  · show (Store.database _ heartbeat.client.store).Has (Table.Single lock.resource)
    rw [same, left.database_eq]
    exact table'
  · show (Store.database _ heartbeat.client.store).entryOf? lock.resource = _
    rw [same, left.database_eq]
    exact row
  · show t ≤ (World.clock _).millis
    exact Int.le_of_eq (by rw [left.clock_eq, hmillis])

/-- The owner's lease has not run out at a reading in time. -/
theorem Kept.isActive (h : s.Kept lock host) {t : Int} (ht : s.world.clock.reading? = some t)
    (within : t ≤ s.renewed + lock.lease.millis) :
    (s.heartbeat.client.isActive lock.resource lock.owner s.world).1 = some true := by
  obtain ⟨-, -, hlast⟩ := Clock.reading?_eq_some_iff.mp ht
  have early := le_deadlineAfter_of_within h.nonneg hlast within
  obtain ⟨table, hdb, -⟩ := h.table
  have row := h.row
  rw [hdb, Database.entryOf?_some] at row
  have active : table.isActive lock.resource lock.owner t = true :=
    Table.isActive_of_entryOf? row rfl (decide_eq_true early)
  obtain ⟨answer, -⟩ := Client.isActive_holds ⟨h.opened, rfl, hdb⟩ ht
  have yes : (Database.isActive lock.resource lock.owner t ⟨some table⟩).1 = .ok true :=
    congrArg Except.ok active
  rw [answer, yes, decide_eq_true rfl]

/-- What the owner of a lock can rely on at any moment. -/
structure Secure (lock : HeldLock) (host : String) (s : Scene) : Prop where
  /-- The heartbeat holds the lock. -/
  held : s.heartbeat.held.lock? lock.resource = some lock
  /-- The row is there, with its owner and a deadline of a lease after the last renewal. -/
  row : s.database.row? lock.resource =
    some ⟨lock.resource, host, lock.owner, deadlineAfter s.renewed lock.lease⟩
  /-- Everybody else who has asked for the resource and has an answer was refused. -/
  refused : ∀ claim attempt answer, .acquire claim attempt ∈ s.jobs →
    claim.row.resource = lock.resource → attempt.answer? = some answer → answer = .ok false
  /-- At a reading in time the lease has not run out. -/
  active : ∀ t, s.world.clock.reading? = some t → t ≤ s.renewed + lock.lease.millis →
    (s.heartbeat.client.isActive lock.resource lock.owner s.world).1 = some true
  /-- A tick in time reports no loss of the lock, and moves the deadline. -/
  tick : ∀ t, s.world.clock.reading? = some t → t ≤ s.renewed + lock.lease.millis →
    ∃ report, (s.heartbeat.tick s.world).1.1 = some report ∧
      (∀ lost ∈ report.lost, lost.resource ≠ lock.resource) ∧
      (s.step .tick).database.row? lock.resource =
        some ⟨lock.resource, host, lock.owner, deadlineAfter t lock.lease⟩

theorem Kept.secure (h : s.Kept lock host) : s.Secure lock host := by
  refine ⟨h.held, Database.row?_eq_some_iff.mpr ⟨_, h.row, rfl⟩, ?_,
    fun t ht within => h.isActive ht within, fun t ht within => ?_⟩
  · intro claim attempt answer hjob own hanswer
    rcases h.losing _ hjob own with hnone | hfalse
    · rw [hnone] at hanswer
      cases hanswer
    · exact Option.some.inj (hanswer.symm.trans hfalse)
  · obtain ⟨report, held, db, answer, -, unlost, -⟩ := h.tick_spec ht
    have after := (h.tick ⟨t, ht, within⟩).row
    have renewed : (s.step .tick).renewed = t := by
      show s.world.clock.reading?.getD s.renewed = t
      rw [ht]
      rfl
    rw [renewed] at after
    exact ⟨report, by rw [answer], unlost, Database.row?_eq_some_iff.mpr ⟨_, after, rfl⟩⟩

/-- A client is granted a lock, and a heartbeat holds it.  Then the owner's lock is secure in the
course of every run in which others neither refresh nor release the owner's row, the heartbeat
is not told anything about the resource, and every reading is taken within the whole
milliseconds of the lease after the last renewal. -/
theorem heartbeat_keeps_lock {client : Client} {w : World} {heartbeat : Heartbeat}
    {jobs : List Job} {t₀ : Int} (reading : w.clock.reading? = some t₀)
    (opened : client.store.Open w)
    (table : (client.store.database w).Has (Table.Single lock.resource))
    (granted : (client.acquire lock.resource lock.owner lock.lease w).1 = some true)
    (same : heartbeat.client.store = client.store) (sorted : heartbeat.held.WellFormed)
    (held : heartbeat.held.lock? lock.resource = some lock)
    (others : ∀ job ∈ jobs, job.KnownAt t₀ ∧ job.Spares lock.resource lock.owner ∧
      job.Losing lock.resource) (moves : List Move)
    (allowed : AllAllowed lock
      ⟨(client.acquire lock.resource lock.owner lock.lease w).2, heartbeat, jobs, t₀⟩ moves) :
    ∀ s ∈ trail
        ⟨(client.acquire lock.resource lock.owner lock.lease w).2, heartbeat, jobs, t₀⟩ moves,
      s.Secure lock client.host := by
  have start := kept_of_acquire reading opened table granted same sorted held others
  intro s hs
  exact (start.trail allowed s hs).secure

/-- A client of an empty store in memory. -/
def loneClient : Client := ⟨.memory, "h"⟩

/-- The machine of that client, at the epoch. -/
def loneWorld : World := { World.new ⟨0, 0⟩ with memory := ⟨some Table.empty⟩ }

/-- A lock for a second. -/
def loneLock : HeldLock := ⟨"r", "o", Span.ofMillis 1000⟩

/-- The client has got the lock, and a heartbeat holds it. -/
def loneStart : Scene :=
  ⟨(loneClient.acquire "r" "o" (Span.ofMillis 1000) loneWorld).2,
    { Heartbeat.new loneClient (Span.ofMillis 500) with held := Held.track loneLock [] }, [], 0⟩

/-- At the very deadline somebody asks for the lock in the name of its owner, and a sweep without
grace comes by. -/
def loneMoves : List Move :=
  [.pass (Span.ofMillis 1000), .start (.acquire "r" "g" "o" Span.zero), .turn 0,
    .start (.sweep Span.zero), .turn 1, .turn 0, .tick, .pass (Span.ofMillis 1000), .tick]

theorem heartbeat_keeps_lock_at_deadline :
    AllAllowed loneLock loneStart loneMoves ∧
      (loneMoves.foldl step loneStart).Secure loneLock "h" := by
  have reading : loneWorld.clock.reading? = some 0 := by decide +kernel
  have opened : loneClient.store.Open loneWorld := trivial
  have table : (loneClient.store.database loneWorld).Has (Table.Single loneLock.resource) :=
    ⟨Table.empty, rfl, Table.wellFormed_empty.single _⟩
  have granted : (loneClient.acquire loneLock.resource loneLock.owner loneLock.lease
      loneWorld).1 = some true := by decide +kernel
  have allowed : AllAllowed loneLock loneStart loneMoves :=
    ⟨trivial, ⟨trivial, fun _ => ⟨1000, by decide +kernel, by decide +kernel⟩⟩, trivial,
      ⟨trivial, fun _ => ⟨1000, by decide +kernel, by decide +kernel⟩⟩, trivial, trivial,
      ⟨1000, by decide +kernel, by decide +kernel⟩, trivial,
      ⟨2000, by decide +kernel, by decide +kernel⟩, trivial⟩
  refine ⟨allowed, ?_⟩
  exact heartbeat_keeps_lock reading opened table granted rfl Held.wellFormed_nil.track rfl
    (fun job hjob => absurd hjob List.not_mem_nil) loneMoves allowed _
    (foldl_mem_trail loneStart loneMoves)

end Scene

end Leasehold

import Leasehold.Proofs.Lock.Traffic
import Leasehold.Proofs.World.Programs
import Leasehold.Proofs.World.Storage

/-!
# What requests of a client do to its store

Each request is described by its answer and by the database that it leaves: the
world after it is the one with that database, but for notes in the journal.
-/

namespace Leasehold

open Program

namespace Attempt

variable {claim : Claim} {a : Attempt} {db : Database}

/-- An attempt that is granted the lock by a statement has written its row. -/
theorem entryOf?_step_of_granted (h : db.Has (Table.Single claim.row.resource))
    (before : a.isGranted = false)
    (after : (a.step claim db).1.isGranted = true) :
    (a.step claim db).2.entryOf? claim.row.resource = some (Entry.ofRow claim.row) := by
  have won : Turn.wins claim.row.resource ⟨0, .acquire claim a, db⟩ = true := by
    simp [Turn.wins, before, after]
  obtain ⟨claim', a', job, -, hrow⟩ := Turn.entryOf?_of_wins h won
  cases job
  exact hrow

/-- A statement leaves the row of an attempt that is granted the lock, now or before. -/
theorem row_step (h : db.Has (Table.Single claim.row.resource))
    (hrow : a.isGranted = true → db.entryOf? claim.row.resource = some (Entry.ofRow claim.row))
    (granted : (a.step claim db).1.isGranted = true) :
    (a.step claim db).2.entryOf? claim.row.resource = some (Entry.ofRow claim.row) := by
  cases hbefore : a.isGranted with
  | false => exact entryOf?_step_of_granted h hbefore granted
  | true =>
    cases a with
    | done ending => exact hrow hbefore
    | insert => cases hbefore
    | read => cases hbefore
    | steal seen => cases hbefore

/-- An undisturbed attempt is its three statements. -/
theorem perform_eq (claim : Claim) (db : Database) :
    ∃ ending,
      (step claim (step claim (step claim insert db).1 (step claim insert db).2).1
        (step claim (step claim insert db).1 (step claim insert db).2).2).1 = done ending ∧
      perform claim db = (ending,
        (step claim (step claim (step claim insert db).1 (step claim insert db).2).1
          (step claim (step claim insert db).1 (step claim insert db).2).2).2) := by
  obtain ⟨ending, hdone⟩ := step_step_step_done claim db (step claim insert db).2
    (step claim (step claim insert db).1 (step claim insert db).2).2
  exact ⟨ending, hdone, by simp only [perform, hdone]⟩

/-- An undisturbed attempt that is granted the lock leaves its row. -/
theorem entryOf?_perform (h : db.Has (Table.Single claim.row.resource))
    (granted : (perform claim db).1.granted = true) :
    (perform claim db).2.entryOf? claim.row.resource = some (Entry.ofRow claim.row) := by
  obtain ⟨ending, hdone, hperform⟩ := perform_eq claim db
  have h₁ := step_has (Table.kept_single _) claim insert h
  have h₂ := step_has (Table.kept_single _) claim (step claim insert db).1 h₁
  rw [hperform] at granted ⊢
  refine row_step h₂ (row_step h₁ (row_step h fun hinsert => by cases hinsert)) ?_
  rw [hdone]
  exact granted

theorem perform_has {P : Table → Prop} (kept : Table.Kept P) (claim : Claim) (h : db.Has P) :
    (perform claim db).2.Has P := by
  obtain ⟨ending, -, hperform⟩ := perform_eq claim db
  have h₁ := step_has kept claim insert h
  have h₂ := step_has kept claim (step claim insert db).1 h₁
  rw [hperform]
  exact step_has kept claim _ h₂

end Attempt

namespace Client

variable {c : Client} {resource owner : String} {w : World} {now : Int}

/-- A note is no more than a note, also where it goes with an answer. -/
theorem orNote_alike {α : Type} (what : String) (substitute : α) (answer : Except Fault α)
    (w : World) : w.Alike (orNote what substitute answer w).2 := by
  cases answer with
  | ok a => exact World.Alike.refl w
  | error f => exact World.alike_note _ w

theorem acquireAt_spec {lease : Span} {ending : Ending} {db : Database}
    (h : Attempt.perform (Claim.new now resource c.host owner lease) (c.store.database w) =
      (ending, db)) :
    (c.acquireAt resource owner lease now w).1 = ending.answer.mapError StoreFault.toFault ∧
      (c.store.setDatabase w db).Alike (c.acquireAt resource owner lease now w).2 := by
  unfold acquireAt
  cases hnote : ending.note? resource owner with
  | none =>
    simp only [bind, StateT.bind, pure, h, hnote]
    exact ⟨rfl, World.Alike.refl _⟩
  | some note =>
    simp only [bind, StateT.bind, pure, h, hnote]
    exact ⟨rfl, World.alike_note _ _⟩

/-- What a client is told when it asks for a lock, and what it leaves in its store. -/
theorem acquire_spec {lease : Span} {ending : Ending} {db : Database}
    (hnow : w.clock.reading? = some now)
    (h : Attempt.perform (Claim.new now resource c.host owner lease) (c.store.database w) =
      (ending, db)) :
    (c.acquire resource owner lease w).1 = some ending.granted ∧
      (c.store.setDatabase w db).Alike (c.acquire resource owner lease w).2 := by
  obtain ⟨hanswer, halike⟩ := acquireAt_spec h
  unfold acquire
  rw [World.atNow_of_some hnow]
  simp only [bind, StateT.bind]
  generalize c.acquireAt resource owner lease now w = reply at hanswer halike ⊢
  obtain ⟨answer, w'⟩ := reply
  refine ⟨?_, halike.trans (orNote_alike _ _ _ _)⟩
  cases hanswer
  cases ending <;> rfl

variable {clock : Clock} {db db' : Database}

/-- A statement that fails counts as a refusal. -/
theorem noted_holds (h : c.store.Holds clock db w) (what : String)
    (statement : Database → Database.Reply Bool) :
    ((do orNote what false (← c.store.demand statement)) w).1 =
        decide ((statement db).1 = .ok true) ∧
      c.store.Holds clock (statement db).2
        ((do orNote what false (← c.store.demand statement)) w).2 := by
  obtain ⟨answer, left⟩ := h.demand statement
  rw [bind_at, answer]
  refine ⟨?_, left.alike (orNote_alike _ _ _ _)⟩
  cases (statement db).1 with
  | error f => rfl
  | ok b => cases b <;> rfl

theorem acquire_holds {lease : Span} {ending : Ending} (h : c.store.Holds clock db w)
    (hnow : clock.reading? = some now)
    (performs : Attempt.perform (Claim.new now resource c.host owner lease) db = (ending, db')) :
    (c.acquire resource owner lease w).1 = some ending.granted ∧
      c.store.Holds clock db' (c.acquire resource owner lease w).2 := by
  have reading : w.clock.reading? = some now := h.clock_eq ▸ hnow
  obtain ⟨answer, alike⟩ := acquire_spec reading (h.database_eq ▸ performs)
  exact ⟨answer, (h.setDatabase db').alike alike⟩

/-- What a client is told when it asks for the state of its lock. -/
theorem isActive_holds (h : c.store.Holds clock db w) (hnow : clock.reading? = some now) :
    (c.isActive resource owner w).1 =
        some (decide ((Database.isActive resource owner now db).1 = .ok true)) ∧
      c.store.Holds clock (Database.isActive resource owner now db).2
        (c.isActive resource owner w).2 := by
  have reading : w.clock.reading? = some now := h.clock_eq ▸ hnow
  obtain ⟨answer, left⟩ := noted_holds h
    ("Failed to query lock on " ++ resource ++ " for " ++ owner)
    (Database.isActive resource owner now)
  rw [isActive, World.atNow_of_some reading]
  exact ⟨congrArg some answer, left⟩

end Client

namespace Store

variable {s : Store} {clock : Clock} {now : Int} {db : Database} {w : World}

theorem sweep_spec (h : s.Holds clock db w) (hnow : clock.reading? = some now) (grace : Span) :
    (∃ swept, (s.sweep grace w).1 = some swept) ∧
      s.Holds clock (Database.sweep now grace db).2 (s.sweep grace w).2 := by
  have reading : w.clock.reading? = some now := h.clock_eq ▸ hnow
  obtain ⟨answer, left⟩ := h.demand (Database.sweep now grace)
  rw [sweep, World.atNow_of_some reading]
  refine ⟨⟨_, rfl⟩, ?_⟩
  have same : (World.uptime w).2 = w := rfl
  rw [bind_at, bind_at, same, answer]
  generalize (s.demand (Database.sweep now grace) w).2 = w' at left ⊢
  cases (Database.sweep now grace db).1 with
  | error f => exact left
  | ok report => exact left.alike (World.alike_note _ _)

end Store

end Leasehold

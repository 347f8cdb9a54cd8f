import Leasehold.Proofs.Service.Answers

/-!
# What a service finds when it starts

The start opens the store, makes the table if there is none, and sweeps it if the
settings say so.  What it leaves is `ServiceSettings.prepared`, and from then on the
service is started (`Service.start_spec`).  To start it once more changes nothing.
-/

namespace Leasehold

open Program

/-- The table that a service works on: the one it has found, without the rows that are past
their deadline by more than a grace if it sweeps. -/
def ServiceSettings.prepared (s : ServiceSettings) (now : Int) (found : Database) : Table :=
  let table := found.table.getD Table.empty
  if s.sweepOnStart then (table.purgeBefore (momentBefore now s.sweepGrace)).2 else table

namespace Service

variable {settings : ServiceSettings} {store : Store} {clock : Clock} {now : Int} {w : World}

theorem beginRenewal_spec (s : Service) (c : Client) (w : World) :
    (s.beginRenewal c w).1.client = c ∧ w.Alike (s.beginRenewal c w).2 :=
  ⟨rfl, rfl, rfl, rfl⟩

theorem noteSweep_alike (swept : Except Fault SweepReport) (w : World) :
    w.Alike (noteSweep swept w).2 := by
  cases swept with
  | error f => exact World.alike_note _ _
  | ok report =>
    rw [noteSweep]
    split
    · exact World.alike_note _ _
    · exact World.Alike.refl w

/-- The start comes to a heartbeat, and to the table that is worked on. -/
theorem activate_spec
    (opened : (Store.openFile settings.database settings.busyTimeout w).1 = .answer store)
    (hnow : w.clock.reading? = some now) :
    ∃ beat, ((Service.new settings).activate w).1 = .answer beat ∧
      beat.client = ⟨store, settings.host⟩ ∧
      store.Holds w.clock ⟨some (settings.prepared now
          (store.database (Store.openFile settings.database settings.busyTimeout w).2))⟩
        ((Service.new settings).activate w).2 := by
  obtain ⟨-, found, holds⟩ := Store.openFile_spec opened
  have hfound := holds.database_eq
  have openStore : (Service.new settings).openStore w =
      Store.openFile settings.database settings.busyTimeout w := rfl
  rw [activate, bind_at, openStore, opened]
  generalize (Store.openFile settings.database settings.busyTimeout w).2 = w₁ at holds hfound ⊢
  rw [hfound]
  obtain ⟨schema, ready⟩ := holds.demand Database.ensureSchema
  dsimp only
  rw [bind_at, schema]
  generalize (store.demand Database.ensureSchema w₁).2 = w₂ at ready ⊢
  dsimp only [Database.ensureSchema, Except.mapError]
  rw [ServiceSettings.prepared]
  cases hsweep : settings.sweepOnStart with
  | false =>
    rw [show (new settings).settings.sweepOnStart = false from hsweep, if_neg Bool.false_ne_true,
      if_neg Bool.false_ne_true]
    obtain ⟨client, alike⟩ := beginRenewal_spec (new settings) ⟨store, settings.host⟩ w₂
    exact ⟨_, rfl, client, ready.alike alike⟩
  | true =>
    rw [show (new settings).settings.sweepOnStart = true from hsweep, if_pos rfl, if_pos rfl]
    obtain ⟨⟨swept, answer⟩, clean⟩ := Store.sweep_spec ready hnow settings.sweepGrace
    rw [bind_at, show (new settings).settings.sweepGrace = settings.sweepGrace from rfl, answer]
    generalize (store.sweep settings.sweepGrace w₂).2 = w₃ at clean ⊢
    obtain ⟨client, alike⟩ := beginRenewal_spec (new settings) ⟨store, settings.host⟩
      (noteSweep swept w₃).2
    exact ⟨_, rfl, client, (clean.alike (noteSweep_alike swept w₃)).alike alike⟩

/-- A service that is started for the first time is at work afterwards. -/
theorem start_spec (settings : ServiceSettings) (w : World)
    (opened : (Store.openFile settings.database settings.busyTimeout w).1 = .answer store)
    (hnow : w.clock.reading? = some now) :
    (start ⟨w, new settings⟩).1 = .answer () ∧
      (start ⟨w, new settings⟩).2.Serves ⟨store, settings.host⟩ settings w.clock
        ⟨some (settings.prepared now
          (store.database (Store.openFile settings.database settings.busyTimeout w).2))⟩ := by
  obtain ⟨beat, answer, client, holds⟩ := activate_spec opened hnow
  rw [start, bind_at, get_at]
  dsimp only
  rw [show (new settings).isStarted = false from rfl, if_neg Bool.false_ne_true, bind_at,
    Site.inWorld_at, answer]
  exact ⟨rfl, rfl, congrArg some client, holds⟩

/-- A start that comes second changes nothing. -/
theorem start_again {c : Client} {db : Database} {site : Site}
    (h : site.Serves c settings clock db) :
    (start site).1 = .answer () ∧ (start site).2.Serves c settings clock db := by
  rw [start, bind_at, get_at]
  dsimp only
  rw [isStarted_of_serves h, if_pos rfl]
  exact ⟨rfl, h.alike (World.alike_note _ _)⟩

theorem heartbeat_stop_alike (beat : Heartbeat) (w : World) : w.Alike (beat.stop w).2 := by
  rw [Heartbeat.stop]
  cases beat.running with
  | false => exact World.Alike.refl w
  | true =>
    cases beat.broken with
    | true => exact World.alike_note _ _
    | false => exact ⟨rfl, rfl, rfl⟩

/-- The end of a service leaves its store alone. -/
theorem stop_alike (site : Site) : site.world.Alike (stop site).2.world := by
  rw [stop, bind_at, get_at]
  dsimp only
  cases site.service.active with
  | none => exact World.Alike.refl _
  | some beat =>
    dsimp only
    rw [bind_at, modify_at, Site.inWorld_at]
    dsimp only
    rw [bind_at]
    refine (heartbeat_stop_alike beat site.world).trans ?_
    generalize beat.stop site.world = stopped
    split
    · exact ⟨rfl, rfl, rfl⟩
    · exact World.alike_note _ _

end Service

end Leasehold

import Leasehold.Proofs.Lock.Renewal
import Leasehold.Proofs.Lock.Requests
import Leasehold.Proofs.World.Opening
import Leasehold.Service.Basic

/-!
# What a started service answers

A service that is started (`Site.Serves`) decides every request, and it decides it as one
operation of its client would (`Query.operation`): the background, the slot and the locks
that it holds change neither the answer nor what is left in the store.  Both are
described by `Query.effect`, which knows no more than the database and the time.
-/

namespace Leasehold

open Program

/-- The lease that is due to a request: the seconds that it names, or the usual lease if it names
none. -/
def ServiceSettings.dueLease (s : ServiceSettings) (hold : UInt64) : Span :=
  if hold = 0 then s.defaultHold
  else ⟨hold.toNat * 1000000000, (Span.ofSeconds hold).nanos_lt⟩

theorem ServiceSettings.leaseFor_eq (s : ServiceSettings) : s.leaseFor = s.dueLease := rfl

/-! ## The operation of a request -/

namespace Query

/-- The one operation of a client that a request comes to. -/
def operation (c : Client) (lease : UInt64 → Span) : Query → StateM World (Option Bool)
  | lock r o hold => c.acquire r o (lease hold)
  | refresh r o hold => c.refresh r o (lease hold)
  | unlock r o => some <$> c.release r o
  | isLocked r => some <$> c.isLocked r
  | isLockedBy r o => c.isActive r o

/-- The answer to a request of a host at a clock reading, and the database that it leaves. -/
def effect (q : Query) (host : String) (lease : UInt64 → Span) (now : Int) (db : Database) :
    Bool × Database :=
  match q with
  | lock r o hold =>
    let (ending, db) := Attempt.perform (Claim.new now r host o (lease hold)) db
    (ending.granted, db)
  | refresh r o hold =>
    let (answer, db) := db.extend r o (deadlineAfter now (lease hold))
    (answer = .ok true, db)
  | unlock r o =>
    let (answer, db) := db.delete r o
    (answer = .ok true, db)
  | isLocked _ => (true, db)
  | isLockedBy r o =>
    let (answer, db) := db.isActive r o now
    (answer = .ok true, db)

variable {c : Client} {clock : Clock} {now : Int} {db : Database} {w : World}

/-- What the operation of a request answers, and what it leaves in the store. -/
theorem operation_spec (q : Query) (lease : UInt64 → Span) (h : c.store.Holds clock db w)
    (hnow : clock.reading? = some now) :
    (q.operation c lease w).1 = some (q.effect c.host lease now db).1 ∧
      c.store.Holds clock (q.effect c.host lease now db).2 (q.operation c lease w).2 := by
  have reading : w.clock.reading? = some now := h.clock_eq ▸ hnow
  cases q with
  | lock r o hold => exact Client.acquire_holds h hnow rfl
  | refresh r o hold =>
    obtain ⟨answer, left⟩ := Client.noted_holds h
      ("Failed to refresh lock on " ++ r ++ " for " ++ o)
      (Database.extend r o (deadlineAfter now (lease hold)))
    rw [operation, Client.refresh, World.atNow_of_some reading]
    exact ⟨congrArg some answer, left⟩
  | unlock r o =>
    obtain ⟨answer, left⟩ := Client.noted_holds h
      ("Failed to release lock on " ++ r ++ " for " ++ o)
      (Database.delete r o)
    exact ⟨congrArg some answer, left⟩
  | isLocked r => exact ⟨rfl, h.alike (World.alike_note _ _)⟩
  | isLockedBy r o => exact Client.isActive_holds h hnow

end Query

/-! ## A started service -/

/-- The same service on a machine that is the same but for what it has given out. -/
structure Site.Alike (site site' : Site) : Prop where
  service : site'.service = site.service
  world : site.world.Alike site'.world

/-- The service is started with a client, and its store holds a database. -/
structure Site.Serves (c : Client) (settings : ServiceSettings) (clock : Clock) (db : Database)
    (site : Site) : Prop where
  settings_eq : site.service.settings = settings
  client_eq : site.service.client? = some c
  holds : c.store.Holds clock db site.world

variable {c : Client} {settings : ServiceSettings} {clock : Clock} {now : Int}
  {db : Database} {site : Site}

theorem Site.Serves.alike {world : World} (h : site.Serves c settings clock db)
    (alike : site.world.Alike world) : { site with world }.Serves c settings clock db :=
  ⟨h.settings_eq, h.client_eq, h.holds.alike alike⟩

theorem Site.Serves.of_alike {site' : Site} (h : site.Serves c settings clock db)
    (alike : site.Alike site') : site'.Serves c settings clock db := by
  refine ⟨?_, ?_, h.holds.alike alike.world⟩
  · rw [alike.service]
    exact h.settings_eq
  · rw [alike.service]
    exact h.client_eq

theorem Site.Serves.note (h : site.Serves c settings clock db) (r : LogRecord) :
    (Journal.note r site).Serves c settings clock db :=
  h.alike (World.alike_note r site.world)

theorem Site.inWorld_at {α : Type} (step : StateM World α) (site : Site) :
    Site.inWorld step site = ((step site.world).1, { site with world := (step site.world).2 }) :=
  rfl

namespace Service

/-- What a step of the heartbeat answers, and what it leaves in the store. -/
theorem serves_whileActive {α : Type} {db' : Database} (h : site.Serves c settings clock db)
    (otherwise answer : α) (step : Heartbeat → StateM World (α × Heartbeat))
    (told : ∀ beat : Heartbeat, beat.client = c →
      (step beat site.world).1.1 = answer ∧ (step beat site.world).1.2.client = c ∧
        c.store.Holds clock db' (step beat site.world).2) :
    (Site.whileActive otherwise step site).1 = answer ∧
      (Site.whileActive otherwise step site).2.Serves c settings clock db' := by
  obtain ⟨world, service⟩ := site
  obtain ⟨settings', opened, active⟩ := service
  obtain ⟨hsettings, hclient, holds⟩ := h
  cases active with
  | none => cases hclient
  | some beat =>
    obtain ⟨hanswer, hbeat, hholds⟩ := told beat (Option.some.inj hclient)
    exact ⟨hanswer, hsettings, congrArg some hbeat, hholds⟩

/-- Taking a lock in changes neither the client nor the store. -/
theorem serves_track (h : site.Serves c settings clock db) (resource owner : String)
    (lease : Span) :
    (Site.whileActive () (fun beat => do return ((), ← beat.track resource owner lease))
      site).2.Serves c settings clock db := by
  refine (serves_whileActive h () () _ fun beat hbeat => ?_).2
  obtain ⟨taken, alike⟩ := beat.track_spec resource owner lease site.world
  rw [bind_at, pure_at, taken]
  exact ⟨rfl, hbeat, h.holds.alike alike⟩

/-- An attempt in the background has its answer at once. -/
theorem beginLock_spec (h : site.Serves c settings clock db) (hnow : clock.reading? = some now)
    (resource owner : String) (hold : UInt64)
    (nameable : LockFuture.unnameable resource = false) :
    (beginLock resource owner hold site).1 = .answer
        ⟨resource, .answered ((Query.lock resource owner hold).effect c.host settings.leaseFor now
          db).1⟩ ∧
      (beginLock resource owner hold site).2.Serves c settings clock
        ((Query.lock resource owner hold).effect c.host settings.leaseFor now db).2 := by
  obtain ⟨answer, left⟩ := Query.operation_spec (Query.lock resource owner hold) settings.leaseFor
    h.holds hnow
  rw [Query.operation] at answer left
  rw [beginLock, bind_at, get_at]
  dsimp only
  rw [h.client_eq]
  dsimp only
  rw [nameable, if_neg Bool.false_ne_true, bind_at, Site.inWorld_at, h.settings_eq, answer]
  exact ⟨rfl, h.settings_eq, h.client_eq, left⟩

theorem isStarted_of_serves (h : site.Serves c settings clock db) :
    site.service.isStarted = true := by
  have client := h.client_eq
  unfold client? at client
  unfold isStarted
  cases hactive : site.service.active with
  | none => rw [hactive] at client; cases client
  | some beat => rfl

theorem lock_spec (h : site.Serves c settings clock db) (hnow : clock.reading? = some now)
    (resource owner : String) (hold : UInt64)
    (nameable : LockFuture.unnameable resource = false) :
    (lock resource owner hold site).1 = .answer (.ofBool
        ((Query.lock resource owner hold).effect c.host settings.leaseFor now db).1) ∧
      (lock resource owner hold site).2.Serves c settings clock
        ((Query.lock resource owner hold).effect c.host settings.leaseFor now db).2 := by
  obtain ⟨answer, left⟩ := beginLock_spec h hnow resource owner hold nameable
  rw [lock, bind_at, get_at]
  dsimp only
  rw [isStarted_of_serves h, Bool.not_true, if_neg Bool.false_ne_true, bind_at, answer]
  generalize (beginLock resource owner hold site).2 = site' at left ⊢
  rw [h.settings_eq]
  generalize (Query.lock resource owner hold).effect c.host settings.leaseFor now db = effect
    at left ⊢
  obtain ⟨granted, db'⟩ := effect
  cases granted with
  | false => exact ⟨rfl, left⟩
  | true => exact ⟨rfl, serves_track left resource owner (settings.leaseFor hold)⟩

/-- No worker can be named after the resource, so that the attempt does not even begin. -/
theorem lock_unnameable (h : site.Serves c settings clock db) {resource : String}
    (owner : String) (hold : UInt64) (unnameable : LockFuture.unnameable resource = true) :
    lock resource owner hold site = (.crash, site) := by
  rw [lock, bind_at, get_at]
  dsimp only
  rw [isStarted_of_serves h, Bool.not_true, if_neg Bool.false_ne_true, bind_at, beginLock,
    bind_at, get_at]
  dsimp only
  rw [h.client_eq]
  dsimp only
  rw [unnameable, if_pos rfl]
  rfl

theorem refresh_spec (h : site.Serves c settings clock db) (hnow : clock.reading? = some now)
    (resource owner : String) (hold : UInt64) :
    (refresh resource owner hold site).1 = .answer (.ofBool
        ((Query.refresh resource owner hold).effect c.host settings.leaseFor now db).1) ∧
      (refresh resource owner hold site).2.Serves c settings clock
        ((Query.refresh resource owner hold).effect c.host settings.leaseFor now db).2 := by
  obtain ⟨answer, left⟩ := Query.operation_spec (Query.refresh resource owner hold)
    settings.leaseFor h.holds hnow
  rw [Query.operation] at answer left
  rw [refresh, bind_at, get_at]
  dsimp only
  rw [h.settings_eq]
  refine serves_whileActive h _ _ _ fun beat hbeat => ?_
  rw [bind_at, hbeat, answer]
  generalize (Query.refresh resource owner hold).effect c.host settings.leaseFor now db = effect
    at left ⊢
  obtain ⟨granted, db'⟩ := effect
  cases granted with
  | false => exact ⟨rfl, hbeat, left⟩
  | true =>
    obtain ⟨taken, alike⟩ := beat.track_spec resource owner (settings.leaseFor hold)
      (c.refresh resource owner (settings.leaseFor hold) site.world).2
    dsimp only
    rw [bind_at, taken]
    exact ⟨rfl, hbeat, left.alike alike⟩

/-- Each request is answered as one operation of the client answers it. -/
theorem before_spec (h : site.Serves c settings clock db) (hnow : clock.reading? = some now)
    (q : Query) (nameable : LockFuture.unnameable q.resource = false) :
    (before q site).1 = .answer (.ofBool (q.effect c.host settings.leaseFor now db).1) ∧
      (before q site).2.Serves c settings clock
        (q.effect c.host settings.leaseFor now db).2 := by
  obtain ⟨answer, left⟩ := Query.operation_spec q settings.leaseFor h.holds hnow
  cases q with
  | lock r o hold => exact lock_spec h hnow r o hold nameable
  | refresh r o hold => exact refresh_spec h hnow r o hold
  | unlock r o =>
    have told := serves_whileActive h Verdict.unhandled (.ofBool _)
      (fun beat => do
        let beat := (beat.untrack r o).2
        return (.ofBool (← beat.client.release r o), beat))
      fun beat hbeat => by
        rw [bind_at, show (beat.untrack r o).2.client = c from hbeat]
        exact ⟨congrArg Verdict.ofBool (Option.some.inj answer), hbeat, left⟩
    exact ⟨congrArg Outcome.answer told.1, told.2⟩
  | isLocked r =>
    have told := serves_whileActive h Verdict.unhandled (.ofBool true)
      (fun beat => do return (.ofBool (← beat.client.isLocked r), beat))
      fun beat hbeat => by
        rw [bind_at, hbeat]
        exact ⟨rfl, hbeat, left⟩
    exact ⟨congrArg Outcome.answer told.1, told.2⟩
  | isLockedBy r o =>
    refine serves_whileActive h _ _ _ fun beat hbeat => ?_
    rw [Query.operation] at answer left
    rw [bind_at, hbeat, answer]
    exact ⟨rfl, hbeat, left⟩

end Service

end Leasehold

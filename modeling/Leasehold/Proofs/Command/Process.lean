import Leasehold.CommandLine.Basic
import Leasehold.Proofs.Policy.Dispatch
import Leasehold.Proofs.Service.Start

/-!
# What the process of a request does

A process that asks for a lock once, or moves or gives up a lock, opens a session, puts
its request to it and closes it.  From the opening to the closing the session is ready
(`Session.Ready`): its one feature is the started service, which decides every request
that it can work on (`Session.ask_spec`; `Session.ask_unnameable` is the one that it cannot).
The first step of its task is therefore the last (`Task.start_spec`), and the process
leaves what the service does (`Command.runTask_spec`).
-/

namespace Leasehold

open Program

/-- The request that a task puts, if it puts one and reports on the answer. -/
def Task.query? : Task → Option Query
  | lock r o hold none => some (.lock r o (hold.getD 0))
  | refresh r o hold => some (.refresh r o (hold.getD 0))
  | unlock r o => some (.unlock r o)
  | lock _ _ _ (some _) | status _ _ _ | list _ | keep _ _ _ => none

/-- What a command comes to whose request was answered. -/
def Query.outcome (q : Query) (granted : Bool) : Outcome Unit :=
  if granted then .answer () else .fault (.notHeld q.resource)

namespace Session

variable {c : Client} {settings : ServiceSettings} {clock : Clock} {now : Int} {db : Database}
  {s : Session} {site : Site} {w : World}

/-- The one feature of the session is a service that is started, and its store holds a
database. -/
structure Ready (c : Client) (settings : ServiceSettings) (clock : Clock) (db : Database)
    (s : Session) : Prop where
  features_eq : s.features = [Service.feature]
  serves : s.outer.Serves c settings clock db

theorem Ready.alike {world : World} (h : s.Ready c settings clock db)
    (alike : s.world.Alike world) : (s.withWorld world).Ready c settings clock db :=
  ⟨h.features_eq, h.serves.alike alike⟩

/-- A service that is started is registered and started once more. -/
theorem ready_enrol (h : site.Serves c settings clock db) :
    Ready c settings clock db (enrol (Manager.new site)).2 := by
  let noted := Journal.note ⟨.debug, .manager, "Registered lock feature " ++ Service.name⟩ site
  have serves : noted.Serves c settings clock db := h.note _
  obtain ⟨answer, started⟩ := Service.start_again serves
  have outer : (enrol (Manager.new site)).2.outer =
      (Manager.startAll [Service.feature] noted).2 := rfl
  refine ⟨rfl, ?_⟩
  rw [outer, Manager.startAll, bind_at, show Service.feature.start = Service.start from rfl, answer]
  exact started.note _

/-- An allowed request is decided by the service. -/
theorem ask_spec (h : s.Ready c settings clock db) (hnow : clock.reading? = some now) {q : Query}
    (accepted : q.fault? = none) (nameable : LockFuture.unnameable q.resource = false) :
    (Manager.ask q s).1 = .ok (q.effect c.host settings.leaseFor now db).1 ∧
      Ready c settings clock (q.effect c.host settings.leaseFor now db).2
        (Manager.ask q s).2 := by
  obtain ⟨answer, left⟩ := Service.before_spec h.serves hnow q nameable
  have offered := Manager.offer_cons q Service.feature [] s.outer
  rw [show Service.feature.before q = Service.before q from rfl, answer] at offered
  generalize q.effect c.host settings.leaseFor now db = effect at left offered ⊢
  have decided : (Outcome.answer (Verdict.ofBool effect.1)).decision? = some effect.1 :=
    Verdict.decision?_ofBool effect.1
  have noted : Site.Serves c settings clock effect.2 (Manager.remarkAsked Service.feature.name q
      (.answer (.ofBool effect.1)) (Service.before q s.outer).2) := by
    rw [Manager.remarkAsked, Verdict.decision?_ofBool]
    exact left.note _
  rw [decided] at offered
  rw [Manager.ask_eq s accepted, h.features_eq, offered]
  exact ⟨rfl, rfl, noted⟩

/-- A lock for which the service cannot begin an attempt is left to the manager's own policy: what
is in the store counts for nothing. -/
theorem ask_unnameable (h : s.Ready c settings clock db) {resource owner : String} {hold : UInt64}
    (accepted : (Query.lock resource owner hold).fault? = none)
    (unnameable : LockFuture.unnameable resource = true) :
    (Manager.ask (.lock resource owner hold) s).1 =
        .ok (s.holders.decide (.lock resource owner hold)).1 ∧
      (Manager.ask (.lock resource owner hold) s).2.holders =
        (s.holders.decide (.lock resource owner hold)).2 ∧
      Ready c settings clock db (Manager.ask (.lock resource owner hold) s).2 := by
  obtain ⟨features, holders, outer⟩ := s
  obtain ⟨rfl, serves⟩ := h
  have offered := Manager.offer_cons (.lock resource owner hold) Service.feature [] outer
  rw [show Service.feature.before (.lock resource owner hold) = Service.lock resource owner hold
    from rfl, Service.lock_unnameable serves owner hold unnameable] at offered
  rw [Manager.ask_eq _ accepted, offered]
  dsimp only [Outcome.decision?, Outcome.answer?, Option.bind_none, Manager.offer]
  rw [Manager.decideAlone_eq]
  exact ⟨rfl, rfl, rfl, (serves.note _).note _⟩

/-- A request that is not allowed changes nothing. -/
theorem ask_fault {q : Query} {fault : ArgumentFault} (refused : q.fault? = some fault) :
    Manager.ask q s = (.error (.invalidArgument fault.message), s) := by
  rw [Manager.ask, refused]
  rfl

/-- What a command writes changes nothing but the output. -/
theorem ready_done (h : s.Ready c settings clock db) (what : String) :
    Ready c settings clock db (Command.done what s).2 :=
  h.alike ⟨rfl, rfl, rfl⟩

theorem putAndReport_spec (h : s.Ready c settings clock db) (hnow : clock.reading? = some now)
    {q : Query} (accepted : q.fault? = none) (nameable : LockFuture.unnameable q.resource = false)
    (report : StateM Session Unit) (silent : ∀ s db, Ready c settings clock db s →
      Ready c settings clock db (report s).2) :
    (Command.putAndReport q report s).1 =
        q.outcome (q.effect c.host settings.leaseFor now db).1 ∧
      Ready c settings clock (q.effect c.host settings.leaseFor now db).2
        (Command.putAndReport q report s).2 := by
  obtain ⟨answer, left⟩ := ask_spec h hnow accepted nameable
  rw [Command.putAndReport, bind_at, Command.demand, bind_at, answer]
  generalize q.effect c.host settings.leaseFor now db = effect at left ⊢
  obtain ⟨granted, db'⟩ := effect
  cases granted with
  | false => exact ⟨rfl, left⟩
  | true => exact ⟨rfl, silent _ _ left⟩

theorem putAndReport_fault {q : Query} {fault : ArgumentFault} (refused : q.fault? = some fault)
    (report : StateM Session Unit) :
    Command.putAndReport q report s = (.fault (.invalidArgument fault.message), s) := by
  rw [Command.putAndReport, bind_at, Command.demand, bind_at, ask_fault refused]
  rfl

/-! ## From the opening to the closing -/

/-- The closing of a session leaves the store alone. -/
theorem close_spec (h : s.Ready c settings clock db) :
    c.store.Holds clock db (world (Session.close s).2) := by
  have stopped := Service.stop_alike s.outer
  have features := h.features_eq
  obtain ⟨_, holders, outer⟩ := s
  cases features
  exact h.serves.holds.alike stopped

/-- A session that is opened is ready, on the table that its service has prepared. -/
theorem openFor_spec {s : Settings} {bound : Option String} {r : ResolvedBound} {store : Store}
    (hbound : s.locking.waitFor bound w = .ok r)
    (opened : (Store.openFile s.databasePath s.locking.busySpan w).1 = .answer store)
    (hnow : w.clock.reading? = some now) :
    ∃ session, (openFor s bound w).1 = .answer session ∧
      Ready ⟨store, s.locking.hostName w.hostName⟩ (s.service w.hostName r.bound) w.clock
        ⟨some ((s.service w.hostName r.bound).prepared now
          (store.database (Store.openFile s.databasePath s.locking.busySpan w).2))⟩ session := by
  -- the bound is noted before the store is opened
  obtain ⟨noted, hnoted⟩ : ∃ noted, (Journal.debug .session ("Store round trips wait up to " ++
    r.bound.text ++ " (" ++ r.source.text ++ ")") w).2 = noted := ⟨_, rfl⟩
  have quiet : w.Alike noted := hnoted ▸ World.alike_note _ w
  have host : noted.hostName = w.hostName := hnoted ▸ rfl
  obtain ⟨same, alike⟩ := Store.openFile_alike s.databasePath s.locking.busySpan quiet
  obtain ⟨answer, started⟩ := Service.start_spec (s.service w.hostName r.bound) noted
    (same.trans opened) (quiet.clock ▸ hnow)
  rw [show (s.service w.hostName r.bound).database = s.databasePath from rfl,
    show (s.service w.hostName r.bound).busyTimeout = s.locking.busySpan from rfl,
    Store.database_alike store alike, quiet.clock] at started
  refine ⟨_, ?_, ready_enrol started⟩
  rw [openFor, bind_at, get_at]
  dsimp only
  rw [hbound]
  dsimp only
  rw [bind_at, hnoted, bind_at, get_at]
  dsimp only
  rw [host]
  generalize Service.start ⟨noted, Service.new (s.service w.hostName r.bound)⟩ = reply at answer
  obtain ⟨result, site⟩ := reply
  cases answer
  rfl

end Session

namespace Task

variable {c : Client} {settings : ServiceSettings} {clock : Clock} {now : Int} {db : Database}
  {s : Session} {t : Task} {q : Query}

/-- A task with a request prepares nothing, and comes to its end in one step. -/
theorem start_eq (h : t.query? = some q) :
    t.prepare = pure () ∧ ∃ report, t.start = Step.finished <$> Command.putAndReport q report ∧
      ∀ {c settings clock} s db, Session.Ready c settings clock db s →
        Session.Ready c settings clock db (report s).2 := by
  cases t with
  | lock r o hold wait =>
    cases wait with
    | none =>
      cases h
      exact ⟨rfl, _, rfl, fun _ _ ready => Session.ready_done ready _⟩
    | some bound => cases h
  | refresh r o hold =>
    cases h
    exact ⟨rfl, _, rfl, fun _ _ ready => Session.ready_done ready _⟩
  | unlock r o =>
    cases h
    exact ⟨rfl, _, rfl, fun _ _ ready => Session.ready_done ready _⟩
  | status r owner json => cases h
  | list json => cases h
  | keep r owner hold => cases h

theorem start_spec (h : s.Ready c settings clock db) (hnow : clock.reading? = some now)
    (hq : t.query? = some q) (accepted : q.fault? = none)
    (nameable : LockFuture.unnameable q.resource = false) :
    (t.start s).1 = .finished (q.outcome (q.effect c.host settings.leaseFor now db).1) ∧
      Session.Ready c settings clock (q.effect c.host settings.leaseFor now db).2
        (t.start s).2 := by
  obtain ⟨-, report, start, silent⟩ := start_eq hq
  obtain ⟨answer, left⟩ := Session.putAndReport_spec h hnow accepted nameable report silent
  rw [start, map_at, answer]
  exact ⟨rfl, left⟩

theorem start_fault {fault : ArgumentFault} (hq : t.query? = some q)
    (refused : q.fault? = some fault) :
    t.start s = (.finished (.fault (.invalidArgument fault.message)), s) := by
  obtain ⟨-, report, start, -⟩ := start_eq hq
  rw [start, map_at, Session.putAndReport_fault refused report]

end Task

theorem Step.complete_finished (pauses : Nat) (result : Outcome Unit) :
    (Step.finished result).complete pauses = pure (some result) := by
  cases pauses <;> rfl

/-- A command is over with the first step of its task, if that step ends it. -/
theorem Command.runTask_spec {c : Client} {settings : ServiceSettings} {clock : Clock}
    {db : Database} {s : Settings} {bound : Option String} {t : Task} {w : World}
    {session : Session} {result : Outcome Unit} (pauses : Nat) (quiet : t.prepare = pure ())
    (opened : (Session.openFor s bound w).1 = .answer session)
    (started : (t.start session).1 = .finished result)
    (ready : Session.Ready c settings clock db (t.start session).2) :
    (runTask s bound pauses t w).1 = some result ∧
      c.store.Holds clock db (runTask s bound pauses t w).2 := by
  have closed := Session.close_spec ready
  rw [runTask, quiet, bind_at, pure_at, bind_at, opened]
  dsimp only
  rw [bind_at, started, Step.complete_finished]
  exact ⟨rfl, closed⟩

end Leasehold

import Leasehold.Proofs.CommandLine.Words

/-!
# What a call of the program leaves

A call is a process that is started with the words of a lock, a refresh or an unlock, in
a world where its settings are accepted and its database can be opened (`Call`).  It ends
with a status and a table that can be read off the table it works on: they are those of
the one operation of a client that its request comes to (`Call.answered`), and of a
request that is not allowed nothing is left at all (`Call.refused`).
-/

namespace Leasehold

open Program

namespace Invocation

variable {s : Settings} {r : ResolvedBound} {now : Int} {i : Invocation} {t : Task} {q : Query}
  {store : Store} {w : World}

/-- The reading of the settings leaves a note and nothing else. -/
theorem settings_spec (accepted : (settings w).1 = .ok s) :
    ∃ note, (settings w).2 = Journal.note note w := by
  rw [settings, bind_at, get_at] at accepted ⊢
  dsimp only at accepted ⊢
  cases hhome : findHome w with
  | error f =>
    rw [hhome] at accepted
    cases accepted
  | ok home =>
    dsimp only
    rw [Settings.load, bind_at, get_at]
    dsimp only
    cases w.disk.lookUp (Settings.path home) with
    | ok n => exact ⟨_, rfl⟩
    | error f => exact ⟨_, rfl⟩

/-- The end of a process changes nothing but the output. -/
theorem conclude_alike (outcome : Outcome Unit) (w : World) :
    w.Alike (conclude false outcome w).2 := by
  cases outcome with
  | answer u => exact World.Alike.refl w
  | fault f => exact ⟨rfl, rfl, rfl⟩
  | crash => exact World.Alike.refl w

/-- The status with which a process ends. -/
def statusOf : Outcome Unit → Nat
  | .answer () => 0
  | .fault f => f.exitCode
  | .crash => crashStatus

theorem conclude_status (outcome : Outcome Unit) (w : World) :
    (conclude false outcome w).1 = statusOf outcome := by
  cases outcome <;> rfl

/-- A process ends as the command that it runs. -/
theorem run_spec {clock : Clock} {db : Database} {outcome : Outcome Unit} (pauses : Nat)
    (accepted : (settings w).1 = .ok s)
    (ran : (i.command.run s i.bound pauses (settings w).2).1 = some outcome)
    (left : store.Holds clock db (i.command.run s i.bound pauses (settings w).2).2) :
    (i.run pauses w).1 = some (statusOf outcome) ∧
      store.Holds clock db (i.run pauses w).2 := by
  rw [run, bind_at, accepted]
  dsimp only
  rw [bind_at, ran]
  dsimp only
  rw [map_at, conclude_status]
  exact ⟨rfl, left.alike (conclude_alike outcome _)⟩

/-- The session of a process is opened on the table that the service of the settings has
prepared, whatever was noted before. -/
theorem openFor_settings {path : String} (accepted : (settings w).1 = .ok s)
    (leads : s.databasePath = path) (bounded : s.locking.waitFor i.bound w = .ok r)
    (opens : (Store.openFile path s.locking.busySpan w).1 = .answer store)
    (reads : w.clock.reading? = some now) :
    ∃ session, (Session.openFor s i.bound (settings w).2).1 = .answer session ∧
      Session.Ready ⟨store, s.locking.hostName w.hostName⟩ (s.service w.hostName r.bound) w.clock
        ⟨some ((s.service w.hostName r.bound).prepared now
          (store.database (Store.openFile path s.locking.busySpan w).2))⟩ session := by
  subst leads
  obtain ⟨note, hnote⟩ := settings_spec accepted
  obtain ⟨same, alike⟩ := Store.openFile_alike s.databasePath s.locking.busySpan
    (World.alike_note note w)
  rw [hnote, ← Store.database_alike store alike]
  exact Session.openFor_spec bounded (same.trans opens) reads

end Invocation

/-! ## Names that are not allowed -/

namespace Query

variable {q : Query}

/-- The resource or the owner is empty or too long. -/
def Improper (q : Query) : Prop :=
  (q.resource = "" ∨ 128 < q.resource.length) ∨ ∃ o, q.owner? = some o ∧ (o = "" ∨ 128 < o.length)

/-- The requests that are allowed are those whose names are proper. -/
theorem fault?_eq_none_iff : q.fault? = none ↔ ¬ q.Improper := by
  rw [fault?]
  split
  · rename_i hempty
    exact iff_of_false nofun (not_not_intro (.inl (.inl (String.isEmpty_iff.mp hempty))))
  · rename_i hresource
    split
    · rename_i hempty
      obtain ⟨o, ho, hempty⟩ := (Option.any_eq_true _ _).mp hempty
      exact iff_of_false nofun (not_not_intro (.inr ⟨o, ho, .inl (String.isEmpty_iff.mp hempty)⟩))
    · rename_i howner
      split
      · rename_i hlong
        exact iff_of_false nofun (not_not_intro (.inl (.inr hlong)))
      · rename_i hshort
        split
        · rename_i hlong
          obtain ⟨o, ho, hlong⟩ := (Option.any_eq_true _ _).mp hlong
          exact iff_of_false nofun (not_not_intro (.inr ⟨o, ho, .inr (of_decide_eq_true hlong)⟩))
        · rename_i hshortOwner
          refine iff_of_true rfl ?_
          rintro ((hempty | hlong) | ⟨o, ho, hempty | hlong⟩)
          · exact hresource (String.isEmpty_iff.mpr hempty)
          · exact hshort hlong
          · exact howner ((Option.any_eq_true _ _).mpr ⟨o, ho, String.isEmpty_iff.mpr hempty⟩)
          · exact hshortOwner ((Option.any_eq_true _ _).mpr ⟨o, ho, decide_eq_true hlong⟩)

end Query

/-! ## Calls -/

/-- A process that is started with the words of a lock, a refresh or an unlock, on the
database of a path.  Its settings and its bound on waiting are accepted, the database can be
opened, and the clock can be read. -/
structure Call (path : String) where
  arguments : List String
  /-- No word that a process is started with holds a NUL. -/
  wordly : ∀ a ∈ arguments, LockFuture.unnameable a = false
  invocation : Invocation
  parsed : Invocation.ofArguments arguments = .ok invocation
  task : Task
  asks : invocation.command = .task task
  query : Query
  puts : task.query? = some query
  world : World
  settings : Settings
  accepted : (Invocation.settings world).1 = .ok settings
  leads : settings.databasePath = path
  bound : ResolvedBound
  bounded : settings.locking.waitFor invocation.bound world = .ok bound
  opens : (Store.openFile path settings.locking.busySpan world).1 = .answer (.file path)
  now : Int
  reads : world.clock.reading? = some now
  /-- The number of pauses that are allowed; none is made. -/
  pauses : Nat

namespace Call

variable {path : String} (c : Call path)

/-- What the process comes to. -/
def reply : Option Nat × World := c.invocation.run c.pauses c.world

/-- The status with which the process ends. -/
def status : Option Nat := c.reply.1

/-- The database that the process leaves. -/
def left : Database := c.reply.2.disk.database path

/-- The service of the process. -/
def service : ServiceSettings := c.settings.service c.world.hostName c.bound.bound

/-- The database that the process finds when it has opened it. -/
def found : Database :=
  (Store.openFile path c.settings.locking.busySpan c.world).2.disk.database path

/-- The table that the process finds; a new database gets an empty one. -/
def foundTable : Table := c.found.table.getD Table.empty

/-- The table that the process works on: the one it finds, swept if the settings say so. -/
def table : Table :=
  if c.settings.locking.purgeOnStart then
    (c.foundTable.purgeBefore (momentBefore c.now c.settings.locking.grace)).2
  else c.foundTable

/-- The seconds of a lease: those that the words of the process name, or the usual ones of its
settings if they name none. -/
def leaseSeconds (hold : UInt64) : UInt64 :=
  if hold = 0 then c.settings.locking.defaultHold else hold

/-- The lease that a request of the process is for. -/
def lease (hold : UInt64) : Span where
  nanos := (c.leaseSeconds hold).toNat * 1000000000
  nanos_lt := (Span.ofSeconds (c.leaseSeconds hold)).nanos_lt

/-- The service of the process grants leases of this length. -/
theorem leaseFor_eq : c.service.leaseFor = c.lease := by
  funext hold
  refine Span.ext ?_
  show (if hold = 0 then Span.ofSeconds c.settings.locking.defaultHold
    else Span.ofSeconds hold).nanos = (c.leaseSeconds hold).toNat * 1000000000
  unfold leaseSeconds
  split <;> rfl

/-- What the request does to the table. -/
def effect : Bool × Database :=
  c.query.effect c.service.host c.lease c.now ⟨some c.table⟩

/-- The client of the process, with the table in its own memory. -/
def client : Client := ⟨.memory, c.service.host⟩

/-- A machine on which there is nothing but the clock of the process and its table. -/
def room : World := { World.new c.world.clock with memory := ⟨some c.table⟩ }

/-- The one operation of the client that the request comes to. -/
def operation : Option Bool × World := c.query.operation c.client c.lease c.room

/-! ### What comes of a call -/

/-- A table that is there is found. -/
theorem foundTable_eq {t : Table} (there : c.world.disk.database path = ⟨some t⟩) :
    c.foundTable = t := by
  have reached : c.world.disk.lookUp path = .ok (.database ⟨some t⟩) := by
    unfold Disk.database at there
    split at there
    · rename_i db hdb
      rw [hdb, there]
    · cases there
  have found : c.found = ⟨some t⟩ := Store.openFile_keeps reached c.opens
  rw [foundTable, found]
  rfl

/-- The table is the one that the service prepares. -/
theorem table_eq : c.table = c.service.prepared c.now ⟨some c.foundTable⟩ := rfl

theorem nameable : LockFuture.unnameable c.query.resource = false :=
  Invocation.resource_of_arguments c.wordly c.parsed c.asks c.puts

/-- The session of the process works on its table. -/
theorem exists_session :
    ∃ session,
      (Session.openFor c.settings c.invocation.bound (Invocation.settings c.world).2).1 =
        .answer session ∧
      Session.Ready ⟨.file path, c.service.host⟩ c.service c.world.clock ⟨some c.table⟩ session :=
  Invocation.openFor_settings c.accepted c.leads c.bounded c.opens c.reads

/-- A process ends with the first step of its task. -/
theorem ends {db : Database} {outcome : Outcome Unit}
    (first : ∀ session,
      Session.Ready ⟨.file path, c.service.host⟩ c.service c.world.clock ⟨some c.table⟩ session →
      (c.task.start session).1 = .finished outcome ∧
        Session.Ready ⟨.file path, c.service.host⟩ c.service c.world.clock db
          (c.task.start session).2) :
    c.status = some (Invocation.statusOf outcome) ∧ c.left = db := by
  obtain ⟨session, opened, ready⟩ := c.exists_session
  obtain ⟨started, ready⟩ := first session ready
  obtain ⟨ran, left⟩ :=
    Command.runTask_spec c.pauses (Task.start_eq c.puts).1 opened started ready
  have command : c.invocation.command.run c.settings c.invocation.bound c.pauses =
      Command.runTask c.settings c.invocation.bound c.pauses c.task := by
    rw [c.asks]
    rfl
  rw [← command] at ran left
  obtain ⟨status, holds⟩ := Invocation.run_spec c.pauses c.accepted ran left
  exact ⟨status, holds.database_eq⟩

/-- A request that is not allowed leaves the table as it is. -/
theorem refused (improper : c.query.Improper) : c.status = some 2 ∧ c.left = ⟨some c.table⟩ := by
  cases hfault : c.query.fault? with
  | none => exact absurd improper (Query.fault?_eq_none_iff.mp hfault)
  | some fault =>
    have first : ∀ session : Session,
        c.task.start session = (.finished (.fault (.invalidArgument fault.message)), session) :=
      fun session => Task.start_fault c.puts hfault
    exact c.ends fun session ready => by
      rw [first session]
      exact ⟨rfl, ready⟩

/-- A request that is allowed is answered from the table. -/
theorem answered (proper : ¬ c.query.Improper) :
    c.status = some (if c.effect.1 then 0 else 3) ∧ c.left = c.effect.2 := by
  have accepted := Query.fault?_eq_none_iff.mpr proper
  obtain ⟨status, left⟩ := c.ends fun session ready =>
    Task.start_spec ready c.reads c.puts accepted c.nameable
  rw [c.leaseFor_eq] at status left
  refine ⟨status.trans ?_, left⟩
  show some (Invocation.statusOf (c.query.outcome c.effect.1)) = _
  cases c.effect.1 <;> rfl

/-- The one operation of a client answers and leaves the same. -/
theorem operation_eq :
    c.operation.1 = some c.effect.1 ∧ c.operation.2.memory = c.effect.2 := by
  have holds : Store.memory.Holds c.world.clock ⟨some c.table⟩ c.room := ⟨trivial, rfl, rfl⟩
  obtain ⟨answer, left⟩ := Query.operation_spec (c := c.client) c.query c.lease holds c.reads
  exact ⟨answer, left.database_eq⟩

end Call

end Leasehold

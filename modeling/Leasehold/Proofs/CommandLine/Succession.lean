import Leasehold.Proofs.CommandLine.Calls
import Leasehold.Proofs.Service.Entries

/-!
# Calls one after another

Processes that are started one after another know nothing of each other but the table
that the one before has left (`Call.Follows`).  What carries over is the lease of an
owner: after each call it is in the table, or it has been given up, or its deadline is
past (`Call.covered_step`).  A lock on the resource can therefore succeed only after an
unlock of the owner, or past the deadline that the owner was given last
(`Call.past_of_chain`).
-/

namespace Leasehold

namespace Call

variable {path : String} {resource owner : String} {deadline : Int}

/-! ## What calls have to do with each other -/

/-- A lock on a resource for an owner that ends well. -/
def Locks (resource owner : String) (c : Call path) : Prop :=
  (∃ hold, c.query = .lock resource owner hold) ∧ c.status = some 0

/-- An unlock of a resource by an owner that ends well. -/
def Unlocks (resource owner : String) (c : Call path) : Prop :=
  c.query = .unlock resource owner ∧ c.status = some 0

/-- The deadline of an owner after a call: a new one if the call is a lock or a refresh for the
owner and ends well. -/
def deadlineOf (resource owner : String) (c : Call path) (before : Int) : Int :=
  c.query.deadlineOf resource owner c.lease c.now before (c.status = some 0)

/-- The deadline of an owner after calls. -/
def deadlineThrough (resource owner : String) (calls : List (Call path)) (before : Int) : Int :=
  calls.foldl (fun deadline c => c.deadlineOf resource owner deadline) before

/-- The process is started where another one has ended, and not before. -/
structure Follows (a b : Call path) : Prop where
  database_eq : b.world.disk.database path = a.left
  now_le : a.now ≤ b.now

/-! ## The table of a call -/

variable {a b c : Call path}

theorem signedMin_le_now (c : Call path) : Text.Digits.signedMin ≤ c.now := by
  have epoch := (Clock.reading?_eq_some_iff.mp c.reads).2.1
  simp only [Text.Digits.signedMin]
  omega

theorem table_single (h : c.foundTable.Single resource) : c.table.Single resource := by
  rw [c.table_eq]
  exact ServiceSettings.prepared_single h

theorem left_has {P : Table → Prop} (kept : Table.Kept P) (h : P c.table) : c.left.Has P := by
  by_cases improper : c.query.Improper
  · rw [(c.refused improper).2]
    exact ⟨_, rfl, h⟩
  · rw [(c.answered improper).2]
    exact Query.effect_has kept _ _ _ _ ⟨_, rfl, h⟩

/-- The sweep takes a lease away only past its deadline. -/
theorem covered_table {now : Int} (h : c.foundTable.Single resource)
    (covered : Database.Covered resource owner deadline now ⟨some c.foundTable⟩)
    (later : now ≤ c.now) :
    Database.Covered resource owner deadline c.now ⟨some c.table⟩ := by
  rw [c.table_eq]
  cases covered with
  | inr past => exact .inr (Int.lt_of_lt_of_le past later)
  | inl leased =>
    obtain ⟨e, he, ho, hd⟩ := leased
    cases ServiceSettings.entryOf?_prepared (s := c.service) h c.signedMin_le_now with
    | inl kept => exact .inl ⟨e, kept.trans he, ho, hd⟩
    | inr stale =>
      obtain ⟨f, hf, past⟩ := stale
      cases he.symm.trans hf
      exact .inr (past deadline hd)

/-- What the next process works on, after what the one before has left. -/
theorem Follows.covered (h : Follows a b) (single : a.left.Has (Table.Single resource))
    (covered : a.left.Covered resource owner deadline a.now) :
    b.table.Single resource ∧ Database.Covered resource owner deadline b.now ⟨some b.table⟩ := by
  obtain ⟨t, left, ht⟩ := single
  have found := b.foundTable_eq (h.database_eq.trans left)
  rw [left, ← found] at covered
  rw [← found] at ht
  exact ⟨table_single ht, covered_table ht covered h.now_le⟩

/-! ## What one call does to a lease -/

theorem touch (h : c.table.Single resource) :
    c.query.Touch resource c.service.host c.lease c.now ⟨some c.table⟩ :=
  Query.touch c.query ⟨_, rfl, h⟩

/-- A call ends well exactly if its request is proper and granted. -/
theorem status_eq_zero_iff : c.status = some 0 ↔ ¬ c.query.Improper ∧ c.effect.1 = true := by
  by_cases improper : c.query.Improper
  · rw [(c.refused improper).1]
    exact iff_of_false nofun fun h => h.1 improper
  · rw [(c.answered improper).1]
    cases c.effect.1 with
    | true => exact iff_of_true rfl ⟨improper, rfl⟩
    | false => exact iff_of_false nofun fun h => Bool.false_ne_true h.2

/-- After a call the lease is in the table, or it was given up, or its deadline is past. -/
theorem covered_step (h : c.table.Single resource)
    (covered : Database.Covered resource owner deadline c.now ⟨some c.table⟩) :
    c.Unlocks resource owner ∨
      c.left.Covered resource owner (c.deadlineOf resource owner deadline) c.now := by
  by_cases improper : c.query.Improper
  · -- nothing was put to the table
    obtain ⟨status, left⟩ := c.refused improper
    rw [deadlineOf, status, left]
    exact .inr covered
  · have granted : decide (c.status = some 0) = c.effect.1 := by
      rw [Bool.eq_iff_iff, decide_eq_true_iff, status_eq_zero_iff]
      exact and_iff_right improper
    rw [deadlineOf, granted, (c.answered improper).2]
    cases Query.covered_effect (touch h) covered with
    | inl unlocked =>
      exact .inl ⟨unlocked.1, status_eq_zero_iff.mpr ⟨improper, unlocked.2⟩⟩
    | inr kept => exact .inr kept

/-- A lock that ends well comes past the deadline of the lease that is in the table. -/
theorem past_of_locks {owner' : String} (locks : c.Locks resource owner')
    (h : c.table.Single resource)
    (covered : Database.Covered resource owner deadline c.now ⟨some c.table⟩) :
    deadline < c.now := by
  obtain ⟨⟨hold, asked⟩, status⟩ := locks
  have granted := (status_eq_zero_iff.mp status).2
  have touched := touch h
  rw [effect, asked] at granted
  rw [asked] at touched
  exact covered.past_of_free (Query.lock_of_granted touched granted).1

/-- A lock that ends well leaves a lease. -/
theorem covered_of_locks (locks : c.Locks resource owner) (h : c.table.Single resource) :
    c.left.Covered resource owner (c.deadlineOf resource owner deadline) c.now := by
  obtain ⟨⟨hold, asked⟩, status⟩ := locks
  obtain ⟨proper, granted⟩ := status_eq_zero_iff.mp status
  have touched := touch h
  rw [(c.answered proper).2, deadlineOf, decide_eq_true status]
  rw [effect] at granted ⊢
  rw [asked] at granted touched ⊢
  rw [Query.deadlineOf_of_some (Query.hold?_own hold).1]
  exact .inl (Query.lock_of_granted touched granted).2

/-! ## What a sequence of calls does to a lease -/

/-- A lease holds over calls until it is given up or its deadline is past. -/
theorem past_of_chain {owner' : String} {second : Call path} (locks : second.Locks resource owner')
    (mid : List (Call path)) (first : Call path)
    (chain : (first :: mid ++ [second]).IsChain Follows)
    (single : first.left.Has (Table.Single resource))
    (covered : first.left.Covered resource owner deadline first.now) :
    (∃ c ∈ mid, c.Unlocks resource owner) ∨
      deadlineThrough resource owner mid deadline < second.now := by
  induction mid generalizing first deadline with
  | nil =>
    obtain ⟨follows, -⟩ := List.isChain_cons_cons.mp chain
    obtain ⟨h, covered⟩ := follows.covered single covered
    exact .inr (past_of_locks locks h covered)
  | cons c mid ih =>
    obtain ⟨follows, chain⟩ := List.isChain_cons_cons.mp chain
    obtain ⟨h, covered⟩ := follows.covered single covered
    cases covered_step h covered with
    | inl unlocked => exact .inl ⟨c, List.mem_cons_self, unlocked⟩
    | inr kept =>
      cases ih c chain (left_has (Table.kept_single resource) h) kept with
      | inl unlocked =>
        obtain ⟨c', hc', unlocked⟩ := unlocked
        exact .inl ⟨c', List.mem_cons_of_mem c hc', unlocked⟩
      | inr past => exact .inr past

/-! ## The command line and the client -/

/-- The command line does what the client does.  Each call works on the table that it finds,
after the sweep.  With a name that is not allowed it leaves that table and ends with status 2;
otherwise it answers and leaves what the one operation of the client does, and ends with status
0 or 3.  Between two locks on a resource that end well, the first owner gives the lock up, or
the second one comes past the last deadline of the first. -/
theorem refines_client (path : String) :
    (∀ c : Call path,
      (∀ t, c.world.disk.database path = ⟨some t⟩ → c.foundTable = t) ∧
      (c.query.Improper → c.status = some 2 ∧ c.left = ⟨some c.table⟩) ∧
      (¬ c.query.Improper → ∃ granted, c.operation.1 = some granted ∧
        c.status = some (if granted then 0 else 3) ∧ c.left = c.operation.2.memory)) ∧
    ∀ (resource owner owner' : String) (first second : Call path) (mid : List (Call path)),
      (first :: mid ++ [second]).IsChain Follows → first.foundTable.Single resource →
      first.Locks resource owner → second.Locks resource owner' →
      (∃ c ∈ mid, c.Unlocks resource owner) ∨
        deadlineThrough resource owner (first :: mid) first.now < second.now := by
  constructor
  · intro c
    refine ⟨fun t there => c.foundTable_eq there, c.refused, fun proper => ?_⟩
    obtain ⟨status, left⟩ := c.answered proper
    obtain ⟨answer, memory⟩ := c.operation_eq
    exact ⟨c.effect.1, answer, status, left.trans memory.symm⟩
  · intro resource owner owner' first second mid chain single locks₁ locks₂
    have h := table_single single
    exact past_of_chain locks₂ mid first chain (left_has (Table.kept_single resource) h)
      (covered_of_locks locks₁ h)

/-! ### A lease of a minute, and one of ninety seconds -/

/-- A machine where only the home directory of the settings is set. -/
def plainWorld (disk : Disk) (millis : Nat) : World :=
  { World.new ⟨millis * 1000000, 0⟩ with disk, environment := [(homeVariable, "h")] }

/-- A call on such a machine. -/
def plain (arguments : List String) (task : Task) (query : Query) (disk : Disk) (millis : Nat)
    (wordly : ∀ a ∈ arguments, LockFuture.unnameable a = false)
    (parsed : Invocation.ofArguments arguments = .ok ⟨0, none, .task task⟩)
    (puts : task.query? = some query)
    (accepted : (Invocation.settings (plainWorld disk millis)).1 = .ok (Settings.new "h"))
    (bounded : LockSettings.standard.waitFor none (plainWorld disk millis) =
      .ok ⟨.standard, .standard⟩)
    (opens : (Store.openFile "h/locks.db" LockSettings.standard.busySpan
      (plainWorld disk millis)).1 = .answer (.file "h/locks.db"))
    (reads : (plainWorld disk millis).clock.reading? = some (millis : Int)) :
    Call "h/locks.db" where
  arguments := arguments
  wordly := wordly
  invocation := ⟨0, none, .task task⟩
  parsed := parsed
  task := task
  asks := rfl
  query := query
  puts := puts
  world := plainWorld disk millis
  settings := Settings.new "h"
  accepted := accepted
  leads := by decide +kernel
  bound := ⟨.standard, .standard⟩
  bounded := bounded
  opens := opens
  now := millis
  reads := reads
  pauses := 0

/-- A disk with the database of one row. -/
def diskWith (row : LockRow) : Disk :=
  (Disk.empty.put ["h"] .directory).put ["h", "locks.db"]
    (.database ⟨some ⟨[Entry.ofRow row], false⟩⟩)

/-- The usual lease of a minute, on a machine where there is nothing yet. -/
def minuteLock : Call "h/locks.db" :=
  plain ["lock", "r", "a"] (.lock "r" "a" none none) (.lock "r" "a" 0) Disk.empty 0
    (by decide +kernel) rfl rfl rfl rfl rfl rfl

/-- The lease is renewed a second later, for a minute and a half. -/
def longerRefresh : Call "h/locks.db" :=
  plain ["refresh", "r", "a", "--hold-secs", "90"] (.refresh "r" "a" (some 90))
    (.refresh "r" "a" 90) (diskWith ⟨"r", "localhost", "a", 60000⟩) 1000 (by decide +kernel)
    (by decide +kernel) rfl rfl rfl rfl rfl

/-- Another owner comes a millisecond after the end of the lease. -/
def lateLock : Call "h/locks.db" :=
  plain ["lock", "r", "b"] (.lock "r" "b" none none) (.lock "r" "b" 0)
    (diskWith ⟨"r", "localhost", "a", 91000⟩) 91001 (by decide +kernel) rfl rfl rfl rfl rfl rfl

/-- An unlock that names no owner. -/
def namelessUnlock : Call "h/locks.db" :=
  plain ["unlock", "r", ""] (.unlock "r" "") (.unlock "r" "")
    (diskWith ⟨"r", "localhost", "a", 91000⟩) 2000 (by decide +kernel) rfl rfl rfl rfl rfl rfl

theorem refines_client_takeover :
    (namelessUnlock.status = some 2 ∧ namelessUnlock.left = ⟨some namelessUnlock.table⟩) ∧
    (∃ granted, minuteLock.operation.1 = some granted ∧
      minuteLock.status = some (if granted then 0 else 3) ∧
      minuteLock.left = minuteLock.operation.2.memory) ∧
    (∃ granted, longerRefresh.operation.1 = some granted ∧
      longerRefresh.status = some (if granted then 0 else 3) ∧
      longerRefresh.left = longerRefresh.operation.2.memory) ∧
    longerRefresh.lease 90 = Span.ofSeconds 90 ∧ minuteLock.lease 0 = Span.ofSeconds 60 ∧
    [minuteLock, longerRefresh, lateLock].IsChain Follows ∧
      minuteLock.foundTable.Single "r" ∧ minuteLock.Locks "r" "a" ∧ lateLock.Locks "r" "b" ∧
      ((∃ c ∈ [longerRefresh], c.Unlocks "r" "a") ∨
        deadlineThrough "r" "a" [minuteLock, longerRefresh] minuteLock.now < lateLock.now) := by
  obtain ⟨calls, sequences⟩ := refines_client "h/locks.db"
  have proper₁ : ¬ minuteLock.query.Improper := Query.fault?_eq_none_iff.mp (by decide +kernel)
  have proper₂ : ¬ longerRefresh.query.Improper := Query.fault?_eq_none_iff.mp (by decide +kernel)
  have proper₃ : ¬ lateLock.query.Improper := Query.fault?_eq_none_iff.mp (by decide +kernel)
  have chain : [minuteLock, longerRefresh, lateLock].IsChain Follows := by
    refine .cons_cons ⟨?_, by decide⟩ (.cons_cons ⟨?_, by decide⟩ (.singleton _))
    · rw [(minuteLock.answered proper₁).2]
      decide +kernel
    · rw [(longerRefresh.answered proper₂).2]
      decide +kernel
  have single : minuteLock.foundTable.Single "r" := by
    rw [Table.Single]
    decide +kernel
  have locks₁ : minuteLock.Locks "r" "a" :=
    ⟨⟨0, rfl⟩, status_eq_zero_iff.mpr ⟨proper₁, by decide +kernel⟩⟩
  have locks₂ : lateLock.Locks "r" "b" :=
    ⟨⟨0, rfl⟩, status_eq_zero_iff.mpr ⟨proper₃, by decide +kernel⟩⟩
  exact ⟨(calls namelessUnlock).2.1 (.inr ⟨"", rfl, .inl rfl⟩), (calls minuteLock).2.2 proper₁,
    (calls longerRefresh).2.2 proper₂, by decide +kernel, by decide +kernel, chain, single,
    locks₁, locks₂,
    sequences "r" "a" "b" minuteLock lateLock [longerRefresh] chain single locks₁ locks₂⟩

end Call

end Leasehold

import Leasehold.Proofs.Lock.Effect

/-!
# One winner

Many clients claim one resource that has no row or a stale one.  However their
statements are interleaved, one of them is granted the lock and all others are
refused.

A race is `Standing.open` as long as nobody has won: then nobody has been refused
either, because every reader finds a stale row.  The first one to write decides it
(`step_free`), and since no claim's deadline is past at anybody's reading, whoever
comes later is refused by the row that the winner left (`step_taken`).
-/

namespace Leasehold

namespace Attempt

/-- The answer of an attempt that is done. -/
def answer? : Attempt → Option (Except StoreFault Bool)
  | done ending => some ending.answer
  | insert | read | steal _ => none

/-- How many statements an attempt puts at most. -/
def left : Attempt → Nat
  | insert => 3
  | read => 2
  | steal _ => 1
  | done _ => 0

theorem answer?_eq_none_iff {a : Attempt} : a.answer? = none ↔ 0 < a.left := by
  cases a <;> simp [answer?, left]

theorem left_step (claim : Claim) (a : Attempt) (db : Database) :
    (a.step claim db).1.left ≤ a.left - 1 := by
  cases a with
  | insert =>
    simp only [step]
    split <;> simp [left]
  | read =>
    simp only [step]
    split
    · simp [left]
    · split <;> simp [left]
    · simp [left]
  | steal seen =>
    simp only [step]
    split <;> simp [left]
  | done ending => simp [left]

/-- A statement of an attempt leaves all rows alone but those of its resource. -/
theorem others_step (claim : Claim) (a : Attempt) (db : Database) :
    (a.step claim db).2.others claim.row.resource = db.others claim.row.resource := by
  obtain ⟨table⟩ := db
  cases table with
  | none => cases a <;> rfl
  | some t =>
    cases a with
    | insert =>
      rw [step_insert]
      cases inserted : (t.insertIfAbsent claim.row).1 with
      | true => exact congrArg some (Table.written_insertIfAbsent inserted).others
      | false => rw [Table.insertIfAbsent_of_refused inserted]
    | read => rw [(step_read claim _).2]
    | steal seen =>
      rw [step_steal, Table.stealIfStale_snd]
      exact congrArg some (Table.others_update
        (fun _ pass => (Bool.and_eq_true_iff.mp pass).1) (Entry.key_takenOver claim.row))
    | done ending => rfl

end Attempt

namespace Job

/-- The answer of an acquirer that is done. -/
def answer? : Job → Option (Except StoreFault Bool)
  | acquire _ attempt => attempt.answer?
  | refresh _ _ _ | release _ _ | sweep _ _ | finished => none

end Job

/-- The answer of the job at a place, if there is one. -/
def Traffic.answer? (s : Traffic) (index : Nat) : Option (Except StoreFault Bool) :=
  s.jobs[index]?.bind Job.answer?

/-- A client in a race: its reading, its machine, the owner it speaks for and the lease. -/
structure Racer where
  now : Int
  host : String
  owner : String
  lease : Span
  deriving DecidableEq

namespace Racer

/-- What a racer wants to write. -/
def claim (resource : String) (c : Racer) : Claim :=
  Claim.new c.now resource c.host c.owner c.lease

/-- A racer at the start. -/
def job (resource : String) (c : Racer) : Job := .acquire (c.claim resource) .insert

end Racer

namespace Race

variable {db : Database} {attempt : Attempt}

/-- Nobody who reads a clock of the racers finds the resource taken: it has no row, or one that
can be read and whose deadline is a number before every reading. -/
def Free (resource : String) (racers : List Racer) (db : Database) : Prop :=
  ∀ e, db.entryOf? resource = some e →
    ∃ row, e.row = .ok row ∧ e.deadline = .integer row.deadline ∧
      ∀ c ∈ racers, row.deadline < c.now

/-! ## One statement of a racer -/

/-- Before there is a winner a racer wins or goes on.  Without a row it can only win. -/
theorem step_free (claim : Claim)
    (table : db.Has fun t => t.Single claim.row.resource ∧ t.mute = false)
    (free : ∀ e, db.entryOf? claim.row.resource = some e →
      ∃ row, e.row = .ok row ∧ e.deadline = .integer row.deadline ∧ row.deadline < claim.now)
    (pending : attempt.answer? = none)
    (fresh : db.entryOf? claim.row.resource = none → attempt = .insert) :
    ((attempt.step claim db).1.answer? = some (.ok true) ∧
      (attempt.step claim db).2.entryOf? claim.row.resource = some (Entry.ofRow claim.row)) ∨
    ((attempt.step claim db).1.answer? = none ∧ (attempt.step claim db).2 = db ∧
      db.entryOf? claim.row.resource ≠ none) := by
  obtain ⟨t, rfl, single, loud⟩ := table
  rw [Database.entryOf?_some] at free fresh ⊢
  cases attempt with
  | insert =>
    have after := t.entryOf?_insertIfAbsent claim.row claim.row.resource
    rw [Attempt.step_insert]
    cases he : t.entryOf? claim.row.resource with
    | none =>
      have hins : (t.insertIfAbsent claim.row).1 = true := by
        simp [Table.insertIfAbsent_fst, loud, he]
      left
      rw [hins] at after
      exact ⟨by simp [hins, Attempt.answer?, Ending.answer], by simpa using after⟩
    | some e =>
      right
      have same : t.insertIfAbsent claim.row = (false, t) := by simp [Table.insertIfAbsent, he]
      simp [same, Attempt.answer?]
  | read =>
    cases he : t.entryOf? claim.row.resource with
    | none => cases fresh he
    | some e =>
      obtain ⟨row, hrow, -, hstale⟩ := free e he
      right
      rw [Attempt.step_read_of_row he hrow, (row.isStaleAt_iff claim.now).mpr hstale]
      simp [Attempt.answer?]
  | steal seen =>
    have after := single.entryOf?_stealIfStale claim.row claim.now
    cases he : t.entryOf? claim.row.resource with
    | none => cases fresh he
    | some e =>
      obtain ⟨row, -, hd, hstale⟩ := free e he
      have hst : (t.stealIfStale claim.row claim.now).1 = true := by
        rw [single.stealIfStale_fst, he]
        simp [hd, hstale]
      left
      rw [hst] at after
      rw [Attempt.step_steal, hst]
      exact ⟨rfl, by simpa using after⟩
  | done ending => cases pending

/-- After a win a racer that was not granted the lock is refused or goes on. -/
theorem step_taken (claim : Claim) {row : LockRow}
    (table : db.Has (Table.Single claim.row.resource))
    (taken : db.entryOf? claim.row.resource = some (Entry.ofRow row))
    (valid : claim.now ≤ row.deadline)
    (losing : attempt.answer? = none ∨ attempt.answer? = some (.ok false)) :
    ((attempt.step claim db).1.answer? = none ∨
      (attempt.step claim db).1.answer? = some (.ok false)) ∧
    (attempt.step claim db).2.entryOf? claim.row.resource = some (Entry.ofRow row) := by
  obtain ⟨t, rfl, single⟩ := table
  rw [Database.entryOf?_some] at taken
  cases attempt with
  | insert =>
    have same : t.insertIfAbsent claim.row = (false, t) := by simp [Table.insertIfAbsent, taken]
    rw [Attempt.step_insert, same]
    exact ⟨.inl rfl, taken⟩
  | read =>
    have fresh : row.isStaleAt claim.now = false := by
      simpa [LockRow.isStaleAt] using valid
    rw [Attempt.step_read_of_row taken (Entry.row_ofRow row), fresh]
    exact ⟨.inr rfl, taken⟩
  | steal seen =>
    have after := single.entryOf?_stealIfStale claim.row claim.now
    have hst : (t.stealIfStale claim.row claim.now).1 = false := by
      rw [single.stealIfStale_fst, taken]
      simpa [Entry.ofRow] using valid
    rw [hst] at after
    rw [Attempt.step_steal, hst]
    exact ⟨.inr rfl, by simpa [taken] using after⟩
  | done ending => exact ⟨losing, taken⟩

/-! ## Where a race stands -/

/-- Nobody has an answer yet, or one racer has won and nobody else has. -/
inductive Standing (resource : String) (racers : List Racer) (s : Traffic) : Prop where
  | undecided (free : Free resource racers s.db)
      (racing : ∀ i (h : i < racers.length), ∃ a : Attempt,
        s.jobs[i]? = some (.acquire (racers[i].claim resource) a) ∧ a.answer? = none ∧
          (s.db.entryOf? resource = none → a = .insert))
  | decided (w : Nat) (hw : w < racers.length)
      (row : s.db.entryOf? resource = some (Entry.ofRow (racers[w].claim resource).row))
      (winner : ∃ a : Attempt, s.jobs[w]? = some (.acquire (racers[w].claim resource) a) ∧
        a.answer? = some (.ok true))
      (losers : ∀ i (h : i < racers.length), i ≠ w → ∃ a : Attempt,
        s.jobs[i]? = some (.acquire (racers[i].claim resource) a) ∧
          (a.answer? = none ∨ a.answer? = some (.ok false)))

variable {resource : String} {racers : List Racer} {s s' : Traffic} {m : Traffic.Move}

theorem job_start {others : List Job} (jobs : s.jobs = racers.map (Racer.job resource) ++ others)
    {i : Nat} (h : i < racers.length) :
    s.jobs[i]? = some (.acquire (racers[i].claim resource) .insert) := by
  rw [jobs, List.getElem?_append_left (by simpa using h), List.getElem?_map,
    List.getElem?_eq_getElem h]
  rfl

theorem Standing.start {others : List Job} (free : Free resource racers s.db)
    (jobs : s.jobs = racers.map (Racer.job resource) ++ others) :
    Standing resource racers s :=
  .undecided free fun _ h => ⟨.insert, job_start jobs h, rfl, fun _ => rfl⟩

/-- A race stands as it did if neither the racers nor the row have changed. -/
theorem Standing.of_same (h : Standing resource racers s)
    (jobs : ∀ i < racers.length, ∀ job, s.jobs[i]? = some job → s'.jobs[i]? = some job)
    (same : s'.db.entryOf? resource = s.db.entryOf? resource) : Standing resource racers s' := by
  cases h with
  | undecided free racing =>
    refine .undecided (fun e he => free e (same ▸ he)) fun i hi => ?_
    obtain ⟨a, ha, pending, fresh⟩ := racing i hi
    exact ⟨a, jobs i hi _ ha, pending, fun hnone => fresh (same ▸ hnone)⟩
  | decided w hw row winner losers =>
    obtain ⟨a, ha, granted⟩ := winner
    refine .decided w hw (same.trans row) ⟨a, jobs w hw _ ha, granted⟩ fun i hi hne => ?_
    obtain ⟨b, hb, losing⟩ := losers i hi hne
    exact ⟨b, jobs i hi _ hb, losing⟩

theorem jobs_of_others {index : Nat} :
    ∀ i, i ≠ index → ∀ job, s.jobs[i]? = some job →
      (s.step (.turn index)).jobs[i]? = some job := by
  intro i hi job hjob
  refine Traffic.jobs_step_of_ne hjob fun heq => hi ?_
  exact (Traffic.Move.turn.inj heq).symm

/-- What a turn of a racer does to its attempt and to the database. -/
theorem racer_turn {claim : Claim} {a : Attempt} {index : Nat}
    (ha : s.jobs[index]? = some (.acquire claim a)) :
    (s.step (.turn index)).jobs[index]? = some (.acquire claim (a.step claim s.db).1) ∧
      (s.step (.turn index)).db = (a.step claim s.db).2 := by
  refine ⟨Traffic.jobs_step_turn ha, ?_⟩
  rw [Traffic.db_step, Traffic.turn?_turn ha]
  rfl

/-- A turn of a racer when nobody has won yet. -/
theorem turn_undecided (table : s.db.Has fun t => t.Single resource ∧ t.mute = false)
    (free : Free resource racers s.db)
    (racing : ∀ i (h : i < racers.length), ∃ a : Attempt,
      s.jobs[i]? = some (.acquire (racers[i].claim resource) a) ∧ a.answer? = none ∧
        (s.db.entryOf? resource = none → a = .insert))
    {index : Nat} (hindex : index < racers.length) :
    Standing resource racers (s.step (.turn index)) := by
  obtain ⟨a, ha, pending, fresh⟩ := racing index hindex
  obtain ⟨job, db⟩ := racer_turn ha
  have stale : ∀ e, s.db.entryOf? resource = some e → ∃ row, e.row = .ok row ∧
      e.deadline = .integer row.deadline ∧ row.deadline < racers[index].now := by
    intro e he
    obtain ⟨row, hrow, hd, hlt⟩ := free e he
    exact ⟨row, hrow, hd, hlt _ (List.getElem_mem hindex)⟩
  rcases step_free (racers[index].claim resource) table stale pending fresh with
    ⟨won, after⟩ | ⟨still, same, present⟩
  · refine .decided index hindex (db ▸ after) ⟨_, job, won⟩ fun i hi hne => ?_
    obtain ⟨b, hb, hnone, -⟩ := racing i hi
    exact ⟨b, jobs_of_others i hne _ hb, .inl hnone⟩
  · rw [same] at db
    refine .undecided (db ▸ free) fun i hi => ?_
    by_cases heq : i = index
    · subst heq
      exact ⟨_, job, still, fun hnone => absurd (db ▸ hnone) present⟩
    · obtain ⟨b, hb, hnone, hfresh⟩ := racing i hi
      exact ⟨b, jobs_of_others i heq _ hb, hnone, fun hgone => hfresh (db ▸ hgone)⟩

/-- A turn of a racer after somebody has won. -/
theorem turn_decided (table : s.db.Has (Table.Single resource))
    (valid : ∀ c ∈ racers, ∀ d ∈ racers, d.now ≤ deadlineAfter c.now c.lease)
    {w : Nat} (hw : w < racers.length)
    (row : s.db.entryOf? resource = some (Entry.ofRow (racers[w].claim resource).row))
    (winner : ∃ a : Attempt, s.jobs[w]? = some (.acquire (racers[w].claim resource) a) ∧
      a.answer? = some (.ok true))
    (losers : ∀ i (h : i < racers.length), i ≠ w → ∃ a : Attempt,
      s.jobs[i]? = some (.acquire (racers[i].claim resource) a) ∧
        (a.answer? = none ∨ a.answer? = some (.ok false)))
    {index : Nat} (hindex : index < racers.length) :
    Standing resource racers (s.step (.turn index)) := by
  by_cases heq : index = w
  · -- the winner is done and does nothing any more
    subst heq
    obtain ⟨a, ha, granted⟩ := winner
    obtain ⟨job, db⟩ := racer_turn ha
    cases a with
    | done ending =>
      refine .decided index hw (db ▸ row) ⟨_, job, granted⟩ fun i hi hne => ?_
      obtain ⟨b, hb, losing⟩ := losers i hi hne
      exact ⟨b, jobs_of_others i hne _ hb, losing⟩
    | insert => cases granted
    | read => cases granted
    | steal seen => cases granted
  · obtain ⟨a, ha, losing⟩ := losers index hindex heq
    obtain ⟨job, db⟩ := racer_turn ha
    have early : racers[index].now ≤ (racers[w].claim resource).row.deadline :=
      valid _ (List.getElem_mem hw) _ (List.getElem_mem hindex)
    obtain ⟨losing', after⟩ := step_taken (racers[index].claim resource) table row early losing
    obtain ⟨b, hb, granted⟩ := winner
    refine .decided w hw (db ▸ after) ⟨b, jobs_of_others w (Ne.symm heq) _ hb, granted⟩
      fun i hi hne => ?_
    by_cases hi' : i = index
    · subst hi'
      exact ⟨_, job, losing'⟩
    · obtain ⟨c, hc, hlosing⟩ := losers i hi hne
      exact ⟨c, jobs_of_others i hi' _ hc, hlosing⟩

/-! ## A whole race -/

theorem Standing.step (h : Standing resource racers s)
    (table : s.db.Has fun t => t.Single resource ∧ t.mute = false)
    (valid : ∀ c ∈ racers, ∀ d ∈ racers, d.now ≤ deadlineAfter c.now c.lease)
    (alone : ∀ t, s.turn? m = some t → racers.length ≤ t.index →
      t.next.entryOf? resource = t.db.entryOf? resource) :
    Standing resource racers (s.step m) := by
  cases m with
  | pass millis => exact h.of_same (fun i _ job hjob => hjob) rfl
  | start operation =>
    exact h.of_same (fun i _ job hjob => Traffic.jobs_step_of_ne hjob (by simp)) rfl
  | turn index =>
    by_cases hindex : index < racers.length
    · cases h with
      | undecided free racing => exact turn_undecided table free racing hindex
      | decided w hw row winner losers =>
        exact turn_decided (table.imp fun _ ht => ht.1) valid hw row winner losers hindex
    · have ne : ∀ i < racers.length, i ≠ index := by omega
      refine h.of_same (fun i hi job hjob => jobs_of_others i (ne i hi) job hjob) ?_
      rw [Traffic.db_step]
      cases hturn : s.turn? (.turn index) with
      | none => rfl
      | some t =>
        obtain ⟨job, -, rfl⟩ := Option.map_eq_some_iff.mp hturn
        exact alone _ hturn (Nat.le_of_not_lt hindex)

theorem Standing.run (h : Standing resource racers s)
    (table : s.db.Has fun t => t.Single resource ∧ t.mute = false)
    (valid : ∀ c ∈ racers, ∀ d ∈ racers, d.now ≤ deadlineAfter c.now c.lease)
    {moves : List Traffic.Move}
    (alone : ∀ t ∈ s.history moves, racers.length ≤ t.index →
      t.next.entryOf? resource = t.db.entryOf? resource) :
    Standing resource racers (s.run moves) := by
  have kept := (Table.kept_single resource).and (Table.kept_mute false)
  induction moves generalizing s with
  | nil => exact h
  | cons m moves ih =>
    have now := h.step (m := m) table valid fun t ht =>
      alone t (List.mem_append_left _ (Option.mem_toList.mpr ht))
    exact ih now (Traffic.step_has kept table m)
      fun t ht => alone t (List.mem_append_right _ ht)

/-- Each turn of a racer leaves it one statement fewer. -/
theorem left_run {index k : Nat} {claim : Claim} (moves : List Traffic.Move)
    (h : ∃ a : Attempt, s.jobs[index]? = some (.acquire claim a) ∧ a.left ≤ k) :
    ∃ a : Attempt, (s.run moves).jobs[index]? = some (.acquire claim a) ∧
      a.left ≤ k - moves.count (.turn index) := by
  induction moves generalizing s k with
  | nil => exact h
  | cons m moves ih =>
    obtain ⟨a, ha, hleft⟩ := h
    rw [Traffic.run_cons]
    by_cases hm : m = .turn index
    · subst hm
      have hstep := Attempt.left_step claim a s.db
      obtain ⟨b, hb, hb'⟩ := ih (k := k - 1) ⟨_, (racer_turn ha).1, by omega⟩
      refine ⟨b, hb, ?_⟩
      rw [List.count_cons_self]
      omega
    · obtain ⟨b, hb, hb'⟩ := ih ⟨a, Traffic.jobs_step_of_ne ha hm, hleft⟩
      refine ⟨b, hb, ?_⟩
      rw [List.count_cons_of_ne hm]
      exact hb'

/-- A racer's turn concerns its own resource only. -/
theorem turn_elsewhere {t : Turn} {claim : Claim} {a : Attempt} (job : t.job = .acquire claim a) :
    t.next.others claim.row.resource = t.db.others claim.row.resource := by
  rw [Turn.next, job]
  exact a.others_step claim t.db

end Race

/-- In a race for a resource that has no row or a stale one, run until every racer has had three
turns or needs no more, exactly one racer is granted the lock and all others are refused.  The
row is the winner's claim, and no racer's turn changes any other row. -/
theorem Traffic.race_has_one_winner {s : Traffic} {resource : String} {racers : List Racer}
    {others : List Job} (start : s.jobs = racers.map (Racer.job resource) ++ others)
    (nonempty : racers ≠ []) (table : s.db.Has fun t => t.Single resource ∧ t.mute = false)
    (free : Race.Free resource racers s.db)
    (valid : ∀ c ∈ racers, ∀ d ∈ racers, d.now ≤ deadlineAfter c.now c.lease)
    (moves : List Traffic.Move)
    (alone : ∀ t ∈ s.history moves, racers.length ≤ t.index →
      t.next.entryOf? resource = t.db.entryOf? resource)
    (whole : ∀ i < racers.length,
      ((s.run moves).answer? i).isSome ∨ 3 ≤ moves.count (.turn i)) :
    ∃ w, ∃ hw : w < racers.length,
      (s.run moves).answer? w = some (.ok true) ∧
      (∀ i < racers.length, i ≠ w → (s.run moves).answer? i = some (.ok false)) ∧
      (s.run moves).db.entryOf? resource =
        some (Entry.ofRow ⟨resource, racers[w].host, racers[w].owner,
          deadlineAfter racers[w].now racers[w].lease⟩) ∧
      ∀ t ∈ s.history moves, t.index < racers.length →
        t.next.others resource = t.db.others resource := by
  have standing := (Race.Standing.start free start).run table valid alone
  have answered : ∀ i (h : i < racers.length) (a : Attempt),
      (s.run moves).jobs[i]? = some (.acquire (racers[i].claim resource) a) →
        a.answer? ≠ none := by
    intro i h a ha pending
    rcases whole i h with hdone | hturns
    · simp [answer?, ha, Job.answer?, pending] at hdone
    · obtain ⟨b, hb, hleft⟩ := Race.left_run moves ⟨.insert, Race.job_start start h, Nat.le_refl 3⟩
      cases ha.symm.trans hb
      have hpos := Attempt.answer?_eq_none_iff.mp pending
      omega
  cases standing with
  | undecided _ racing =>
    have hfirst : 0 < racers.length := List.length_pos_iff.mpr nonempty
    obtain ⟨a, ha, pending, -⟩ := racing 0 hfirst
    exact absurd pending (answered 0 hfirst a ha)
  | decided w hw row winner losers =>
    obtain ⟨a, ha, granted⟩ := winner
    refine ⟨w, hw, ?_, fun i hi hne => ?_, row, fun t ht hindex => ?_⟩
    · simpa [answer?, ha, Job.answer?] using granted
    · obtain ⟨b, hb, losing⟩ := losers i hi hne
      rcases losing with hnone | hfalse
      · exact absurd hnone (answered i hi b hb)
      · simpa [answer?, hb, Job.answer?] using hfalse
    · obtain ⟨b, hb⟩ := history_acquire moves ⟨_, Race.job_start start hindex⟩ t ht rfl
      exact Race.turn_elsewhere hb

/-- Two clients and a row whose lease has run out. -/
def Race.pair : List Racer :=
  [⟨10, "h1", "a", Span.ofMillis 1000⟩, ⟨12, "h2", "b", Span.ofMillis 1000⟩]

/-- A table with that row, and with two more that other programs have left without a key. -/
def Race.pairTable : Table where
  entries :=
    [⟨.null, .text "h", .text "o", .integer 5⟩, ⟨.null, .null, .null, .null⟩,
      Entry.ofRow ⟨"r", "h0", "c", 5⟩]
  mute := false

/-- Both are about to insert their rows. -/
def Race.pairStart : Traffic := ⟨⟨some pairTable⟩, 12, pair.map (Racer.job "r") ++ []⟩

/-- Both see the stale row before one of them takes it over. -/
theorem Traffic.race_has_one_winner_of_two :
    ∃ w, ∃ hw : w < Race.pair.length,
      let moves : List Traffic.Move := [.turn 0, .turn 1, .turn 1, .turn 0, .turn 1, .turn 0]
      (Race.pairStart.run moves).answer? w = some (.ok true) ∧
      (∀ i < Race.pair.length, i ≠ w → (Race.pairStart.run moves).answer? i = some (.ok false)) ∧
      (Race.pairStart.run moves).db.entryOf? "r" =
        some (Entry.ofRow ⟨"r", Race.pair[w].host, Race.pair[w].owner,
          deadlineAfter Race.pair[w].now Race.pair[w].lease⟩) ∧
      ∀ t ∈ Race.pairStart.history moves, t.index < Race.pair.length →
        t.next.others "r" = t.db.others "r" := by
  have start : Race.pairStart.jobs = Race.pair.map (Racer.job "r") ++ [] := rfl
  refine race_has_one_winner start (by simp [Race.pair]) ⟨_, rfl, ?_, rfl⟩ ?_
    (by decide +kernel) _ (by decide +kernel) (by decide +kernel)
  · show Race.pairTable.entries.countP (Table.isOf "r") ≤ 1
    decide +kernel
  · intro e he
    have hentry : Race.pairStart.db.entryOf? "r" = some (Entry.ofRow ⟨"r", "h0", "c", 5⟩) := by
      decide +kernel
    cases hentry.symm.trans he
    exact ⟨⟨"r", "h0", "c", 5⟩, rfl, rfl, by decide +kernel⟩

end Leasehold

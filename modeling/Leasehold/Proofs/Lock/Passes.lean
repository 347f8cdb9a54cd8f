import Leasehold.Proofs.Lock.Effect
import Leasehold.Proofs.Lock.Renewal

/-!
# What a pass over any snapshot does

By the time a pass comes to an entry of its snapshot, that entry may have been given up, replaced,
or met before.  `Held.Concluded` says what a pass leaves and reports whatever its statements were
answered.  The induction is on the answers, and an entry can be dropped but once.

`Held.Passed` says the same of a pass that nobody disturbs, in terms of what was there before.  A
pass only ever moves deadlines: whose a row is stays as it was (`Database.ownedBy_renewed`), so the
answer to each statement is as if there were no others (`Held.extendAll_eq`).
-/

namespace Leasehold

/-! ## Deadlines after a pass -/

/-- A lock may extend an entry. -/
def HeldLock.fits (e : Entry) (l : HeldLock) : Bool := Table.isOwned l.resource l.owner e

/-- The entry after a pass: its deadline was moved by the last lock of the snapshot that fits. -/
def Entry.renewed (now : Int) (snapshot : List HeldLock) (e : Entry) : Entry :=
  match snapshot.reverse.find? (HeldLock.fits e) with
  | some l => e.extended (deadlineAfter now l.lease)
  | none => e

namespace Entry

variable {e : Entry} {now : Int} {snapshot : List HeldLock}

@[simp] theorem renewed_nil : e.renewed now [] = e := rfl

theorem renewed_eq_or (now : Int) (snapshot : List HeldLock) (e : Entry) :
    e.renewed now snapshot = e ∨ ∃ deadline, e.renewed now snapshot = e.extended deadline := by
  unfold renewed
  split
  · exact .inr ⟨_, rfl⟩
  · exact .inl rfl

@[simp] theorem key_renewed : (e.renewed now snapshot).key = e.key := by
  rcases renewed_eq_or now snapshot e with same | ⟨deadline, moved⟩
  · rw [same]
  · rw [moved, key_extended]

@[simp] theorem owner_renewed : (e.renewed now snapshot).owner = e.owner := by
  rcases renewed_eq_or now snapshot e with same | ⟨deadline, moved⟩
  · rw [same]
  · rw [moved]
    rfl

@[simp] theorem fits_extended {deadline : Int} :
    HeldLock.fits (e.extended deadline) = HeldLock.fits e := rfl

/-- A later entry of the snapshot has the last word. -/
theorem renewed_cons (now : Int) (l : HeldLock) (rest : List HeldLock) (e : Entry) :
    e.renewed now (l :: rest) = (e.renewed now [l]).renewed now rest := by
  have alone : e.renewed now [l] =
      if l.fits e then e.extended (deadlineAfter now l.lease) else e := by
    cases fit : l.fits e <;> simp [renewed, fit]
  rw [alone]
  unfold renewed
  rw [List.reverse_cons, List.find?_append]
  cases fit : l.fits e with
  | true =>
    simp only [if_true, fits_extended]
    cases rest.reverse.find? (HeldLock.fits e) with
    | none => simp [fit]
    | some last => rfl
  | false =>
    cases found : rest.reverse.find? (HeldLock.fits e) <;> simp [fit, found]

end Entry

/-- The table after a pass over a snapshot. -/
def Table.renewed (now : Int) (snapshot : List HeldLock) (t : Table) : Table :=
  { t with entries := t.entries.map (Entry.renewed now snapshot) }

/-- The database after a pass over a snapshot. -/
def Database.renewed (now : Int) (snapshot : List HeldLock) (db : Database) : Database :=
  ⟨db.table.map (Table.renewed now snapshot)⟩

namespace Table

variable {t : Table} {now : Int} {l : HeldLock} {snapshot : List HeldLock} {resource : String}

theorem isOf_renewed : isOf resource ∘ Entry.renewed now snapshot = isOf resource := by
  funext e
  simp [isOf]

theorem entryOf?_renewed :
    (t.renewed now snapshot).entryOf? resource =
      (t.entryOf? resource).map (Entry.renewed now snapshot) := by
  simp only [entryOf?, renewed, List.find?_map, isOf_renewed]

theorem Single.renewed (h : t.Single resource) : (t.renewed now snapshot).Single resource := by
  unfold Single Table.renewed
  rw [List.countP_map, isOf_renewed]
  exact h

theorem renewed_cons (now : Int) (l : HeldLock) (rest : List HeldLock) (t : Table) :
    t.renewed now (l :: rest) = (t.renewed now [l]).renewed now rest := by
  simp only [renewed, List.map_map, Table.mk.injEq, and_true]
  exact List.map_congr_left fun e _ => Entry.renewed_cons now l rest e

/-- The statement of one entry is a pass over this entry. -/
theorem extend_snd_eq_renewed :
    (t.extend l.resource l.owner (deadlineAfter now l.lease)).2 = t.renewed now [l] := by
  rw [extend_snd]
  simp only [update, renewed, Table.mk.injEq, and_true]
  refine List.map_congr_left fun e _ => ?_
  cases fit : l.fits e <;> simp [Entry.renewed, fit, show isOwned l.resource l.owner e = _ from fit]

end Table

namespace Database

variable {db : Database} {now : Int} {l : HeldLock} {snapshot : List HeldLock}
  {resource owner : String}

@[simp] theorem renewed_nil : db.renewed now [] = db := by
  have same : Entry.renewed now [] = id := rfl
  obtain ⟨table⟩ := db
  cases table <;> simp [renewed, Table.renewed, same]

theorem renewed_cons (now : Int) (l : HeldLock) (rest : List HeldLock) (db : Database) :
    db.renewed now (l :: rest) = (db.renewed now [l]).renewed now rest := by
  obtain ⟨table⟩ := db
  cases table with
  | none => rfl
  | some t => exact congrArg (Database.mk ∘ some) (Table.renewed_cons now l rest t)

theorem Single.renewed (h : db.Single resource) : (db.renewed now snapshot).Single resource := by
  rintro t' ht'
  obtain ⟨t, ht, rfl⟩ := Option.map_eq_some_iff.mp ht'
  exact (h t ht).renewed

/-- A pass leaves every row to its owner. -/
@[simp] theorem ownedBy_renewed :
    (db.renewed now snapshot).ownedBy resource owner = db.ownedBy resource owner := by
  obtain ⟨table⟩ := db
  cases table with
  | none => rfl
  | some t =>
    show ((t.renewed now snapshot).entryOf? resource).any _ = (t.entryOf? resource).any _
    rw [Table.entryOf?_renewed]
    cases t.entryOf? resource <;> simp

/-- The row of a lock is its owner's. -/
abbrev has (db : Database) (l : HeldLock) : Bool := db.ownedBy l.resource l.owner

/-- The statement of one entry counts as a success exactly if the row is there, and is a pass over
this entry, also where it does nothing. -/
theorem extend_eq (single : db.Single l.resource) :
    db.extend l.resource l.owner (deadlineAfter now l.lease) =
      (if db.table.isSome then .ok (db.has l) else .error .noTable, db.renewed now [l]) := by
  obtain ⟨table⟩ := db
  cases table with
  | none => rfl
  | some t =>
    simp only [extend, run_some, Table.extend_snd_eq_renewed, (single t rfl).extend_fst]
    rfl

end Database

theorem RenewalReport.ofEntries_cons (lock : HeldLock) (renewal : Renewal)
    (fault : Option StoreFault) (entries : List RenewedEntry) :
    ofEntries (⟨lock, renewal, fault⟩ :: entries) =
      ⟨(ofEntries entries).refreshed + (if renewal = .refreshed then 1 else 0),
        (if renewal = .lost then [lock] else []) ++ (ofEntries entries).lost⟩ := by
  cases renewal <;> simp [ofEntries]

namespace Held

variable {held : Held} {now : Int} {db : Database} {l lock : HeldLock} {snapshot : List HeldLock}

/-! ## One entry -/

theorem filter_ne_of_not_mem (absent : lock ∉ held) : held.filter (· ≠ lock) = held := by
  refine List.filter_eq_self.mpr fun l hl => ?_
  rw [decide_eq_true_iff]
  rintro rfl
  exact absent hl

theorem WellFormed.dropSame_eq (h : held.WellFormed) :
    held.dropSame lock = (decide (lock ∈ held), held.filter (· ≠ lock)) := by
  unfold Held.dropSame
  split
  · rename_i found
    have mem := List.mem_of_find?_eq_some found
    rw [decide_eq_true mem, Held.drop]
    refine congrArg _ (List.filter_congr fun l hl => ?_)
    refine decide_eq_decide.mpr (not_congr ⟨h.eq_of_mem hl mem, ?_⟩)
    rintro rfl
    rfl
  · rename_i other
    have absent : lock ∉ held := fun mem => other (h.lock?_of_mem mem)
    rw [decide_eq_false absent, filter_ne_of_not_mem absent]

/-- An entry whose statement did not move a deadline is lost or passed over, and leaves all that is
held but itself. -/
theorem WellFormed.conclude_of_failed (h : held.WellFormed) (lock : HeldLock)
    {answer : Except StoreFault Bool} (failed : answer ≠ .ok true) :
    ∃ fault, held.conclude lock answer =
      (⟨lock, if lock ∈ held then .lost else .obsolete, fault⟩, held.filter (· ≠ lock)) := by
  unfold Held.conclude
  rw [h.dropSame_eq]
  cases answer with
  | error f => exact ⟨some f, by simp⟩
  | ok moved =>
    cases moved with
    | true => exact absurd rfl failed
    | false => exact ⟨none, by simp⟩

/-! ## A pass by its answers -/

/-- What a pass reports and leaves whose statements had these answers. -/
structure Concluded (answers : List (HeldLock × Except StoreFault Bool)) (held : Held)
    (report : RenewalReport) (held' : Held) : Prop where
  /-- Every entry counts whose statement has moved a deadline. -/
  refreshed : report.refreshed = answers.countP (·.2 = .ok true)
  /-- Every other entry that is held just so is lost, once. -/
  lost : report.lost =
    ((answers.filter fun (l, answer) => answer ≠ .ok true && decide (l ∈ held)).map (·.1)).eraseDups
  kept : held' = held.filter (· ∉ report.lost)

variable {answers : List (HeldLock × Except StoreFault Bool)} {entries : List RenewedEntry}
  {held' : Held} {fault : Option StoreFault}

theorem Concluded.cons_of_moved (h : Concluded answers held (.ofEntries entries) held') :
    Concluded ((lock, .ok true) :: answers) held
      (.ofEntries (⟨lock, .refreshed, fault⟩ :: entries)) held' := by
  obtain ⟨refreshed, lost, kept⟩ := h
  rw [RenewalReport.ofEntries_cons]
  refine ⟨?_, ?_, kept⟩
  · rw [List.countP_cons_of_pos (by simp), ← refreshed]
    rfl
  · rw [List.filter_cons_of_neg (by simp), ← lost]
    rfl

/-- An entry whose statement has failed is lost if it is held just so, and what comes later no
longer finds it held. -/
theorem Concluded.cons_of_failed {answer : Except StoreFault Bool} (failed : answer ≠ .ok true)
    (h : Concluded answers (held.filter (· ≠ lock)) (.ofEntries entries) held') :
    Concluded ((lock, answer) :: answers) held
      (.ofEntries (⟨lock, if lock ∈ held then .lost else .obsolete, fault⟩ :: entries)) held' := by
  obtain ⟨refreshed, lost, kept⟩ := h
  rw [RenewalReport.ofEntries_cons]
  have count : ((lock, answer) :: answers).countP (·.2 = .ok true) =
      answers.countP (·.2 = .ok true) := List.countP_cons_of_neg (by simp [failed])
  rw [← count] at refreshed
  by_cases mem : lock ∈ held
  · have others : ((answers.filter fun (l, answer) =>
          answer ≠ .ok true && decide (l ∈ held.filter (· ≠ lock))).map (·.1)) =
        ((answers.filter fun (l, answer) => answer ≠ .ok true && decide (l ∈ held)).map
          (·.1)).filter fun l => !l == lock := by
      rw [List.filter_map, List.filter_filter]
      refine congrArg _ (List.filter_congr fun pair _ => ?_)
      by_cases same : pair.1 = lock <;> simp [same]
    rw [others] at lost
    simp only [mem, if_true]
    refine ⟨refreshed, ?_, ?_⟩
    · rw [List.filter_cons_of_pos (by simp [failed, mem]), List.map_cons, List.eraseDups_cons,
        ← lost]
      rfl
    · rw [kept, List.filter_filter]
      refine List.filter_congr fun l _ => ?_
      by_cases same : l = lock <;> simp [same]
  · have same : held.filter (· ≠ lock) = held := filter_ne_of_not_mem mem
    rw [same] at lost kept
    simp only [mem, if_false]
    refine ⟨refreshed, ?_, kept⟩
    rw [List.filter_cons_of_neg (by simp [mem]), ← lost]
    rfl

/-- A pass over any snapshot, whatever its statements were answered. -/
theorem concludeAll_concluded (wellFormed : held.WellFormed)
    (answers : List (HeldLock × Except StoreFault Bool)) :
    Concluded answers held (.ofEntries (held.concludeAll answers).1)
      (held.concludeAll answers).2 := by
  induction answers generalizing held with
  | nil => exact ⟨rfl, rfl, by simp [concludeAll, RenewalReport.ofEntries]⟩
  | cons pair rest ih =>
    obtain ⟨lock, answer⟩ := pair
    by_cases moved : answer = .ok true
    · subst moved
      exact .cons_of_moved (ih wellFormed)
    · obtain ⟨fault, concluded⟩ := wellFormed.conclude_of_failed lock moved
      rw [concludeAll, concluded]
      exact .cons_of_failed moved (ih (wellFormed.sublist List.filter_sublist))

/-- A pass keeps those locks whose statements have moved a deadline. -/
theorem Concluded.mem_iff {report : RenewalReport} (h : Concluded answers held report held') :
    l ∈ held' ↔ l ∈ held ∧ ∀ answer, (l, answer) ∈ answers → answer = .ok true := by
  rw [h.kept, List.mem_filter, decide_eq_true_iff, h.lost, List.mem_eraseDups]
  refine and_congr_right fun here => ?_
  constructor
  · intro kept answer given
    by_contra failed
    exact kept (List.mem_map.mpr ⟨(l, answer), List.mem_filter.mpr ⟨given, by simp [failed, here]⟩,
      rfl⟩)
  · intro moved lost
    obtain ⟨⟨l', answer⟩, given, rfl⟩ := List.mem_map.mp lost
    obtain ⟨given, failed⟩ := List.mem_filter.mp given
    simp [moved answer given] at failed

/-! ## A pass that nobody disturbs -/

/-- What a pass over a snapshot reports and leaves, in terms of what was there before. -/
structure Passed (now : Int) (snapshot : List HeldLock) (held : Held) (db : Database)
    (report : RenewalReport) (held' : Held) (db' : Database) : Prop where
  /-- Every entry counts whose row is there. -/
  refreshed : report.refreshed = snapshot.countP db.has
  /-- Every other entry that is held just so is lost, once. -/
  lost : report.lost = (snapshot.filter fun l => !db.has l && decide (l ∈ held)).eraseDups
  kept : held' = held.filter (· ∉ report.lost)
  moved : db' = db.renewed now snapshot

/-- The answer to the statement of one entry. -/
def answer (db : Database) (l : HeldLock) : Except StoreFault Bool :=
  if db.table.isSome then .ok (db.has l) else .error .noTable

theorem answer_eq_ok_iff : answer db l = .ok true ↔ db.has l = true := by
  obtain ⟨table⟩ := db
  cases table with
  | none => simp [answer, Database.has, Database.ownedBy, Database.entryOf?]
  | some t => simp [answer]

theorem answer_renewed : answer (db.renewed now snapshot) = answer db := by
  obtain ⟨table⟩ := db
  funext l
  unfold answer
  rw [Database.has, Database.ownedBy_renewed]
  cases table <;> rfl

/-- The statements of a pass do not depend on each other. -/
theorem extendAll_eq (single : ∀ resource, db.Single resource) (now : Int)
    (snapshot : List HeldLock) :
    extendAll now snapshot db = (snapshot.map (answer db), db.renewed now snapshot) := by
  induction snapshot generalizing db with
  | nil => simp [extendAll]
  | cons lock rest ih =>
    rw [extendAll, Database.extend_eq (single lock.resource)]
    dsimp only
    rw [ih fun resource => (single resource).renewed, answer_renewed, ← Database.renewed_cons]
    rfl

/-- A pass over any snapshot. -/
theorem renewAll_passed (wellFormed : held.WellFormed)
    (single : ∀ resource, db.Single resource) (now : Int) (snapshot : List HeldLock) :
    Passed now snapshot held db (.ofEntries (renewAll now snapshot held db).1)
      (renewAll now snapshot held db).2.1 (renewAll now snapshot held db).2.2 := by
  have pairs : snapshot.zip (snapshot.map (answer db)) =
      snapshot.map fun l => (l, answer db l) := by
    have zipped : (snapshot.map id).zip (snapshot.map (answer db)) =
        snapshot.map fun l => (l, answer db l) := List.zip_map'
    rwa [List.map_id] at zipped
  have concluded := concludeAll_concluded wellFormed (snapshot.map fun l => (l, answer db l))
  rw [renewAll_eq, extendAll_eq single]
  dsimp only
  rw [pairs]
  refine ⟨concluded.refreshed.trans ?_, concluded.lost.trans ?_, concluded.kept, rfl⟩
  · rw [List.countP_map]
    refine List.countP_congr fun l _ => ?_
    simp [answer_eq_ok_iff]
  · rw [List.filter_map, List.map_map]
    refine congrArg _ ((List.map_id _).trans (List.filter_congr fun l _ => ?_))
    cases owned : db.has l <;> simp [answer_eq_ok_iff, owned]

/-! ## What an observer is told -/

/-- The events of an observer, one after the other. -/
def observed {σ : Type} (tell : RenewalEvent → σ → σ) (events : List RenewalEvent) (s : σ) : σ :=
  events.foldl (fun s e => tell e s) s

/-- What becomes of a snapshot with the answers to its statements, where an observer is told of
each loss when it happens, and of the sum when there are no more entries. -/
def concludeTelling {σ : Type} (tell : RenewalEvent → σ → σ) :
    RenewalReport → List (HeldLock × Except StoreFault Bool) → Held → σ → RenewalReport × Held × σ
  | report, [], held, s => (report, held, tell (.finished report) s)
  | report, (lock, answer) :: rest, held, s =>
    let (entry, held) := held.conclude lock answer
    match entry.renewal with
    | .refreshed =>
      concludeTelling tell { report with refreshed := report.refreshed + 1 } rest held s
    | .obsolete => concludeTelling tell report rest held s
    | .lost =>
      concludeTelling tell { report with lost := report.lost ++ [lock] } rest held
        (tell (.lost lock) s)

theorem conclude_lock (held : Held) (lock : HeldLock) (answer : Except StoreFault Bool) :
    (held.conclude lock answer).1.lock = lock := by
  unfold conclude
  split <;> rfl

/-- An observer changes nothing, and is told what the report says. -/
theorem concludeTelling_eq {σ : Type} (tell : RenewalEvent → σ → σ) (report : RenewalReport)
    (answers : List (HeldLock × Except StoreFault Bool)) (held : Held) (s : σ) :
    let sum := RenewalReport.ofEntries (held.concludeAll answers).1
    let final : RenewalReport := ⟨report.refreshed + sum.refreshed, report.lost ++ sum.lost⟩
    concludeTelling tell report answers held s = (final, (held.concludeAll answers).2,
      observed tell (sum.lost.map .lost ++ [.finished final]) s) := by
  induction answers generalizing report held s with
  | nil => simp [concludeTelling, concludeAll, RenewalReport.ofEntries, observed]
  | cons pair rest ih =>
    obtain ⟨lock, answer⟩ := pair
    have own : (held.conclude lock answer).1.lock = lock := conclude_lock held lock answer
    rw [concludeTelling, concludeAll]
    generalize held.conclude lock answer = first at own
    obtain ⟨⟨l, renewal, fault⟩, held⟩ := first
    obtain rfl : l = lock := own
    dsimp only
    rw [RenewalReport.ofEntries_cons]
    cases renewal <;> simp [ih, observed, Nat.add_assoc, Nat.add_comm]

/-- Every observer of a pass whose statements had these answers is told of the losses in the order
of the report, and of the report at the end. -/
def ToldBy (answers : List (HeldLock × Except StoreFault Bool)) (held : Held)
    (report : RenewalReport) (held' : Held) : Prop :=
  ∀ (σ : Type) (tell : RenewalEvent → σ → σ) (s : σ),
    concludeTelling tell ⟨0, []⟩ answers held s = (report, held', observed tell report.events s)

theorem concludeAll_told (answers : List (HeldLock × Except StoreFault Bool)) (held : Held) :
    ToldBy answers held (.ofEntries (held.concludeAll answers).1)
      (held.concludeAll answers).2 := by
  intro σ tell s
  simpa [RenewalReport.events] using concludeTelling_eq tell ⟨0, []⟩ answers held s

/-- A pass with an observer, who is told of each loss when it happens, and of the sum when there
are no more entries. -/
def renewTelling {σ : Type} (tell : RenewalEvent → σ → σ) (now : Int) :
    RenewalReport → List HeldLock → Held → Database → σ → RenewalReport × Held × Database × σ
  | report, [], held, db, s => (report, held, db, tell (.finished report) s)
  | report, lock :: rest, held, db, s =>
    let (entry, held, db) := held.renew now lock db
    match entry.renewal with
    | .refreshed =>
      renewTelling tell now { report with refreshed := report.refreshed + 1 } rest held db s
    | .obsolete => renewTelling tell now report rest held db s
    | .lost =>
      renewTelling tell now { report with lost := report.lost ++ [lock] } rest held db
        (tell (.lost lock) s)

/-- An observer of a pass learns from the store what its answers say. -/
theorem renewTelling_eq {σ : Type} (tell : RenewalEvent → σ → σ) (now : Int)
    (report : RenewalReport) (snapshot : List HeldLock) (held : Held) (db : Database) (s : σ) :
    renewTelling tell now report snapshot held db s =
      let (answers, db) := extendAll now snapshot db
      let (report, held, s) := concludeTelling tell report (snapshot.zip answers) held s
      (report, held, db, s) := by
  induction snapshot generalizing report held db s with
  | nil => rfl
  | cons lock rest ih =>
    rw [renewTelling, renew_eq, extendAll]
    dsimp only
    generalize db.extend lock.resource lock.owner (deadlineAfter now lock.lease) = reply
    rw [List.zip_cons_cons, concludeTelling]
    dsimp only
    cases (held.conclude lock reply.1).1.renewal <;> exact ih ..

/-- Every observer of a pass is told of the losses in the order of the report, and of the report
at the end. -/
def Told (now : Int) (snapshot : List HeldLock) (held : Held) (db : Database)
    (report : RenewalReport) (held' : Held) (db' : Database) : Prop :=
  ∀ (σ : Type) (tell : RenewalEvent → σ → σ) (s : σ),
    renewTelling tell now ⟨0, []⟩ snapshot held db s =
      (report, held', db', observed tell report.events s)

theorem renewAll_told (now : Int) (snapshot : List HeldLock) (held : Held) (db : Database) :
    Told now snapshot held db (.ofEntries (renewAll now snapshot held db).1)
      (renewAll now snapshot held db).2.1 (renewAll now snapshot held db).2.2 := by
  intro σ tell s
  rw [renewTelling_eq, renewAll_eq]
  dsimp only
  rw [concludeAll_told (snapshot.zip (extendAll now snapshot db).1) held σ tell s]

/-! ## A pass over all that is held -/

theorem WellFormed.nodup (h : held.WellFormed) : held.Nodup := by
  refine h.imp fun {a b} before same => ?_
  rw [same, Text.before_irrefl] at before
  cases before

theorem eraseDups_of_nodup {locks : List HeldLock} (h : locks.Nodup) : locks.eraseDups = locks := by
  induction locks with
  | nil => rfl
  | cons l rest ih =>
    obtain ⟨new, nodup⟩ := List.nodup_cons.mp h
    have others : (rest.filter fun b => !b == l) = rest.filter (· ≠ l) :=
      List.filter_congr fun b _ => by by_cases same : b = l <;> simp [same]
    rw [List.eraseDups_cons, others, filter_ne_of_not_mem new, ih nodup]

/-- All that is held is refreshed or lost, and as many locks as were refreshed are held afterwards,
whatever the answers were. -/
theorem Concluded.all {report : RenewalReport} {replies : List (Except StoreFault Bool)}
    (h : Concluded (held.zip replies) held report held') (whole : replies.length = held.length)
    (nodup : held.Nodup) :
    report.refreshed + report.lost.length = held.length ∧ report.refreshed = held'.length := by
  have locks : (held.zip replies).map (·.1) = held := List.map_fst_zip (Nat.le_of_eq whole.symm)
  have mem : ∀ pair ∈ held.zip replies, pair.1 ∈ held := fun pair hpair =>
    locks ▸ List.mem_map_of_mem hpair
  generalize held.zip replies = pairs at h locks mem
  have failed : (pairs.filter fun (l, answer) => answer ≠ .ok true && decide (l ∈ held)) =
      pairs.filter fun pair => pair.2 ≠ .ok true :=
    List.filter_congr fun pair hpair => by simp [mem pair hpair]
  have part : ((pairs.filter fun pair => pair.2 ≠ .ok true).map (·.1)).Sublist held :=
    locks ▸ List.filter_sublist.map _
  have lost : report.lost = (pairs.filter fun pair => pair.2 ≠ .ok true).map (·.1) := by
    rw [h.lost, failed, eraseDups_of_nodup (nodup.sublist part)]
  rw [← lost] at part
  have sum : report.refreshed + report.lost.length = held.length := by
    rw [h.refreshed, lost, List.length_map, ← List.countP_eq_length_filter, ← locks,
      List.length_map, List.length_eq_countP_add_countP (·.2 = .ok true)]
    simp
  have gone : held.countP (· ∈ report.lost) = report.lost.length := by
    rw [List.countP_eq_length_filter]
    refine List.Perm.length_eq ((List.perm_ext_iff_of_nodup (nodup.filter _)
      (nodup.sublist part)).mpr fun l => ?_)
    simpa using fun hl => part.subset hl
  have left : held'.length + report.lost.length = held.length := by
    rw [h.kept, ← gone, ← List.countP_eq_length_filter, Nat.add_comm,
      List.length_eq_countP_add_countP (· ∈ report.lost)]
    simp
  exact ⟨sum, by omega⟩

/-- All that is held is refreshed or lost, and what was refreshed is held afterwards. -/
theorem Passed.all {report : RenewalReport} {held' : Held} {db' : Database}
    (h : Passed now held held db report held' db') (nodup : held.Nodup) :
    report.refreshed + report.lost.length = held.length ∧ held' = held.filter db.has ∧
      report.refreshed = held'.length := by
  have lost : report.lost = held.filter fun l => !db.has l := by
    rw [h.lost, eraseDups_of_nodup (nodup.filter _)]
    refine List.filter_congr fun l hl => ?_
    simp [hl]
  have kept : held' = held.filter db.has := by
    rw [h.kept, lost]
    refine List.filter_congr fun l hl => ?_
    simp [hl]
  refine ⟨?_, kept, ?_⟩
  · rw [h.refreshed, lost, ← List.countP_eq_length_filter,
      List.length_eq_countP_add_countP db.has]
    simp
  · rw [h.refreshed, kept, List.countP_eq_length_filter]

end Held

namespace Heartbeat

variable {h : Heartbeat} {w : World} {now : Int}

/-- A tick is a pass over all that is held, also if nothing is. -/
theorem tick_eq (isOpen : h.client.store.Open w) (hnow : w.clock.reading? = some now)
    {entries : List RenewedEntry} {held : Held} {db : Database}
    (hpass : Held.renewAll now h.held h.held (h.client.store.database w) = (entries, held, db)) :
    (h.tick w).1 = (some (.ofEntries entries), { h with held }) ∧
      h.client.store.database (h.tick w).2 = db := by
  by_cases nothing : h.held = []
  · obtain ⟨client, interval, held₀, running, broken⟩ := h
    obtain rfl : held₀ = [] := nothing
    cases hpass
    exact ⟨rfl, rfl⟩
  · obtain ⟨answer, alike⟩ := tick_spec hnow nothing hpass
    refine ⟨answer, ?_⟩
    rw [Store.database_alike _ alike, Store.database_setDatabase isOpen]

/-- A pass by its answers, and what it leaves of the heartbeat. -/
theorem renewBy_fst (h : Heartbeat) (snapshot : List HeldLock)
    (statements : StateM World (List (Except StoreFault Bool))) (w : World) :
    (h.renewBy snapshot statements w).1 =
      (.ofEntries (h.held.concludeAll (snapshot.zip (statements w).1)).1,
        { h with held := (h.held.concludeAll (snapshot.zip (statements w).1)).2 }) := rfl

/-- A pass over any snapshot extends the rows of its entries, the last entry of a row having the
last word, and loses what is held just as in an entry without a row; everything else stays.  An
observer is told of each loss and of the sum.  A tick is such a pass over all that is held.

Where the store fails in the course of the pass, or others change it, a pass goes by the answers to
its statements (`renewAt_eq`): it counts the entries whose statements have moved a deadline, and
loses what is held just as in one of the others. -/
theorem pass_exact (h : Heartbeat) {w : World} (isOpen : h.client.store.Open w)
    (wellFormed : h.held.WellFormed)
    (single : ∀ resource, (h.client.store.database w).Single resource) :
    let db := h.client.store.database w
    (∀ snapshot now, ∃ report held db',
      (h.renewAt snapshot now w).1 = (report, { h with held }) ∧
      h.client.store.database (h.renewAt snapshot now w).2 = db' ∧
      Held.Passed now snapshot h.held db report held db' ∧
      Held.Told now snapshot h.held db report held db') ∧
    (∀ now, w.clock.reading? = some now → ∃ report held db',
      (h.tick w).1 = (some report, { h with held }) ∧
      h.client.store.database (h.tick w).2 = db' ∧
      Held.Passed now h.held h.held db report held db' ∧
      Held.Told now h.held h.held db report held db' ∧
      report.refreshed + report.lost.length = h.held.length ∧
      held = h.held.filter db.has ∧ report.refreshed = held.length) ∧
    ∀ snapshot (statements : StateM World (List (Except StoreFault Bool))), ∃ report held,
      (h.renewBy snapshot statements w).1 = (report, { h with held }) ∧
      Held.Concluded (snapshot.zip (statements w).1) h.held report held ∧
      Held.ToldBy (snapshot.zip (statements w).1) h.held report held ∧
      (snapshot = h.held → (statements w).1.length = h.held.length →
        report.refreshed + report.lost.length = h.held.length ∧
        report.refreshed = held.length) := by
  intro db
  refine ⟨fun snapshot now => ?_, fun now hnow => ?_, fun snapshot statements => ?_⟩
  · have renewed : Held.renewAll now snapshot h.held db = _ := rfl
    obtain ⟨answer, alike⟩ := renewAt_spec renewed
    refine ⟨_, _, _, answer, ?_, Held.renewAll_passed wellFormed single now snapshot,
      Held.renewAll_told now snapshot h.held db⟩
    rw [Store.database_alike _ alike, Store.database_setDatabase isOpen]
  · obtain ⟨answer, left⟩ := tick_eq isOpen hnow rfl
    have passed := Held.renewAll_passed wellFormed single now h.held
    exact ⟨_, _, _, answer, left, passed, Held.renewAll_told now h.held h.held db,
      passed.all wellFormed.nodup⟩
  · have concluded := Held.concludeAll_concluded wellFormed (snapshot.zip (statements w).1)
    refine ⟨_, _, renewBy_fst h snapshot statements w, concluded, Held.concludeAll_told _ _, ?_⟩
    rintro rfl whole
    exact concluded.all whole wellFormed.nodup

/-- A table with a lock of the heartbeat and one that somebody else has taken over. -/
def mingled : Table := ⟨[⟨"a", "m", "o", 5⟩, ⟨"b", "n", "p", 90⟩].map Entry.ofRow, false⟩

/-- A machine that holds the table in its memory, ten milliseconds after the epoch. -/
def mingledWorld : World := { World.new ⟨10000000, 0⟩ with memory := ⟨some mingled⟩ }

/-- A heartbeat that holds one lock of the table, one that was taken over, and a new one. -/
def mingledHeartbeat : Heartbeat :=
  { new ⟨.memory, "m"⟩ (Span.ofMillis 100) with
    held := [⟨"a", "o", Span.ofMillis 50⟩, ⟨"b", "o", Span.ofMillis 50⟩,
      ⟨"c", "o", Span.ofMillis 70⟩] }

/-- A snapshot with repeated entries and one that was replaced since. -/
def mingledSnapshot : List HeldLock :=
  [⟨"a", "o", Span.ofMillis 50⟩, ⟨"b", "o", Span.ofMillis 50⟩, ⟨"b", "o", Span.ofMillis 50⟩,
    ⟨"c", "o", Span.ofMillis 60⟩, ⟨"a", "o", Span.ofMillis 80⟩]

/-- Answers of a store that fails now and then. -/
def mingledReplies : List (Except StoreFault Bool) :=
  [.error .noTable, .ok true, .ok true, .error .noTable, .ok true]

theorem pass_exact_mingled :
    let h := mingledHeartbeat
    let pass := h.renewAt mingledSnapshot 10 mingledWorld
    h.client.store.Open mingledWorld ∧ h.held.WellFormed ∧
    (∀ resource, (h.client.store.database mingledWorld).Single resource) ∧
    pass.1.1 = ⟨2, [⟨"b", "o", Span.ofMillis 50⟩]⟩ ∧
    pass.1.2.held = [⟨"a", "o", Span.ofMillis 50⟩, ⟨"c", "o", Span.ofMillis 70⟩] ∧
    h.client.store.database pass.2 =
      ⟨some ⟨[⟨"a", "m", "o", 90⟩, ⟨"b", "n", "p", 90⟩].map Entry.ofRow, false⟩⟩ ∧
    (h.renewBy mingledSnapshot (pure mingledReplies) mingledWorld).1.1 =
      ⟨3, [⟨"a", "o", Span.ofMillis 50⟩]⟩ := by
  intro h pass
  have isOpen : h.client.store.Open mingledWorld := trivial
  have wellFormed : h.held.WellFormed := by
    show List.Pairwise _ _
    decide +kernel
  have table : mingled.WellFormed := ⟨by decide +kernel, fun e he => by
    obtain ⟨row, -, rfl⟩ := List.mem_map.mp he
    exact ⟨_, rfl⟩⟩
  have single : ∀ resource, (h.client.store.database mingledWorld).Single resource := by
    rintro resource t ⟨⟩
    exact table.single resource
  obtain ⟨passes, -, answered⟩ := pass_exact h isOpen wellFormed single
  obtain ⟨report, held, db', answer, left, ⟨refreshed, lost, kept, moved⟩, -⟩ :=
    passes mingledSnapshot 10
  have lost : report.lost = [⟨"b", "o", Span.ofMillis 50⟩] := lost.trans (by decide +kernel)
  have refreshed : report.refreshed = 2 := refreshed.trans (by decide +kernel)
  rw [lost] at kept
  have answer : pass.1 = (report, { h with held }) := answer
  have left : h.client.store.database pass.2 = db' := left
  rw [answer, left]
  refine ⟨isOpen, wellFormed, single, ?_, kept.trans ?_, moved.trans ?_, ?_⟩
  · rw [← refreshed, ← lost]
  · decide +kernel
  · decide +kernel
  · obtain ⟨report, held, answer, ⟨refreshed, lost, -⟩, -⟩ :=
      answered mingledSnapshot (pure mingledReplies)
    rw [answer]
    have lost : report.lost = [⟨"a", "o", Span.ofMillis 50⟩] := lost.trans (by decide +kernel)
    have refreshed : report.refreshed = 3 := refreshed.trans (by decide +kernel)
    rw [← refreshed, ← lost]

end Heartbeat

end Leasehold

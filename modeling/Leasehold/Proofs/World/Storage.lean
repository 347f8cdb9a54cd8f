import Leasehold.Lock.Client

/-!
# Stores read back what was written

A store that is open (`Store.Open`) reads back the database that was put into it.
For a file this needs that the way to it does not lead through it: only directories
are walked through, and the database is none (`Disk.walk_put`).

Notes in the journal leave clock, disk and memory alone; such worlds are
`World.Alike`, and stores do not tell them apart.
-/

namespace Leasehold

namespace Disk

variable {d : Disk}

/-- A walk goes on as before if something else than a directory is replaced. -/
theorem walk_put {spot goal : List String} {n : Node} (hspot : d.node? spot ≠ some .directory)
    (components here : List String) (h : d.walk here components = .ok goal) :
    (d.put spot n).walk here components = .ok goal := by
  induction components generalizing here with
  | nil => exact h
  | cons c cs ih =>
    have kept : d.node? here = some .directory → (d.put spot n).node? here = some .directory := by
      intro hdir
      by_cases hroot : here = []
      · simp [node?, hroot]
      · have hne : spot ≠ here := fun heq => hspot (heq ▸ hdir)
        rw [node?_put d spot here n hroot, if_neg hne]
        exact hdir
    unfold walk at h ⊢
    split at h
    · rename_i hdir
      rw [kept hdir]
      dsimp only
      split at h
      · cases h
      · rename_i hshort
        rw [if_neg hshort]
        exact ih _ h
    · cases h
    · cases h

theorem place_put {spot goal : List String} {n : Node} {path : String}
    (hspot : d.node? spot ≠ some .directory) (h : d.place path = .ok goal) :
    (d.put spot n).place path = .ok goal := by
  unfold place at h ⊢
  split at h
  · cases h
  · rename_i hnul
    rw [if_neg hnul]
    split at h
    · cases h
    · rename_i hlong
      rw [if_neg hlong]
      exact walk_put hspot _ _ h

theorem lookUp_eq_ok_iff {path : String} {n : Node} :
    d.lookUp path = .ok n ↔ ∃ spot, d.place path = .ok spot ∧ d.node? spot = some n := by
  unfold lookUp
  cases d.place path with
  | error f => simp
  | ok spot => cases hnode : d.node? spot <;> simp [hnode]

/-- What is put under the place of a path is found there. -/
theorem lookUp_put {spot : List String} {path : String} {n : Node}
    (hspot : d.node? spot ≠ some .directory) (h : d.place path = .ok spot) :
    (d.put spot n).lookUp path = .ok n := by
  have hroot : spot ≠ [] := by
    rintro rfl
    exact hspot rfl
  refine lookUp_eq_ok_iff.mpr ⟨spot, place_put hspot h, ?_⟩
  rw [node?_put d spot spot n hroot, if_pos rfl]

/-- What a path leads to is not touched by something new elsewhere. -/
theorem lookUp_put_new {spot : List String} {path : String} {n m : Node}
    (new : d.node? spot = none) (h : d.lookUp path = .ok m) :
    (d.put spot n).lookUp path = .ok m := by
  obtain ⟨goal, hplace, hnode⟩ := lookUp_eq_ok_iff.mp h
  refine lookUp_eq_ok_iff.mpr ⟨goal, place_put (by rw [new]; nofun) hplace, ?_⟩
  by_cases hroot : goal = []
  · rw [hroot] at hnode ⊢
    exact hnode
  · rw [node?_put d spot goal n hroot, if_neg, hnode]
    rintro rfl
    rw [new] at hnode
    cases hnode

/-- A database that is there is replaced by the one that is put. -/
theorem lookUp_putDatabase {path : String} {old : Database}
    (h : d.lookUp path = .ok (.database old)) (new : Database) :
    (d.putDatabase path new).lookUp path = .ok (.database new) := by
  obtain ⟨spot, hplace, hnode⟩ := lookUp_eq_ok_iff.mp h
  unfold putDatabase
  rw [hplace]
  exact lookUp_put (by rw [hnode]; nofun) hplace

end Disk

namespace World

/-- The clock, the disk and the memory are the same. -/
structure Alike (w w' : World) : Prop where
  clock : w'.clock = w.clock
  disk : w'.disk = w.disk
  memory : w'.memory = w.memory

variable {w w' w'' : World}

theorem Alike.refl (w : World) : w.Alike w := ⟨rfl, rfl, rfl⟩

theorem Alike.trans (h : w.Alike w') (h' : w'.Alike w'') : w.Alike w'' :=
  ⟨h'.clock.trans h.clock, h'.disk.trans h.disk, h'.memory.trans h.memory⟩

/-- A note is no more than a note. -/
theorem alike_note (r : LogRecord) (w : World) : w.Alike (Journal.note r w) := ⟨rfl, rfl, rfl⟩

end World

namespace Store

variable {s : Store} {w w' : World}

/-- The database of the store can be reached. -/
def Open (w : World) : Store → Prop
  | memory => True
  | file path => ∃ db, w.disk.lookUp path = .ok (.database db)

theorem database_setDatabase (h : s.Open w) (db : Database) :
    s.database (s.setDatabase w db) = db := by
  cases s with
  | memory => rfl
  | file path =>
    obtain ⟨old, hold⟩ := h
    simp [database, setDatabase, Disk.database, Disk.lookUp_putDatabase hold db]

theorem Open.setDatabase (h : s.Open w) (db : Database) : s.Open (s.setDatabase w db) := by
  cases s with
  | memory => trivial
  | file path =>
    obtain ⟨old, hold⟩ := h
    exact ⟨db, Disk.lookUp_putDatabase hold db⟩

@[simp] theorem clock_setDatabase (s : Store) (w : World) (db : Database) :
    (s.setDatabase w db).clock = w.clock := by
  cases s <;> rfl

theorem Open.alike (h : s.Open w) (alike : w.Alike w') : s.Open w' := by
  cases s with
  | memory => trivial
  | file path =>
    obtain ⟨db, hdb⟩ := h
    exact ⟨db, alike.disk ▸ hdb⟩

theorem database_alike (s : Store) (alike : w.Alike w') : s.database w' = s.database w := by
  cases s with
  | memory => exact alike.memory
  | file path =>
    show w'.disk.database path = w.disk.database path
    rw [alike.disk]

/-- The store is open, and it holds a database at the time that a clock shows. -/
structure Holds (s : Store) (clock : Clock) (db : Database) (w : World) : Prop where
  isOpen : s.Open w
  clock_eq : w.clock = clock
  database_eq : s.database w = db

variable {clock : Clock} {db : Database} {α : Type}

theorem Holds.alike (h : s.Holds clock db w) (alike : w.Alike w') : s.Holds clock db w' :=
  ⟨h.isOpen.alike alike, alike.clock.trans h.clock_eq,
    (database_alike s alike).trans h.database_eq⟩

theorem Holds.setDatabase (h : s.Holds clock db w) (db' : Database) :
    s.Holds clock db' (s.setDatabase w db') :=
  ⟨h.isOpen.setDatabase db', (clock_setDatabase s w db').trans h.clock_eq,
    database_setDatabase h.isOpen db'⟩

/-- A statement is answered from the database, and leaves another one in its place. -/
theorem Holds.demand (h : s.Holds clock db w) (statement : Database → Database.Reply α) :
    (s.demand statement w).1 = (statement db).1.mapError StoreFault.toFault ∧
      s.Holds clock (statement db).2 (s.demand statement w).2 := by
  simp only [Store.demand, Store.put, bind, StateT.bind, pure, h.database_eq]
  exact ⟨rfl, h.setDatabase _⟩

end Store

end Leasehold

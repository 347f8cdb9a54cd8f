import Leasehold.Proofs.World.Programs
import Leasehold.Proofs.World.Storage

/-!
# What the opening of a database does to the disk

Directories are made where nothing was, so that what a path leads to stays where it is
(`Disk.lookUp_makeAll`), and a database is made only where there is none.  A store that
was opened can therefore be reached, and it holds what was in the database before
(`Store.openFile_keeps`).  Notes do not bear on the opening (`Store.openFile_alike`).
-/

namespace Leasehold

open Program

namespace Disk

variable {d d' : Disk} {path other : String} {n : Node}

theorem lookUp_makeDirectory (h : d.lookUp path = .ok n) (made : d.makeDirectory other = .ok d') :
    d'.lookUp path = .ok n := by
  unfold makeDirectory at made
  split at made
  · split at made
    · cases made
    · rename_i new
      cases made
      exact lookUp_put_new new h
  · cases made

/-- A directory is made, or it is there already. -/
theorem lookUp_ensure (other : String) (h : d.lookUp path = .ok n)
    (made : (match d.makeDirectory other with
      | .ok d => .ok d
      | .error f => if d.isDirectory other then .ok d else .error f) = Except.ok d') :
    d'.lookUp path = .ok n := by
  cases one : d.makeDirectory other with
  | ok d₁ =>
    rw [one] at made
    cases made
    exact lookUp_makeDirectory h one
  | error f =>
    rw [one] at made
    dsimp only at made
    split at made
    · cases made
      exact h
    · cases made

theorem lookUp_makeAll (levels : Nat) (h : d.lookUp path = .ok n)
    (made : d.makeAll levels other = .ok d') : d'.lookUp path = .ok n := by
  induction levels generalizing d d' other with
  | zero =>
    rw [makeAll] at made
    split at made
    · cases made
      exact h
    · refine lookUp_ensure other h ?_
      cases one : d.makeDirectory other with
      | ok d₁ => rw [one] at made; exact made
      | error f => rw [one] at made; cases f <;> exact made
  | succ levels ih =>
    rw [makeAll] at made
    split at made
    · cases made
      exact h
    · cases one : d.makeDirectory other with
      | ok d₁ =>
        rw [one] at made
        cases made
        exact lookUp_makeDirectory h one
      | error f =>
        rw [one] at made
        cases f with
        | notFound =>
          dsimp only at made
          cases hparent : Path.parent other with
          | none => rw [hparent] at made; cases made
          | some above =>
            rw [hparent] at made
            dsimp only at made
            cases habove : d.makeAll levels above with
            | ok d₁ =>
              rw [habove] at made
              exact lookUp_ensure other (ih h habove) made
            | error f => rw [habove] at made; cases made
        | alreadyThere | notADirectory | isADirectory | nameTooLong | invalidName =>
          exact lookUp_ensure other h (by rw [one]; exact made)

theorem openDatabase_of_database {db : Database} (h : d.lookUp path = .ok (.database db))
    (opened : d.openDatabase path = .ok d') : d' = d := by
  obtain ⟨spot, hplace, hnode⟩ := lookUp_eq_ok_iff.mp h
  rw [openDatabase, hplace] at opened
  dsimp only at opened
  split at opened
  · cases opened
  · rw [hnode] at opened
    cases opened
    rfl

/-- What was opened can be reached. -/
theorem lookUp_openDatabase (opened : d.openDatabase path = .ok d') :
    ∃ db, d'.lookUp path = .ok (.database db) := by
  cases hplace : d.place path with
  | error f => rw [openDatabase, hplace] at opened; cases opened
  | ok spot =>
    rw [openDatabase, hplace] at opened
    dsimp only at opened
    split at opened
    · cases opened
    · cases hnode : d.node? spot with
      | none =>
        rw [hnode] at opened
        cases opened
        exact ⟨_, lookUp_put (by rw [hnode]; nofun) hplace⟩
      | some n =>
        rw [hnode] at opened
        cases n with
        | directory => cases opened
        | database db =>
          cases opened
          exact ⟨db, lookUp_eq_ok_iff.mpr ⟨spot, hplace, hnode⟩⟩
        | file text =>
          dsimp only at opened
          split at opened
          · cases opened
            exact ⟨_, lookUp_put (by rw [hnode]; nofun) hplace⟩
          · cases opened

end Disk

namespace Store

variable {path : String} {busyTimeout : Span} {store : Store} {w w' : World}

/-- The directories above a file are made without regard to anything but the disk. -/
theorem makeParent_alike (path : String) (alike : w.Alike w') :
    (makeParent path w').1 = (makeParent path w).1 ∧
      (makeParent path w).2.Alike (makeParent path w').2 := by
  unfold makeParent
  rw [alike.disk]
  cases Path.parent path with
  | none => exact ⟨rfl, alike⟩
  | some above =>
    dsimp only
    split
    · exact ⟨rfl, alike⟩
    · cases w.disk.makeDirectories above with
      | ok disk => exact ⟨rfl, alike.clock, rfl, alike.memory⟩
      | error f => exact ⟨rfl, alike⟩

/-- Nothing gets lost when the directories above a file are made. -/
theorem makeParent_spec (made : (makeParent path w).1 = .ok ()) :
    ∃ disk, (makeParent path w).2 = { w with disk } ∧
      ∀ other n, w.disk.lookUp other = .ok n → disk.lookUp other = .ok n := by
  unfold makeParent at made ⊢
  cases hparent : Path.parent path with
  | none => exact ⟨w.disk, rfl, fun _ _ h => h⟩
  | some above =>
    rw [hparent] at made
    dsimp only at made ⊢
    cases hempty : above.isEmpty with
    | true => exact ⟨w.disk, by rw [if_pos rfl], fun _ _ h => h⟩
    | false =>
      rw [hempty, if_neg Bool.false_ne_true] at made
      rw [if_neg Bool.false_ne_true]
      cases hmade : w.disk.makeDirectories above with
      | ok disk => exact ⟨disk, rfl, fun _ _ h => Disk.lookUp_makeAll _ h hmade⟩
      | error f => rw [hmade] at made; cases made

/-- A file is opened without regard to anything but the disk. -/
theorem openFile_alike (path : String) (busyTimeout : Span) (alike : w.Alike w') :
    (openFile path busyTimeout w').1 = (openFile path busyTimeout w).1 ∧
      (openFile path busyTimeout w).2.Alike (openFile path busyTimeout w').2 := by
  obtain ⟨answer, parents⟩ := makeParent_alike path alike
  rw [openFile, bind_at, bind_at, answer]
  generalize (makeParent path w).2 = u, (makeParent path w').2 = u' at parents ⊢
  cases (makeParent path w).1 with
  | error f => exact ⟨rfl, parents⟩
  | ok _ =>
    simp only [bind_at, get_at, parents.disk]
    generalize decide (longestBusyTimeout < busyTimeout.millis) = long
    cases u.disk.openDatabase path with
    | error f => cases f <;> cases long <;> exact ⟨rfl, parents⟩
    | ok disk =>
      cases long with
      | true => exact ⟨rfl, parents⟩
      | false => exact ⟨rfl, parents.clock, rfl, parents.memory⟩

/-- What there is to know of an opening that came to an answer. -/
theorem openFile_eq_answer (opened : (openFile path busyTimeout w).1 = .answer store) :
    store = .file path ∧ ∃ made disk : Disk, made.openDatabase path = .ok disk ∧
      (∀ other n, w.disk.lookUp other = .ok n → made.lookUp other = .ok n) ∧
      World.Alike { w with disk } (openFile path busyTimeout w).2 := by
  have parents := @makeParent_spec path w
  rw [openFile, bind_at] at opened ⊢
  cases hmade : (makeParent path w).1 with
  | error f =>
    rw [hmade] at opened
    cases opened
  | ok _ =>
    obtain ⟨made, hu, kept⟩ := parents hmade
    rw [hmade, hu] at opened
    rw [hu]
    simp only [bind_at, get_at] at opened ⊢
    generalize decide (longestBusyTimeout < busyTimeout.millis) = long at opened ⊢
    cases hopen : made.openDatabase path with
    | error f => rw [hopen] at opened; cases f <;> cases long <;> cases opened
    | ok disk =>
      rw [hopen] at opened
      cases long with
      | true => cases opened
      | false =>
        cases opened
        exact ⟨rfl, made, disk, hopen, kept, rfl, rfl, rfl⟩

/-- A store that was opened can be reached, at the same time as before. -/
theorem openFile_spec (opened : (openFile path busyTimeout w).1 = .answer store) :
    store = .file path ∧ ∃ db, store.Holds w.clock db (openFile path busyTimeout w).2 := by
  obtain ⟨rfl, made, disk, hopen, -, alike⟩ := openFile_eq_answer opened
  obtain ⟨db, hdb⟩ := Disk.lookUp_openDatabase hopen
  have reached : Open { w with disk } (.file path) := ⟨db, hdb⟩
  exact ⟨rfl, _, reached.alike alike, alike.clock, rfl⟩

/-- The opening leaves a database that is there as it was. -/
theorem openFile_keeps {db : Database} (h : w.disk.lookUp path = .ok (.database db))
    (opened : (openFile path busyTimeout w).1 = .answer store) :
    store.database (openFile path busyTimeout w).2 = db := by
  obtain ⟨rfl, made, disk, hopen, kept, alike⟩ := openFile_eq_answer opened
  have same := Disk.openDatabase_of_database (kept path _ h) hopen
  rw [database_alike _ alike]
  show disk.database path = db
  rw [same, Disk.database, kept path _ h]

end Store

end Leasehold

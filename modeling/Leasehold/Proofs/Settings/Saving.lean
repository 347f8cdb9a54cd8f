import Leasehold.Proofs.Settings.Entries
import Leasehold.Proofs.World.Programs
import Leasehold.Proofs.World.Storage

/-!
# Saved settings are loaded again

What `Settings.save` does is one of four things (`Saving`): the directory of the file cannot be
made, a number is beyond what a document can say, the file cannot be written, or it is written.
After the last one the file holds the document, whatever stood there before (`file_of_save`),
and with no variable set over it `Settings.load` gives the settings again, with the bound on
waiting cut to whole seconds (`load_of_save`).

The directory is made before the document is put together.  So a number that is out of reach is
the fault that is reported only where the directory can be made.
-/

namespace Leasehold

open Program

namespace Settings

variable {s : Settings} {w : World}

/-! ## What saving does -/

/-- The file can be written: its directory can be made, and no directory stands in its place. -/
def Writable (s : Settings) (d : Disk) : Prop :=
  ∃ d', s.makeHome d = .ok d' ∧
    ∃ spot, d'.place (path s.home) = .ok spot ∧ d'.node? spot ≠ some .directory

/-- What became of the settings, with the disk and the environment after it. -/
inductive Saving (s : Settings) (w : World) : Except Fault Unit → World → Prop where
  | noHome {f : Fault} (home : s.makeHome w.disk = .error f) : Saving s w (.error f) w
  | outOfReach {d : Disk} {w' : World} {t : String} (home : s.makeHome w.disk = .ok d)
      (document : s.locking.document? = none) : Saving s w (.error (.configuration t)) w'
  | unwritable {d : Disk} {w' : World} {text : String} {f : DiskFault}
      (home : s.makeHome w.disk = .ok d) (document : s.locking.document? = some text)
      (write : d.writeText (path s.home) text = .error f) :
      Saving s w (.error (.inputOutput f.message)) w'
  | written {d d' : Disk} {w' : World} {text : String} (home : s.makeHome w.disk = .ok d)
      (document : s.locking.document? = some text)
      (write : d.writeText (path s.home) text = .ok d') (disk : w'.disk = d')
      (environment : w'.environment = w.environment) : Saving s w (.ok ()) w'

theorem saving_save (s : Settings) (w : World) : Saving s w (s.save w).1 (s.save w).2 := by
  rw [save, bind_at, get_at]
  dsimp only
  cases home : s.makeHome w.disk with
  | error f => exact .noHome home
  | ok d =>
    dsimp only
    rw [bind_at, modify_at]
    dsimp only
    cases document : s.locking.document? with
    | none => exact .outOfReach home document
    | some text =>
      dsimp only
      cases write : d.writeText (path s.home) text with
      | error f => exact .unwritable home document write
      | ok d' => exact .written home document write rfl rfl

/-! ## What is loaded -/

theorem load_eq (home : String) (w : World) :
    (load home w).1 = ofLayers home (fileLayer? home w.disk) w.environment := by
  rw [load, bind_at, get_at]
  dsimp only
  cases w.disk.lookUp (path home) <;> rfl

/-- A lock database in the place of the file is no document. -/
theorem load_of_database {home : String} {w : World} {db : Database}
    (there : w.disk.lookUp (path home) = .ok (.database db)) :
    (load home w).1 =
      .error (.configuration "Failed to load config: the file is no TOML document") := by
  have noDocument : Toml.document? (String.ofList
      (Toml.dropByteOrderMark Disk.databaseHeader.toList)) = none := by decide +kernel
  rw [load_eq, fileLayer?, Disk.readText, there]
  dsimp only
  rw [noDocument]
  rfl

theorem fileLayer?_document {l : LockSettings} {home : String} {d : Disk} (reach : l.InReach)
    (file : d.readText (path home) = .ok l.writeDocument) :
    fileLayer? home d = some (Setting.ofTomlMembers
      [("locking", .table (l.entries.map fun e => (e.name, e.value)))]) := by
  have noMark : Toml.dropByteOrderMark l.writeDocument.toList = l.writeDocument.toList := by
    rw [LockSettings.writeDocument_eq]
    exact Toml.dropByteOrderMark_sectionText _ _
  rw [fileLayer?, file]
  simp only [noMark, String.ofList_toList, LockSettings.document?_writeDocument reach,
    Option.map_some]

/-- The bound on waiting is never refused. -/
theorem validate_waitBound (l : LockSettings) (b : WaitBound) :
    { l with waitBound := b }.validate = l.validate := rfl

theorem load_document {l : LockSettings} {home : String} {w : World} (reach : l.InReach)
    (valid : l.validate = .ok ()) (unset : ∀ v ∈ w.environment, Setting.variablePath? v.1 = none)
    (file : w.disk.readText (path home) = .ok l.writeDocument) :
    (load home w).1 = .ok ⟨home, { l with waitBound := l.waitBound.wholeSeconds }⟩ := by
  rw [load_eq, fileLayer?_document reach file, ofLayers, Setting.ofEnvironment_eq_nil unset,
    List.append_nil, LockSettings.ofTree?_document]
  simp only [validate_waitBound, valid]
  rfl

end Settings

namespace Disk

theorem writeText_ok {d : Disk} {path : String} {spot : List String} (text : String)
    (place : d.place path = .ok spot) (noDirectory : d.node? spot ≠ some .directory) :
    d.writeText path text = .ok (d.put spot (.file text)) := by
  unfold writeText
  rw [place]
  dsimp only
  split
  · rename_i h
    exact absurd h noDirectory
  · rfl

theorem readText_of_writeText {d d' : Disk} {path text : String}
    (h : d.writeText path text = .ok d') : d'.readText path = .ok text := by
  unfold writeText at h
  split at h
  · rename_i spot place
    split at h
    · cases h
    · rename_i noDirectory
      cases h
      rw [readText, lookUp_put noDirectory place]
  · cases h

end Disk

theorem WaitBound.wholeSeconds_eq_self_iff {b : WaitBound} :
    b.wholeSeconds = b ↔ ∀ d, b = .finite d → d.subsecNanos = 0 := by
  cases b with
  | infinite => simp [wholeSeconds]
  | finite d =>
    have word : d.seconds64.toNat = d.seconds := by
      have := d.seconds_lt
      simp [Span.seconds64, Nat.mod_eq_of_lt this]
    have same : wholeSeconds (.finite d) = .finite d ↔ d.seconds * 1000000000 = d.nanos := by
      rw [wholeSeconds, ofSeconds, WaitBound.finite.injEq, Span.ext_iff, Span.nanos_ofSeconds, word]
    rw [same]
    simp only [WaitBound.finite.injEq, forall_eq', Span.subsecNanos, Span.seconds]
    omega

namespace Settings

/-! ## Saving and loading -/

theorem save_ok {s : Settings} {w : World} (reach : s.locking.InReach)
    (writable : s.Writable w.disk) : (s.save w).1 = .ok () := by
  obtain ⟨d, hd, spot, place, noDirectory⟩ := writable
  have saving := saving_save s w
  generalize s.save w = r at saving ⊢
  obtain ⟨answer, w'⟩ := r
  cases saving with
  | noHome home => rw [hd] at home; cases home
  | outOfReach home document => exact absurd reach (LockSettings.document?_eq_none_iff.mp document)
  | unwritable home document write =>
    rw [hd] at home
    cases home
    rw [Disk.writeText_ok _ place noDirectory] at write
    cases write
  | written => rfl

theorem save_outOfReach {s : Settings} {w : World} {d : Disk} (outOfReach : ¬s.locking.InReach)
    (hd : s.makeHome w.disk = .ok d) : ∃ t, (s.save w).1 = .error (.configuration t) := by
  have saving := saving_save s w
  generalize s.save w = r at saving ⊢
  obtain ⟨answer, w'⟩ := r
  cases saving with
  | noHome home => rw [hd] at home; cases home
  | outOfReach => exact ⟨_, rfl⟩
  | unwritable _ document | written _ document =>
    exact absurd (LockSettings.document?_eq_some_iff.mp document).1 outOfReach

/-- Behind settings that were saved stands their document. -/
theorem file_of_save {s : Settings} {w : World} (saved : (s.save w).1 = .ok ()) :
    s.locking.InReach ∧ (s.save w).2.environment = w.environment ∧
      (s.save w).2.disk.readText (path s.home) = .ok s.locking.writeDocument := by
  have saving := saving_save s w
  generalize s.save w = r at saving saved ⊢
  obtain ⟨answer, w'⟩ := r
  cases saving with
  | noHome | outOfReach | unwritable => cases saved
  | written home document write disk environment =>
    obtain ⟨reach, rfl⟩ := LockSettings.document?_eq_some_iff.mp document
    exact ⟨reach, environment, disk ▸ Disk.readText_of_writeText write⟩

theorem load_of_save {s : Settings} {w : World} (valid : s.locking.validate = .ok ())
    (unset : ∀ v ∈ w.environment, Setting.variablePath? v.1 = none)
    (saved : (s.save w).1 = .ok ()) :
    (load s.home (s.save w).2).1 =
      .ok ⟨s.home, { s.locking with waitBound := s.locking.waitBound.wholeSeconds }⟩ := by
  obtain ⟨reach, environment, file⟩ := file_of_save saved
  exact load_document reach valid (environment ▸ unset) file

/-- Settings can be saved if their numbers are within reach and their file can be written; a
number out of reach is reported if the directory of the file can be made.  Settings that were
saved are loaded again, but for the part of a second in the bound on waiting. -/
theorem load_after_save (s : Settings) (w : World) (valid : s.locking.validate = .ok ())
    (unset : ∀ v ∈ w.environment, Setting.variablePath? v.1 = none) :
    (s.locking.InReach → s.Writable w.disk → (s.save w).1 = .ok ()) ∧
    (¬s.locking.InReach → (∃ d, s.makeHome w.disk = .ok d) →
      ∃ t, (s.save w).1 = .error (.configuration t)) ∧
    ((s.save w).1 = .ok () →
      (load s.home (s.save w).2).1 =
        .ok ⟨s.home, { s.locking with waitBound := s.locking.waitBound.wholeSeconds }⟩ ∧
      ((load s.home (s.save w).2).1 = .ok s ↔
        ∀ d, s.locking.waitBound = .finite d → d.subsecNanos = 0)) := by
  refine ⟨save_ok, fun outOfReach ⟨d, hd⟩ => save_outOfReach outOfReach hd, fun saved => ?_⟩
  have loaded := load_of_save valid unset saved
  refine ⟨loaded, ?_⟩
  rw [loaded, ← WaitBound.wholeSeconds_eq_self_iff]
  constructor
  · intro same
    exact congrArg (·.locking.waitBound) (Except.ok.inj same)
  · intro whole
    rw [whole]

/-- Settings with a host of all that has to be escaped, and a bound with a part of a second. -/
def odd : Settings where
  home := "/srv"
  locking := { LockSettings.standard with
    host := some "a'''b\"\"\"\\c\n\r\t\x00\x7f\""
    waitBound := .finite (Span.ofMillis 1500) }

/-- A machine with an empty disk and variables that are no settings. -/
def oddWorld : World :=
  { World.new ⟨0, 0⟩ with environment := [("HOME", "/root"), ("DISTLOCK", "1")] }

theorem load_after_save_odd :
    (odd.locking.validate = .ok () ∧
      (∀ v ∈ oddWorld.environment, Setting.variablePath? v.1 = none) ∧
      odd.locking.InReach ∧ odd.Writable oddWorld.disk) ∧
    (odd.save oddWorld).1 = .ok () ∧
    (load "/srv" (odd.save oddWorld).2).1 =
      .ok ⟨"/srv", { odd.locking with waitBound := .ofSeconds 1 }⟩ ∧
    (load "/srv" (odd.save oddWorld).2).1 ≠ .ok odd := by
  have valid : odd.locking.validate = .ok () := rfl
  have unset : ∀ v ∈ oddWorld.environment, Setting.variablePath? v.1 = none := by decide +kernel
  have reach : odd.locking.InReach := by unfold LockSettings.InReach; decide +kernel
  have writable : odd.Writable oddWorld.disk := by
    refine ⟨oddWorld.disk.put ["srv"] .directory, ?_, ["srv", "config.toml"], ?_, ?_⟩
    · rfl
    · rfl
    · nofun
  obtain ⟨save, -, load⟩ := load_after_save odd oddWorld valid unset
  have saved := save reach writable
  obtain ⟨loaded, same⟩ := load saved
  refine ⟨⟨valid, unset, reach, writable⟩, saved, loaded, fun h => ?_⟩
  exact absurd (same.mp h _ rfl) (by decide)

end Settings

end Leasehold

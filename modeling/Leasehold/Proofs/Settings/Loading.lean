import Leasehold.Proofs.Settings.Layers
import Leasehold.Proofs.Settings.Saving

/-!
# Loading field by field

What `Settings.load` makes of a file and an environment (`load_layered`).  Of each field one
value counts, that of its variable or else that of the file (`Settings.winning`).  A value that
does not fit its field is a fault, and so is a flaw of what all values make.  Otherwise each field
is what was made of its value, or the standard one where there is none.

Between the layers and the fields stands the tree.  What it says of locking differs from the
values that count in one thing only: a table in it was assigned to a place with nothing in it.
No field takes a table, so no field sees the difference (`Setting.field_overlay`).
-/

namespace Leasehold

namespace Setting

/-! ## What a field makes of its value -/

/-- What a field makes of its value, or the standard one if it has none. -/
def Makes {α : Type} (convert : Setting → Option α) (standard : α) (value : Option Setting)
    (a : α) : Prop :=
  value.elim (some standard) convert = some a

/-- The members of a tree say what the values say. -/
def Overlay (ms : Toml.Members Setting) (value : String → Option Setting) : Prop :=
  ∀ field ∈ LockSettings.fieldNames, ms.get? field = (value field).map (assign · .absent)

/-- A conversion that takes no table. -/
def TakesNoTable {α : Type} (convert : Setting → Option α) : Prop :=
  ∀ ms, convert (.table ms) = none

variable {α : Type} {convert : Setting → Option α} {standard : α}

instance [DecidableEq α] (value : Option Setting) (a : α) :
    Decidable (Makes convert standard value a) := inferInstanceAs (Decidable (_ = _))

theorem Makes.unique {value : Option Setting} {a b : α} (ha : Makes convert standard value a)
    (hb : Makes convert standard value b) : a = b :=
  Option.some.inj (ha.symm.trans hb)

theorem exists_makes_iff {value : Option Setting} :
    (∃ a, Makes convert standard value a) ↔ ∀ v ∈ value, (convert v).isSome := by
  cases value with
  | none => simp [Makes]
  | some v => simp [Makes, Option.isSome_iff_exists]

/-- Only of a table something else is left when it is assigned to nothing. -/
theorem TakesNoTable.convert_assign (h : TakesNoTable convert) (v : Setting) :
    convert (assign v .absent) = convert v := by
  cases v with
  | table ms => exact (h _).trans (h ms).symm
  | absent | text | integer | real | bool | list => rfl

theorem field_overlay {ms : Toml.Members Setting} {name : String} {value : Option Setting}
    (there : ms.get? name = value.map (assign · .absent)) (flat : TakesNoTable convert) :
    field ms name standard convert = value.elim (some standard) convert := by
  rw [field, there]
  cases value with
  | none => rfl
  | some v => exact flat.convert_assign v

/-- A value of the kind that a field takes. -/
def fits (field : String) (v : Setting) : Bool :=
  if field = "database" ∨ field = "host" then (optional toText? v).isSome
  else if field = "lock_wait_timeout" then v.toBound?.isSome
  else if field = "purge_on_start" then v.toBool?.isSome
  else if field = "default_hold_secs" ∨ field = "busy_timeout_ms" then v.toUnsigned?.isSome
  else (optional toUnsigned? v).isSome

end Setting

namespace LockSettings

open Setting

/-- The settings that values make, one for each field. -/
structure Made (value : String → Option Setting) (l : LockSettings) : Prop where
  database : Makes (optional toText?) none (value "database") l.database
  host : Makes (optional toText?) none (value "host") l.host
  defaultHold : Makes toUnsigned? 60 (value "default_hold_secs") l.defaultHold
  heartbeat : Makes (optional toUnsigned?) none (value "heartbeat_interval_secs") l.heartbeat
  waitBound : Makes toBound? (.ofSeconds 30) (value "lock_wait_timeout") l.waitBound
  busyTimeout : Makes toUnsigned? 5000 (value "busy_timeout_ms") l.busyTimeout
  purgeOnStart : Makes toBool? true (value "purge_on_start") l.purgeOnStart
  purgeGrace : Makes (optional toUnsigned?) none (value "purge_grace_secs") l.purgeGrace

variable {ms : Toml.Members Setting} {value : String → Option Setting} {l : LockSettings}

theorem Made.unique {l' : LockSettings} (h : Made value l) (h' : Made value l') : l = l' := by
  cases l
  cases l'
  congr
  · exact h.database.unique h'.database
  · exact h.host.unique h'.host
  · exact h.defaultHold.unique h'.defaultHold
  · exact h.heartbeat.unique h'.heartbeat
  · exact h.waitBound.unique h'.waitBound
  · exact h.busyTimeout.unique h'.busyTimeout
  · exact h.purgeOnStart.unique h'.purgeOnStart
  · exact h.purgeGrace.unique h'.purgeGrace

/-- Values make settings if each fits its field. -/
theorem exists_made_iff :
    (∃ l, Made value l) ↔ ∀ field ∈ fieldNames, ∀ v ∈ value field, fits field v := by
  simp only [fieldNames, List.forall_mem_cons, List.not_mem_nil, false_imp_iff, implies_true,
    and_true]
  constructor
  · rintro ⟨l, made⟩
    exact ⟨exists_makes_iff.mp ⟨_, made.database⟩, exists_makes_iff.mp ⟨_, made.host⟩,
      exists_makes_iff.mp ⟨_, made.defaultHold⟩, exists_makes_iff.mp ⟨_, made.heartbeat⟩,
      exists_makes_iff.mp ⟨_, made.waitBound⟩, exists_makes_iff.mp ⟨_, made.busyTimeout⟩,
      exists_makes_iff.mp ⟨_, made.purgeOnStart⟩, exists_makes_iff.mp ⟨_, made.purgeGrace⟩⟩
  · rintro ⟨h1, h2, h3, h4, h5, h6, h7, h8⟩
    obtain ⟨database, h1⟩ := exists_makes_iff.mpr h1
    obtain ⟨host, h2⟩ := exists_makes_iff.mpr h2
    obtain ⟨defaultHold, h3⟩ := exists_makes_iff.mpr h3
    obtain ⟨heartbeat, h4⟩ := exists_makes_iff.mpr h4
    obtain ⟨waitBound, h5⟩ := exists_makes_iff.mpr h5
    obtain ⟨busyTimeout, h6⟩ := exists_makes_iff.mpr h6
    obtain ⟨purgeOnStart, h7⟩ := exists_makes_iff.mpr h7
    obtain ⟨purgeGrace, h8⟩ := exists_makes_iff.mpr h8
    exact ⟨⟨database, host, defaultHold, heartbeat, waitBound, busyTimeout, purgeOnStart,
      purgeGrace⟩, h1, h2, h3, h4, h5, h6, h7, h8⟩

theorem ofMembers?_eq_some_iff (overlay : Overlay ms value) :
    ofMembers? ms = some l ↔ Made value l := by
  simp only [Overlay, fieldNames, List.forall_mem_cons, List.not_mem_nil, false_imp_iff,
    implies_true, and_true] at overlay
  obtain ⟨database, host, defaultHold, heartbeat, waitBound, busyTimeout, purgeOnStart,
    purgeGrace⟩ := overlay
  have text : TakesNoTable (optional toText?) := fun _ => rfl
  have span : TakesNoTable (optional toUnsigned?) := fun _ => rfl
  have number : TakesNoTable toUnsigned? := fun _ => rfl
  have bound : TakesNoTable toBound? := fun _ => rfl
  have truth : TakesNoTable toBool? := fun _ => rfl
  simp only [ofMembers?, standard, field_overlay database text, field_overlay host text,
    field_overlay defaultHold number, field_overlay heartbeat span, field_overlay waitBound bound,
    field_overlay busyTimeout number, field_overlay purgeOnStart truth,
    field_overlay purgeGrace span, Option.bind_eq_bind, Option.bind_eq_some_iff]
  constructor
  · rintro ⟨a1, h1, a2, h2, a3, h3, a4, h4, a5, h5, a6, h6, a7, h7, a8, h8, same⟩
    obtain rfl := Option.some.inj same
    exact ⟨h1, h2, h3, h4, h5, h6, h7, h8⟩
  · rintro ⟨h1, h2, h3, h4, h5, h6, h7, h8⟩
    exact ⟨_, h1, _, h2, _, h3, _, h4, _, h5, _, h6, _, h7, _, h8, rfl⟩

/-- No settings are made of the members exactly if a value does not fit its field. -/
theorem ofMembers?_eq_none_iff (overlay : Overlay ms value) :
    ofMembers? ms = none ↔ ∃ field ∈ fieldNames, ∃ v ∈ value field, fits field v = false := by
  have made : (∃ l, ofMembers? ms = some l) ↔
      ∀ field ∈ fieldNames, ∀ v ∈ value field, fits field v := by
    simp only [ofMembers?_eq_some_iff overlay, exists_made_iff]
  rw [← Option.isSome_iff_exists] at made
  rw [← Option.not_isSome_iff_eq_none, made]
  simp only [not_forall, exists_prop, Bool.not_eq_true]

theorem ofTree?_of_tabled {tree : Setting} (h : Tabled tree) :
    ofTree? tree = ofMembers? (lockMembers tree) := by
  unfold ofTree? lockMembers
  cases there : tree.members.get? "locking" with
  | none => rfl
  | some v =>
    obtain ⟨ms, rfl⟩ := h v there
    rfl

end LockSettings

namespace Settings

open Setting

variable {home : String} {w : World} {file : Toml.Members Toml}

/-! ## The values that count -/

/-- The document in the file of a home directory.  A file that cannot be read is an empty one. -/
def document? (home : String) (d : Disk) : Option (Toml.Members Toml) :=
  match d.readText (path home) with
  | .ok t => Toml.document? (String.ofList (Toml.dropByteOrderMark t.toList))
  | .error _ => some []

/-- The value that a document has for a field of locking. -/
def fileValue? (file : Toml.Members Toml) (field : String) : Option Setting :=
  match file.get? "locking" with
  | some (.table ms) => (Toml.Members.get? field ms).map ofToml
  | _ => none

/-- The value that counts: that of the variable of the field, or else that of the file. -/
def winning (file : Toml.Members Toml) (environment : List (String × String)) (field : String) :
    Option Setting :=
  ((variableText? environment field).map ofVariable).or (fileValue? file field)

/-- What the settings are loaded from: a document with plain names at its top, with a table for
locking if it has anything there, and variables of which each sets a field of its own. -/
structure Layered (home : String) (w : World) (file : Toml.Members Toml) : Prop where
  read : document? home w.disk = some file
  bare : ∀ m ∈ file, Toml.IsBare m.1
  table : ∀ v ∈ file.get? "locking", ∃ ms, v = .table ms
  orderly : Orderly w.environment

theorem fileLayer?_eq (home : String) (d : Disk) :
    fileLayer? home d = (document? home d).map ofTomlMembers := by
  unfold fileLayer? document?
  cases d.readText (path home) <;> rfl

theorem document?_distinct {d : Disk} (read : document? home d = some file) :
    (Toml.table file).Distinct := by
  unfold document? at read
  split at read
  · exact Toml.document?_distinct read
  · cases read
    exact .table List.nodup_nil nofun

namespace Layered

/-- The tree of the file alone. -/
theorem fileTree (h : Layered home w file) :
    Tabled (.table (assignAll (ofTomlMembers file) [])) ∧
      Overlay (lockMembers (.table (assignAll (ofTomlMembers file) []))) (fileValue? file) := by
  obtain ⟨names, values⟩ := (document?_distinct h.read).members
  have there := get?_assignAll_ofToml names "locking"
  cases locking : file.get? "locking" with
  | none =>
    rw [locking] at there
    have nothing : lockMembers (.table (assignAll (ofTomlMembers file) [])) = [] := by
      rw [lockMembers, Setting.members, there]
      rfl
    refine ⟨fun v hv => ?_, fun field _ => ?_⟩
    · rw [Setting.members, there] at hv
      cases hv
    · rw [nothing, fileValue?, locking]
      rfl
  | some v =>
    obtain ⟨ms, rfl⟩ := h.table v locking
    rw [locking] at there
    have table : lockMembers (.table (assignAll (ofTomlMembers file) [])) =
        assignAll (ofTomlMembers ms) [] := by
      rw [lockMembers, Setting.members, there]
      rfl
    refine ⟨fun v hv => ?_, fun field _ => ?_⟩
    · rw [Setting.members, there] at hv
      cases hv
      exact ⟨_, rfl⟩
    · have inner := (values _ (Toml.Members.mem_of_get? locking)).members.1
      rw [table, get?_assignAll_ofToml inner, fileValue?, locking]

/-- The tree of all layers. -/
theorem tree (h : Layered home w file) :
    Tabled (Setting.ofLayers (ofTomlMembers file ++ ofEnvironment w.environment)) ∧
      Overlay (lockMembers (Setting.ofLayers (ofTomlMembers file ++ ofEnvironment w.environment)))
        (winning file w.environment) := by
  obtain ⟨tabled, overlay⟩ := h.fileTree
  have bare : ∀ m ∈ ofTomlMembers file, Toml.IsBare m.1 := by
    intro m hm
    have name : m.1 ∈ file.map (·.1) := names_ofTomlMembers file ▸ List.mem_map_of_mem hm
    obtain ⟨n, hn, same⟩ := List.mem_map.mp name
    exact same ▸ h.bare n hn
  rw [Setting.ofLayers, List.foldl_append, foldl_assignAt_bare bare, foldl_ofEnvironment]
  refine ⟨tabled.withEnvironment h.orderly, fun field known => ?_⟩
  rw [lockMembers_withEnvironment h.orderly known, overlay field known, winning]
  cases variableText? w.environment field with
  | none => rfl
  | some text => exact congrArg some (replaces_ofVariable text .absent).symm

end Layered

/-- Loading fails if a value that counts does not fit its field.  Otherwise all values that count
make settings, each of its own field alone, and these are loaded unless they have a flaw. -/
theorem load_layered (h : Layered home w file) :
    ((∃ field ∈ LockSettings.fieldNames, ∃ v ∈ winning file w.environment field,
        fits field v = false) →
      ∃ t, (load home w).1 = .error (.configuration t)) ∧
    ((∀ field ∈ LockSettings.fieldNames, ∀ v ∈ winning file w.environment field, fits field v) →
      ∃ l, LockSettings.Made (winning file w.environment) l ∧
        (l.validate = .ok () → (load home w).1 = .ok ⟨home, l⟩) ∧
        ∀ f, l.validate = .error f →
          (∃ t, f = .invalidSettings t) ∧ (load home w).1 = .error f) := by
  obtain ⟨tabled, overlay⟩ := h.tree
  have layer : fileLayer? home w.disk = some (ofTomlMembers file) := by
    rw [fileLayer?_eq, h.read]
    rfl
  rw [load_eq, layer, ofLayers, LockSettings.ofTree?_of_tabled tabled]
  constructor
  · intro misfit
    rw [(LockSettings.ofMembers?_eq_none_iff overlay).mpr misfit]
    exact ⟨_, rfl⟩
  · intro fit
    obtain ⟨l, made⟩ := LockSettings.exists_made_iff.mpr fit
    rw [(LockSettings.ofMembers?_eq_some_iff overlay).mpr made]
    refine ⟨l, made, fun valid => ?_, fun f refused => ?_⟩
    · dsimp only
      rw [valid]
      rfl
    · dsimp only
      rw [refused]
      refine ⟨?_, rfl⟩
      unfold LockSettings.validate at refused
      split at refused
      · cases refused
        exact ⟨_, rfl⟩
      · cases refused

/-- Entries with a lease that is no number, and with a name that is no field. -/
def layeredEntries : List Toml.Entry :=
  [⟨"default_hold_secs", Toml.writeString "soon", .text "soon"⟩,
    ⟨"colour", Toml.writeString "red", .text "red"⟩, ⟨"lock_wait_timeout", toString 5, .integer 5⟩]

/-- A machine with these entries in its file, and with variables of which two are about locking. -/
def layeredWorld : World :=
  { World.new ⟨0, 0⟩ with
    disk := ⟨[(["srv"], .directory),
      (["srv", "config.toml"], .file (Toml.sectionText "locking" layeredEntries))]⟩
    environment := [("DISTLOCK_LOCK_TIMEOUT", "soon"), ("DISTLOCK_LOCKING__HOST", "worker"),
      ("PATH", "/bin"), ("distlock_locking__default_hold_secs", "90")] }

/-- The document in the file of that machine. -/
def layeredFile : Toml.Members Toml :=
  [("locking", .table [("default_hold_secs", .text "soon"), ("colour", .text "red"),
    ("lock_wait_timeout", .integer 5)])]

/-- The lease of the file would not do, which matters only without its variable. -/
theorem load_layered_overridden :
    Layered "/srv" layeredWorld layeredFile ∧
    (∀ field ∈ LockSettings.fieldNames,
      ∀ v ∈ winning layeredFile layeredWorld.environment field, fits field v) ∧
    (load "/srv" layeredWorld).1 = .ok ⟨"/srv", { LockSettings.standard with
      host := some "worker"
      defaultHold := 90
      waitBound := .ofSeconds 5 }⟩ ∧
    fits "default_hold_secs" (.text "soon") = false ∧
    ∃ t, (load "/srv" { layeredWorld with environment := [] }).1 = .error (.configuration t) := by
  have written : ∀ e ∈ layeredEntries, e.Fits := by
    intro e he
    simp only [layeredEntries, List.mem_cons, List.not_mem_nil, or_false] at he
    rcases he with rfl | rfl | rfl
    · exact ⟨by decide +kernel, Toml.written_string "soon"⟩
    · exact ⟨by decide +kernel, Toml.written_string "red"⟩
    · exact ⟨by decide +kernel, Toml.written_number (by decide : ((5 : Nat) : Int) ≤ _)⟩
  have read : document? "/srv" layeredWorld.disk = some layeredFile := by
    have place : layeredWorld.disk.place (path "/srv") = .ok ["srv", "config.toml"] := rfl
    have file : layeredWorld.disk.readText (path "/srv") =
        .ok (Toml.sectionText "locking" layeredEntries) := by
      rw [Disk.readText, Disk.lookUp, place]
      rfl
    rw [document?, file]
    simp only [Toml.dropByteOrderMark_sectionText, String.ofList_toList]
    exact Toml.document?_section (by decide +kernel) written (by decide)
  have bare : ∀ m ∈ layeredFile, Toml.IsBare m.1 := by decide +kernel
  have table : ∀ v ∈ layeredFile.get? "locking", ∃ ms, v = .table ms := by
    intro v hv
    obtain rfl := Option.some.inj hv
    exact ⟨_, rfl⟩
  have layered : Layered "/srv" layeredWorld layeredFile :=
    ⟨read, bare, table, ⟨by decide +kernel, by decide +kernel⟩⟩
  have alone : Layered "/srv" { layeredWorld with environment := [] } layeredFile :=
    ⟨read, bare, table, ⟨List.forall_mem_nil _, List.Pairwise.nil⟩⟩
  have expected : LockSettings.Made (winning layeredFile layeredWorld.environment)
      { LockSettings.standard with
        host := some "worker"
        defaultHold := 90
        waitBound := .ofSeconds 5 } := by
    constructor <;> decide +kernel
  have fit := LockSettings.exists_made_iff.mp ⟨_, expected⟩
  obtain ⟨l, made, valid, -⟩ := (load_layered layered).2 fit
  obtain rfl := made.unique expected
  have misfit : fits "default_hold_secs" (.text "soon") = false := by decide +kernel
  exact ⟨layered, fit, valid rfl, misfit,
    (load_layered alone).1 ⟨"default_hold_secs", by decide, .text "soon", rfl, misfit⟩⟩

end Settings

end Leasehold

import Leasehold.Proofs.Settings.Leases
import Leasehold.Proofs.Settings.Loading
import Leasehold.Proofs.Settings.Readings

/-!
# Texts that arrive as they are

Where one field alone has a value, the settings are standard ones but for this field
(`Settings.load_host`, `Settings.load_database`).  A variable gives its field what its text is read
as (`OnlyVariable.winning_eq`), a string in the file gives it the text (`OnlyEntry.winning_eq`), so
of the two only the variable can change it.
-/

namespace Leasehold

namespace LockSettings

open Setting

variable {value : Setting} {t : String}

/-! ## One field alone -/

/-- Standard settings with a host of their own are refused if its name is too long. -/
theorem validate_host (host : String) : { standard with host := some host }.validate =
    if host.length ≤ 128 then .ok ()
    else .error (.invalidSettings SettingsFlaw.longHost.message) := by
  have flaw : { standard with host := some host }.flaw? =
      if 128 < host.length then some .longHost else none := by
    simp [flaw?, standard]
  rw [validate, flaw]
  by_cases short : host.length ≤ 128
  · rw [if_neg (by omega), if_pos short]
  · rw [if_pos (by omega), if_neg short]

/-- A value for one field, and none for the others. -/
def only (field : String) (value : Setting) (name : String) : Option Setting :=
  if name = field then some value else none

theorem makes_text (text : value.toText? = some t) :
    Makes (optional toText?) none (some value) (some t) := by
  cases value with
  | absent => cases text
  | text | integer | real | bool | list | table => exact congrArg (Option.map some) text

theorem made_host (text : value.toText? = some t) :
    Made (only "host" value) { standard with host := some t } where
  database := rfl
  host := makes_text text
  defaultHold := rfl
  heartbeat := rfl
  waitBound := rfl
  busyTimeout := rfl
  purgeOnStart := rfl
  purgeGrace := rfl

theorem made_database (text : value.toText? = some t) :
    Made (only "database" value) { standard with database := some t } where
  database := makes_text text
  host := rfl
  defaultHold := rfl
  heartbeat := rfl
  waitBound := rfl
  busyTimeout := rfl
  purgeOnStart := rfl
  purgeGrace := rfl

end LockSettings

namespace Settings

open Setting
open LockSettings (only standard)

variable {home field v t : String} {w : World} {file : Toml.Members Toml} {value : Setting}

theorem load_made {l : LockSettings} (h : Layered home w file)
    (made : LockSettings.Made (winning file w.environment) l) :
    (load home w).1 = l.validate.map fun () => ⟨home, l⟩ := by
  obtain ⟨tabled, overlay⟩ := h.tree
  have layer : fileLayer? home w.disk = some (ofTomlMembers file) := by
    rw [fileLayer?_eq, h.read]
    rfl
  rw [load_eq, layer, ofLayers, LockSettings.ofTree?_of_tabled tabled,
    (LockSettings.ofMembers?_eq_some_iff overlay).mpr made]

theorem load_host (h : Layered home w file) (alone : winning file w.environment = only "host" value)
    (text : value.toText? = some t) :
    (load home w).1 = if t.length ≤ 128 then .ok ⟨home, { standard with host := some t }⟩
      else .error (.invalidSettings SettingsFlaw.longHost.message) := by
  rw [load_made h (alone ▸ LockSettings.made_host text), LockSettings.validate_host]
  split <;> rfl

theorem load_database (h : Layered home w file)
    (alone : winning file w.environment = only "database" value) (text : value.toText? = some t) :
    (load home w).1 = .ok ⟨home, { standard with database := some t }⟩ := by
  rw [load_made h (alone ▸ LockSettings.made_database text)]
  rfl

/-! ## One variable, or one string in the file -/

/-- The file says nothing, and one variable alone is about locking, which gives a field a text. -/
structure OnlyVariable (home : String) (w : World) (field v : String) : Prop where
  file : document? home w.disk = some []
  single : ∃ label, Sets label field ∧ w.environment.filter (Marked ·.1) = [(label, v)]

/-- No variable is about locking, and the file says one thing alone, which gives a field a text. -/
structure OnlyEntry (home : String) (w : World) (field v : String) : Prop where
  file : document? home w.disk = some [("locking", .table [(field, .text v)])]
  unset : ∀ other ∈ w.environment, ¬Marked other.1

namespace OnlyVariable

theorem variableText?_eq (h : OnlyVariable home w field v) (other : String) :
    variableText? w.environment other = if other = field then some v else none := by
  obtain ⟨label, sets, single⟩ := h.single
  have among : w.environment.find? (fun a => Sets a.1 other) =
      (w.environment.filter (Marked ·.1)).find? fun a => Sets a.1 other := by
    have test (a : String × String) : Marked a.1 ∧ Sets a.1 other ↔ Sets a.1 other :=
      and_iff_right_of_imp Sets.marked
    simp only [List.find?_filter, decide_eq_true_eq, test]
  rw [variableText?, among, single]
  by_cases same : other = field
  · subst same
    simp [sets]
  · have unset : ¬Sets label other := fun set => same (set.unique sets)
    simp [same, unset]

theorem layered (h : OnlyVariable home w field v) (known : field ∈ LockSettings.fieldNames) :
    Layered home w [] where
  read := h.file
  bare := nofun
  table := nofun
  orderly := by
    obtain ⟨label, sets, single⟩ := h.single
    constructor
    · intro other mem marked
      have one : other ∈ w.environment.filter (Marked ·.1) :=
        List.mem_filter.mpr ⟨mem, decide_eq_true marked⟩
      rw [single, List.mem_singleton] at one
      exact ⟨field, known, one ▸ sets⟩
    · have alone : (w.environment.filter (Marked ·.1)).Pairwise fun _ _ => False := by
        rw [single]
        exact List.pairwise_singleton _ _
      refine (List.pairwise_filter.mp alone).imp fun {a b} never marked same => ?_
      have marked' : Marked b.1 := by rwa [Marked, ← same]
      exact never (decide_eq_true marked) (decide_eq_true marked')

/-- The value that counts is what the text is read as. -/
theorem winning_eq (h : OnlyVariable home w field v) :
    winning [] w.environment = only field (ofVariable v) := by
  funext other
  rw [winning, h.variableText?_eq, only]
  split <;> rfl

end OnlyVariable

namespace OnlyEntry

theorem layered (h : OnlyEntry home w field v) :
    Layered home w [("locking", .table [(field, .text v)])] where
  read := h.file
  bare := by
    intro m hm
    rw [List.mem_singleton.mp hm]
    show Toml.IsBare "locking"
    decide +kernel
  table := by
    intro value there
    obtain rfl := Option.some.inj there
    exact ⟨_, rfl⟩
  orderly := by
    refine ⟨fun other mem marked => absurd marked (h.unset other mem), ?_⟩
    have any : w.environment.Pairwise fun _ _ => True := List.pairwise_of_forall fun _ _ => trivial
    exact any.imp_of_mem fun mem _ _ marked => absurd marked (h.unset _ mem)

/-- The value that counts is the text. -/
theorem winning_eq (h : OnlyEntry home w field v) :
    winning [("locking", .table [(field, .text v)])] w.environment = only field (.text v) := by
  funext other
  have unset : variableText? w.environment other = none := by
    rw [variableText?, Option.map_eq_none_iff, List.find?_eq_none]
    intro a mem set
    exact h.unset a mem (of_decide_eq_true set : Sets a.1 other).marked
  rw [winning, unset, only]
  by_cases same : other = field
  · subst same
    simp [fileValue?, Toml.Members.get?, ofToml]
  · have other_name : field ≠ other := Ne.symm same
    simp [fileValue?, Toml.Members.get?, same, other_name]

end OnlyEntry

/-- A text of a host or a database from the environment arrives as it is exactly if it is one of
those that are kept, and else as what it was read as, which may be too long for a host.  From a
string in the file it arrives as it is. -/
theorem loaded_text_iff (v : String) :
    (∀ home w, OnlyVariable home w "host" v →
      (load home w).1 = (if (arrival v).length ≤ 128
        then .ok ⟨home, { standard with host := some (arrival v) }⟩
        else .error (.invalidSettings SettingsFlaw.longHost.message)) ∧
      (v.length ≤ 128 →
        ((load home w).1 = .ok ⟨home, { standard with host := some v }⟩ ↔ Kept v))) ∧
    (∀ home w, OnlyVariable home w "database" v →
      (load home w).1 = .ok ⟨home, { standard with database := some (arrival v) }⟩ ∧
      ((load home w).1 = .ok ⟨home, { standard with database := some v }⟩ ↔ Kept v)) ∧
    (∀ home w, OnlyEntry home w "host" v → v.length ≤ 128 →
      (load home w).1 = .ok ⟨home, { standard with host := some v }⟩) ∧
    ∀ home w, OnlyEntry home w "database" v →
      (load home w).1 = .ok ⟨home, { standard with database := some v }⟩ := by
  have read := toText?_ofVariable v
  refine ⟨fun home w h => ?_, fun home w h => ?_, fun home w h short => ?_, fun home w h => ?_⟩
  · have loaded := load_host (h.layered (by decide)) h.winning_eq read
    refine ⟨loaded, fun short => ?_⟩
    rw [loaded, ← arrival_eq_iff]
    by_cases fits : (arrival v).length ≤ 128
    · rw [if_pos fits]
      simp
    · have changed : arrival v ≠ v := by
        intro same
        rw [same] at fits
        exact fits short
      rw [if_neg fits]
      simp [changed]
  · have loaded := load_database (h.layered (by decide)) h.winning_eq read
    refine ⟨loaded, ?_⟩
    rw [loaded, ← arrival_eq_iff]
    simp
  · rw [load_host h.layered h.winning_eq rfl, if_pos short]
  · exact load_database h.layered h.winning_eq rfl

/-! ## Loaded texts -/

/-- A machine without a file, on which one variable is about locking. -/
def variableWorld (label v : String) : World :=
  { World.new ⟨0, 0⟩ with environment := [("PATH", "/bin"), (label, v), ("HOME", "/root")] }

theorem onlyVariable_variableWorld {label field : String} (sets : Sets label field) (v : String) :
    OnlyVariable "/srv" (variableWorld label v) field v where
  file := rfl
  single := by
    have path : ¬Marked "PATH" ∧ ¬Marked "HOME" := by decide +kernel
    exact ⟨label, sets, by simp [variableWorld, sets.marked, path]⟩

/-- A machine without variables, with one string in its file. -/
def entryWorld (field v : String) : World :=
  { World.new ⟨0, 0⟩ with
    disk := ⟨[(["srv"], .directory), (["srv", "config.toml"],
      .file (Toml.sectionText "locking" [⟨field, Toml.writeString v, .text v⟩]))]⟩ }

theorem onlyEntry_entryWorld {field : String} (bare : Toml.IsBare field) (v : String) :
    OnlyEntry "/srv" (entryWorld field v) field v where
  file := by
    have place : (entryWorld field v).disk.place (path "/srv") = .ok ["srv", "config.toml"] := rfl
    have file : (entryWorld field v).disk.readText (path "/srv") =
        .ok (Toml.sectionText "locking" [⟨field, Toml.writeString v, .text v⟩]) := by
      rw [Disk.readText, Disk.lookUp, place]
      rfl
    have written : ∀ e ∈ [(⟨field, Toml.writeString v, .text v⟩ : Toml.Entry)], e.Fits := by
      intro e he
      obtain rfl := List.mem_singleton.mp he
      exact ⟨bare, Toml.written_string v⟩
    rw [document?, file]
    simp only [Toml.dropByteOrderMark_sectionText, String.ofList_toList]
    exact Toml.document?_section (by decide +kernel) written (by simp)
  unset := nofun

/-- A name is kept by its variable.  A number with an exponent is not, but by the file. -/
theorem loaded_text_name :
    OnlyVariable "/srv" (variableWorld "DISTLOCK_LOCKING__HOST" "node-7") "host" "node-7" ∧
    (load "/srv" (variableWorld "DISTLOCK_LOCKING__HOST" "node-7")).1 =
      .ok ⟨"/srv", { standard with host := some "node-7" }⟩ ∧
    OnlyVariable "/srv" (variableWorld "distlock_locking__database" "1e3") "database" "1e3" ∧
    (load "/srv" (variableWorld "distlock_locking__database" "1e3")).1 =
      .ok ⟨"/srv", { standard with database := some (arrival "1e3") }⟩ ∧
    OnlyEntry "/srv" (entryWorld "host" "1e3") "host" "1e3" ∧
    (load "/srv" (entryWorld "host" "1e3")).1 =
      .ok ⟨"/srv", { standard with host := some "1e3" }⟩ ∧
    OnlyEntry "/srv" (entryWorld "database" "1e3") "database" "1e3" ∧
    (load "/srv" (entryWorld "database" "1e3")).1 =
      .ok ⟨"/srv", { standard with database := some "1e3" }⟩ := by
  have host : Sets "DISTLOCK_LOCKING__HOST" "host" := by decide +kernel
  have database : Sets "distlock_locking__database" "database" := by decide +kernel
  have name : Reading "node-7" (.text "node-7") := by
    refine .text (not_or.mpr ?_) ?_ ?_ <;> decide +kernel
  have variable_host := onlyVariable_variableWorld host "node-7"
  have variable_database := onlyVariable_variableWorld database "1e3"
  have entry_host := onlyEntry_entryWorld (by decide +kernel : Toml.IsBare "host") "1e3"
  have entry_database := onlyEntry_entryWorld (by decide +kernel : Toml.IsBare "database") "1e3"
  exact ⟨variable_host,
    ((loaded_text_iff "node-7").1 _ _ variable_host).2 (by decide) |>.mpr (.text name),
    variable_database, ((loaded_text_iff "1e3").2.1 _ _ variable_database).1,
    entry_host, (loaded_text_iff "1e3").2.2.1 _ _ entry_host (by decide),
    entry_database, (loaded_text_iff "1e3").2.2.2 _ _ entry_database⟩

/-- A host of digits loses its zeros, a database with an exponent is written out, and a host that
is written out can be too long. -/
theorem loaded_text_changed :
    OnlyVariable "/srv" (variableWorld "DISTLOCK_LOCKING__HOST" "007") "host" "007" ∧
    (load "/srv" (variableWorld "DISTLOCK_LOCKING__HOST" "007")).1 =
      .ok ⟨"/srv", { standard with host := some "7" }⟩ ∧
    (load "/srv" (variableWorld "DISTLOCK_LOCKING__HOST" "007")).1 ≠
      .ok ⟨"/srv", { standard with host := some "007" }⟩ ∧
    OnlyVariable "/srv" (variableWorld "DISTLOCK_LOCKING__DATABASE" "1e3") "database" "1e3" ∧
    (load "/srv" (variableWorld "DISTLOCK_LOCKING__DATABASE" "1e3")).1 =
      .ok ⟨"/srv", { standard with database := some "1000" }⟩ ∧
    (load "/srv" (variableWorld "DISTLOCK_LOCKING__DATABASE" "1e3")).1 ≠
      .ok ⟨"/srv", { standard with database := some "1e3" }⟩ ∧
    OnlyVariable "/srv" (variableWorld "DISTLOCK_LOCKING__HOST" "1e128") "host" "1e128" ∧
    (load "/srv" (variableWorld "DISTLOCK_LOCKING__HOST" "1e128")).1 =
      .error (.invalidSettings "locking.host must be at most 128 characters") := by
  have host : Sets "DISTLOCK_LOCKING__HOST" "host" := by decide +kernel
  have database : Sets "DISTLOCK_LOCKING__DATABASE" "database" := by decide +kernel
  have zeros : (ofVariable "007").toText? = some "7" := by decide +kernel
  have exponent : (ofVariable "1e3").toText? = some "1000" := by decide +kernel
  have long : 128 < (arrival "1e128").length := by decide +kernel
  have only_zeros := onlyVariable_variableWorld host "007"
  have only_exponent := onlyVariable_variableWorld database "1e3"
  have only_long := onlyVariable_variableWorld host "1e128"
  have loaded := load_host (only_zeros.layered (by decide)) only_zeros.winning_eq zeros
  have loaded' :=
    load_database (only_exponent.layered (by decide)) only_exponent.winning_eq exponent
  have refused := load_host (only_long.layered (by decide)) only_long.winning_eq
    (toText?_ofVariable "1e128")
  rw [if_pos (by decide)] at loaded
  rw [if_neg (by omega)] at refused
  exact ⟨only_zeros, loaded, by simp [loaded], only_exponent, loaded', by simp [loaded'],
    only_long, refused⟩

end Settings

end Leasehold

import Leasehold.Proofs.Toml.Documents
import Leasehold.Settings.File

/-!
# Settings as entries of a section

The document of settings is one section, with an entry for each field that is set
(`writeDocument_eq`).  All these entries fit if the numbers are within reach
(`fits_entries`), and their names differ (`nodup_entries`).  The members that are read from
them give the settings back, but for the part of a second in the bound on waiting
(`ofMembers?_members`): a field that is not set is no member, and it is read as not set.
-/

namespace Leasehold

namespace Toml.Members

variable {α : Type} {name : String}

theorem get?_append (a b : Members α) : get? name (a ++ b) = (get? name a).or (get? name b) := by
  unfold get?
  rw [List.find?_append]
  cases a.find? (·.1 = name) <;> rfl

theorem put_new {ms : Members α} (v : α) (new : name ∉ ms.map (·.1)) :
    put name v ms = ms ++ [(name, v)] := by
  induction ms with
  | nil => rfl
  | cons m ms ih =>
    rw [List.map_cons, List.mem_cons, not_or] at new
    simp [put, Ne.symm new.1, ih new.2]

end Toml.Members

namespace Setting

/-! ## Layers -/

/-- A value that takes the place of any other one as a whole. -/
def Replaces (v : Setting) : Prop := ∀ old, assign v old = v

theorem assignAll_new {ms old : Toml.Members Setting} (replaces : ∀ m ∈ ms, m.2.Replaces)
    (distinct : ((old ++ ms).map (·.1)).Nodup) : assignAll ms old = old ++ ms := by
  induction ms generalizing old with
  | nil => simp [assignAll]
  | cons m ms ih =>
    obtain ⟨name, v⟩ := m
    rw [List.forall_mem_cons] at replaces
    have new : name ∉ old.map (·.1) := by
      rw [List.map_append, List.nodup_append] at distinct
      exact fun mem => distinct.2.2 _ mem _ List.mem_cons_self rfl
    have split : old ++ (name, v) :: ms = old ++ [(name, v)] ++ ms := by simp
    rw [split] at distinct
    rw [assignAll, replaces.1, Toml.Members.put_new v new, ih replaces.2 distinct, split]

/-- A layer with one table gives the members of the table. -/
theorem members_ofLayers_table {name : String} {ms : Toml.Members Setting}
    (path : SettingPath.ofText name = ⟨name, []⟩) (replaces : ∀ m ∈ ms, m.2.Replaces)
    (distinct : (ms.map (·.1)).Nodup) :
    (ofLayers [(name, .table ms)]).members.get? name = some (.table ms) := by
  have all : assignAll ms [] = ms := assignAll_new replaces distinct
  simp [ofLayers, assignAt, path, change, assign, members, Toml.Members.put, Toml.Members.get?,
    all]

theorem ofTomlMembers_map {α : Type} (l : List α) (name : α → String) (value : α → Toml) :
    ofTomlMembers (l.map fun a => (name a, value a)) =
      l.map fun a => (name a, ofToml (value a)) := by
  induction l with
  | nil => rfl
  | cons a l ih => simp [ofTomlMembers, ih]

/-- Without variables that are settings there is nothing to assign over the file. -/
theorem ofEnvironment_eq_nil {environment : List (String × String)}
    (unset : ∀ v ∈ environment, variablePath? v.1 = none) : ofEnvironment environment = [] := by
  rw [ofEnvironment, List.filterMap_eq_nil_iff]
  intro v hv
  simp [unset v hv]

/-! ## Fields -/

variable {α : Type} {ms : Toml.Members Setting} {name : String} {convert : Setting → Option α}

theorem field_set {standard a : α} {v : Setting} (there : ms.get? name = some v)
    (read : convert v = some a) : field ms name standard convert = some a := by
  rw [field, there]
  exact read

theorem field_optional {o : Option α} {value : α → Setting} (there : ms.get? name = o.map value)
    (read : ∀ a, convert (value a) = some a ∧ value a ≠ .absent) :
    field ms name none (optional convert) = some o := by
  cases o with
  | none => rw [field, there]; rfl
  | some a =>
    refine field_set there ?_
    obtain ⟨converted, present⟩ := read a
    unfold optional
    split
    · rename_i h
      exact absurd h present
    · rw [converted]
      rfl

end Setting

namespace LockSettings

/-! ## The entries of a document -/

/-- The entry of a field that is set, with its value. -/
def fieldEntries {α : Type} (name : String) (write : α → String) (value : α → Toml)
    (o : Option α) : List Toml.Entry :=
  (o.map fun v => ⟨name, write v, value v⟩).toList

/-- The value of a number. -/
def numberValue (n : UInt64) : Toml := .integer n.toNat

/-- The value of a bound on waiting. -/
def boundValue : WaitBound → Toml
  | .finite d => .integer d.seconds
  | .infinite => .text "infinite"

/-- The entries of settings, in the order of the fields. -/
def entries (s : LockSettings) : List Toml.Entry :=
  let number (n : UInt64) := toString n.toNat
  fieldEntries "database" Toml.writeString .text s.database ++
  fieldEntries "host" Toml.writeString .text s.host ++
  fieldEntries "default_hold_secs" number numberValue (some s.defaultHold) ++
  fieldEntries "heartbeat_interval_secs" number numberValue s.heartbeat ++
  fieldEntries "lock_wait_timeout" writeBound boundValue (some s.waitBound) ++
  fieldEntries "busy_timeout_ms" number numberValue (some s.busyTimeout) ++
  fieldEntries "purge_on_start" (fun b => if b then "true" else "false") .bool
    (some s.purgeOnStart) ++
  fieldEntries "purge_grace_secs" number numberValue s.purgeGrace

variable {α : Type} {name : String} {write : α → String} {value : α → Toml} {o : Option α}

theorem entryOf_eq (name : String) (write : α → String) (value : α → Toml) (o : Option α) :
    entryOf name write o = (fieldEntries name write value o).map Toml.Entry.line := by
  cases o <;> rfl

theorem writeDocument_eq (s : LockSettings) :
    s.writeDocument = Toml.sectionText "locking" s.entries := by
  have header : Toml.headerLine "locking" = "[locking]\n" := by decide
  simp only [writeDocument, Toml.sectionText, header, entries, List.map_append, ← entryOf_eq]

theorem names_fieldEntries (name : String) (write : α → String) (value : α → Toml)
    (o : Option α) :
    List.Sublist ((fieldEntries name write value o).map Toml.Entry.name) [name] := by
  cases o <;> simp [fieldEntries]

theorem nodup_entries (s : LockSettings) : (s.entries.map Toml.Entry.name).Nodup := by
  have sub : List.Sublist (s.entries.map Toml.Entry.name) fieldNames := by
    have single : fieldNames = ["database"] ++ ["host"] ++ ["default_hold_secs"] ++
        ["heartbeat_interval_secs"] ++ ["lock_wait_timeout"] ++ ["busy_timeout_ms"] ++
        ["purge_on_start"] ++ ["purge_grace_secs"] := rfl
    rw [single]
    simp only [entries, List.map_append]
    iterate 7 refine List.Sublist.append ?_ (names_fieldEntries _ _ _ _)
    exact names_fieldEntries _ _ _ _
  exact sub.nodup (by decide)

theorem bare_fieldNames : ∀ name ∈ fieldNames, Toml.IsBare name := by decide +kernel

/-- All numbers that the settings write are within reach of a document. -/
def InReach (s : LockSettings) : Prop := ∀ n ∈ s.numbers, (n : Int) ≤ Text.Digits.signedMax

theorem forall_mem_fieldEntries {P : Toml.Entry → Prop} :
    (∀ e ∈ fieldEntries name write value o, P e) ↔ ∀ v ∈ o, P ⟨name, write v, value v⟩ := by
  cases o <;> simp [fieldEntries]

theorem fits_entries {s : LockSettings} (reach : s.InReach) : ∀ e ∈ s.entries, e.Fits := by
  have fits {name text : String} {value : Toml} (known : name ∈ fieldNames)
      (written : Toml.Written text value) : Toml.Entry.Fits ⟨name, text, value⟩ :=
    ⟨bare_fieldNames name known, written⟩
  have text : ∀ t : String, Toml.Written (Toml.writeString t) (.text t) := Toml.written_string
  have number {n : UInt64} (h : n.toNat ∈ s.numbers) :
      Toml.Written (toString n.toNat) (numberValue n) := Toml.written_number (reach _ h)
  have bound : Toml.Written (writeBound s.waitBound) (boundValue s.waitBound) := by
    cases h : s.waitBound with
    | infinite => exact text "infinite"
    | finite d => exact Toml.written_number (reach d.seconds (by simp [numbers, h]))
  simp only [entries, List.forall_mem_append, forall_mem_fieldEntries]
  refine ⟨⟨⟨⟨⟨⟨⟨?_, ?_⟩, ?_⟩, ?_⟩, ?_⟩, ?_⟩, ?_⟩, ?_⟩ <;> intro v hv
  · exact fits (by decide) (text v)
  · exact fits (by decide) (text v)
  · exact fits (by decide) (number (by simp_all [numbers]))
  · exact fits (by decide) (number (by simp_all [numbers]))
  · cases hv
    exact fits (by decide) bound
  · exact fits (by decide) (number (by simp_all [numbers]))
  · exact fits (by decide) (Toml.written_bool v)
  · exact fits (by decide) (number (by simp_all [numbers]))

theorem document?_eq_some_iff {s : LockSettings} {text : String} :
    s.document? = some text ↔ s.InReach ∧ s.writeDocument = text := by
  unfold document? InReach
  simp

theorem document?_eq_none_iff {s : LockSettings} : s.document? = none ↔ ¬s.InReach := by
  unfold document? InReach
  simp

theorem document?_writeDocument {s : LockSettings} (reach : s.InReach) :
    Toml.document? s.writeDocument =
      some [("locking", .table (s.entries.map fun e => (e.name, e.value)))] := by
  have bare : Toml.IsBare "locking" := by decide +kernel
  rw [writeDocument_eq]
  exact Toml.document?_section bare (fits_entries reach) (nodup_entries s)

/-! ## The members that are read -/

/-- The members of the table that is read. -/
def members (s : LockSettings) : Toml.Members Setting :=
  s.entries.map fun e => (e.name, Setting.ofToml e.value)

theorem replaces_members (s : LockSettings) : ∀ m ∈ s.members, m.2.Replaces := by
  have bound (b : WaitBound) : (Setting.ofToml (boundValue b)).Replaces := by
    cases b <;> exact fun _ => rfl
  have all : ∀ e ∈ s.entries, (Setting.ofToml e.value).Replaces := by
    simp only [entries, List.forall_mem_append, forall_mem_fieldEntries]
    refine ⟨⟨⟨⟨⟨⟨⟨?_, ?_⟩, ?_⟩, ?_⟩, fun b _ => bound b⟩, ?_⟩, ?_⟩, ?_⟩ <;> exact fun _ _ _ => rfl
  intro m hm
  obtain ⟨e, he, rfl⟩ := List.mem_map.mp hm
  exact all e he

theorem get?_fieldEntries (other : String) :
    Toml.Members.get? other
        ((fieldEntries name write value o).map fun e => (e.name, Setting.ofToml e.value)) =
      if name = other then o.map fun v => Setting.ofToml (value v) else none := by
  cases o <;> simp [fieldEntries, Toml.Members.get?]

theorem toBound?_boundValue (b : WaitBound) :
    Setting.toBound? (Setting.ofToml (boundValue b)) = some b.wholeSeconds := by
  cases b with
  | finite d => rfl
  | infinite => decide +kernel

theorem toUnsigned?_numberValue (n : UInt64) :
    Setting.toUnsigned? (Setting.ofToml (numberValue n)) = some n := by
  simp [Setting.ofToml, numberValue, Setting.toUnsigned?]

/-- The members of a field that is set and of one that is not. -/
theorem get?_members (s : LockSettings) :
    s.members.get? "database" = s.database.map .text ∧
    s.members.get? "host" = s.host.map .text ∧
    s.members.get? "default_hold_secs" = some (.ofToml (numberValue s.defaultHold)) ∧
    s.members.get? "heartbeat_interval_secs" =
      s.heartbeat.map (fun n => .ofToml (numberValue n)) ∧
    s.members.get? "lock_wait_timeout" = some (.ofToml (boundValue s.waitBound)) ∧
    s.members.get? "busy_timeout_ms" = some (.ofToml (numberValue s.busyTimeout)) ∧
    s.members.get? "purge_on_start" = some (.bool s.purgeOnStart) ∧
    s.members.get? "purge_grace_secs" =
      s.purgeGrace.map (fun n => .ofToml (numberValue n)) := by
  simp [members, entries, Toml.Members.get?_append, get?_fieldEntries, Setting.ofToml]

theorem ofMembers?_members (s : LockSettings) :
    ofMembers? s.members = some { s with waitBound := s.waitBound.wholeSeconds } := by
  obtain ⟨database, host, defaultHold, heartbeat, waitBound, busyTimeout, purgeOnStart,
    purgeGrace⟩ := get?_members s
  have text (t : String) : Setting.toText? (.text t) = some t ∧ Setting.text t ≠ .absent :=
    ⟨rfl, nofun⟩
  have number (n : UInt64) : Setting.toUnsigned? (.ofToml (numberValue n)) = some n ∧
      Setting.ofToml (numberValue n) ≠ .absent :=
    ⟨toUnsigned?_numberValue n, nofun⟩
  simp only [ofMembers?, standard,
    Setting.field_optional database text, Setting.field_optional host text,
    Setting.field_set defaultHold (toUnsigned?_numberValue _),
    Setting.field_optional heartbeat number,
    Setting.field_set waitBound (toBound?_boundValue _),
    Setting.field_set busyTimeout (toUnsigned?_numberValue _),
    Setting.field_set purgeOnStart (show Setting.toBool? (.bool s.purgeOnStart) = _ from rfl),
    Setting.field_optional purgeGrace number, Option.bind_eq_bind, Option.bind_some]

/-- The tree of a file with the document alone gives the settings. -/
theorem ofTree?_document (s : LockSettings) :
    ofTree? (Setting.ofLayers (Setting.ofTomlMembers
        [("locking", .table (s.entries.map fun e => (e.name, e.value)))])) =
      some { s with waitBound := s.waitBound.wholeSeconds } := by
  have path : SettingPath.ofText "locking" = ⟨"locking", []⟩ := by decide +kernel
  have distinct : (s.members.map (·.1)).Nodup := by
    simpa [members, Function.comp_def] using nodup_entries s
  have layer : Setting.ofTomlMembers
      [("locking", .table (s.entries.map fun e => (e.name, e.value)))] =
        [("locking", .table s.members)] := by
    simp [Setting.ofTomlMembers, Setting.ofToml, Setting.ofTomlMembers_map, members]
  rw [layer, ofTree?, Setting.members_ofLayers_table path (replaces_members s) distinct]
  exact ofMembers?_members s

end LockSettings

end Leasehold

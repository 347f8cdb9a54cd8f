import Leasehold.Proofs.Settings.Entries
import Leasehold.Proofs.Toml.Distinct
import Mathlib.Data.List.TakeWhile

/-!
# Variables over a file

What the tree of all layers says about locking.  A file with plain names at its top gives a tree
with its own members (`foldl_assignAt_bare`, `get?_assignAll`).  Each variable over it is one
step: one that sets a field of locking puts its value in the place of what was there
(`withVariable_of_sets`), and one that is not about locking leaves it alone
(`withVariable_of_unmarked`), since what a path begins with is what the name of its variable goes
on with (`isPrefix_of_pointed`).  The run over all variables is an induction on the environment
(`lockMembers_withEnvironment`); no field is set twice there, so the place of a variable among
the others does not matter.
-/

namespace Leasehold

/-! ## Paths -/

namespace SettingPath

theorem ofText_bare {name : String} (bare : Toml.IsBare name) : ofText name = ⟨name, []⟩ := by
  have taken : name.toList.takeWhile isNameChar = name.toList :=
    List.takeWhile_eq_self_iff.mpr bare.chars
  have rest : name.toList.dropWhile isNameChar = [] := List.dropWhile_eq_nil_iff.mpr bare.chars
  have steps : steps? name.toList.length [] = some [] := by
    cases name.toList.length <;> rfl
  simp [ofText, taken, rest, steps, bare.nonempty]

theorem root_isPrefix (s : String) : (ofText s).root.toList <+: s.toList := by
  simp only [ofText]
  split
  · exact List.prefix_rfl
  · split
    · rw [String.toList_ofList]
      exact List.takeWhile_prefix _
    · exact List.prefix_rfl

end SettingPath

namespace Setting

/-- Points stand only for underscores. -/
theorem isPrefix_of_pointed {letters cs : List Char} (plain : '.' ∉ letters)
    (h : letters <+: pointed cs) : letters <+: cs := by
  induction letters generalizing cs with
  | nil => exact List.nil_prefix
  | cons c letters ih =>
    rw [List.mem_cons, not_or] at plain
    fun_cases pointed cs with
    | case1 cs =>
      rw [pointed, List.cons_prefix_cons] at h
      exact absurd h.1.symm plain.1
    | case2 d cs other =>
      rw [pointed, List.cons_prefix_cons] at h
      · exact List.cons_prefix_cons.mpr ⟨h.1, ih plain.2 h.2⟩
      · exact other
    | case3 => exact h

/-! ## Assignments -/

theorem get?_assignAt (root name : String) (v tree : Setting) :
    (assignAt name v tree).members.get? root =
      if (SettingPath.ofText name).root = root then
        some (change (assign v) (SettingPath.ofText name).steps
          ((tree.members.get? root).getD .absent))
      else tree.members.get? root := by
  simp only [assignAt, change, members, Toml.Members.get?_put]
  split
  · rename_i same
    rw [same]
  · rfl

/-- A layer of tables and values under plain names is assigned like the members of a table. -/
theorem foldl_assignAt_bare {layer : List (String × Setting)}
    (bare : ∀ m ∈ layer, Toml.IsBare m.1) (old : Toml.Members Setting) :
    layer.foldl (fun tree a => assignAt a.1 a.2 tree) (.table old) =
      .table (assignAll layer old) := by
  induction layer generalizing old with
  | nil => rfl
  | cons m layer ih =>
    obtain ⟨name, v⟩ := m
    rw [List.forall_mem_cons] at bare
    have step : assignAt name v (.table old) =
        .table (old.put name (assign v ((old.get? name).getD .absent))) := by
      rw [assignAt, SettingPath.ofText_bare bare.1]
      rfl
    rw [List.foldl_cons, step, ih bare.2, assignAll]

/-- Each member is assigned to what was there. -/
theorem get?_assignAll {ms old : Toml.Members Setting} (distinct : ms.Distinct) (name : String) :
    (assignAll ms old).get? name =
      ((ms.get? name).map fun v => assign v ((old.get? name).getD .absent)).or
        (old.get? name) := by
  induction ms generalizing old with
  | nil => rfl
  | cons m ms ih =>
    obtain ⟨first, v⟩ := m
    obtain ⟨new, later⟩ := List.nodup_cons.mp distinct
    rw [assignAll, ih later, Toml.Members.get?_put, Toml.Members.get?_cons]
    by_cases same : first = name
    · subst same
      simp [Toml.Members.get?_eq_none_iff.mpr new]
    · simp [same]

/-! ## Members of a document -/

theorem get?_ofTomlMembers (ms : Toml.Members Toml) (name : String) :
    Toml.Members.get? name (ofTomlMembers ms) = (ms.get? name).map ofToml := by
  induction ms with
  | nil => rfl
  | cons m ms ih =>
    rw [ofTomlMembers, Toml.Members.get?_cons, ih, Toml.Members.get?_cons]
    split <;> rfl

theorem names_ofTomlMembers (ms : Toml.Members Toml) :
    (ofTomlMembers ms).map (·.1) = ms.map (·.1) := by
  induction ms with
  | nil => rfl
  | cons m ms ih => simp [ofTomlMembers, ih]

/-- Members of a document that are assigned to nothing. -/
theorem get?_assignAll_ofToml {ms : Toml.Members Toml} (distinct : ms.Distinct) (name : String) :
    Toml.Members.get? name (assignAll (ofTomlMembers ms) []) =
      ((ms.get? name).map ofToml).map (assign · .absent) := by
  have names : Toml.Members.Distinct (ofTomlMembers ms) := by
    rw [Toml.Members.Distinct, names_ofTomlMembers]
    exact distinct
  rw [get?_assignAll names, get?_ofTomlMembers]
  exact Option.or_none

/-! ## Variables of locking -/

/-- The name of a variable says that it is about locking. -/
def Marked (label : String) : Prop :=
  "distlock_locking".toList <+: (Text.lowerString label).toList

/-- The name of a variable, in any case, is that of a field of locking. -/
def Sets (label field : String) : Prop :=
  Text.lowerString label = "distlock_locking__" ++ field

instance (label : String) : Decidable (Marked label) := inferInstanceAs (Decidable (_ <+: _))

instance (label field : String) : Decidable (Sets label field) :=
  inferInstanceAs (Decidable (_ = _))

/-- The text of the variable that sets a field. -/
def variableText? (environment : List (String × String)) (field : String) : Option String :=
  (environment.find? fun v => Sets v.1 field).map (·.2)

/-- Each variable about locking sets a field, and no two of their names differ only in case. -/
structure Orderly (environment : List (String × String)) : Prop where
  known : ∀ v ∈ environment, Marked v.1 → ∃ field ∈ LockSettings.fieldNames, Sets v.1 field
  once : environment.Pairwise fun v w =>
    Marked v.1 → Text.lowerString v.1 ≠ Text.lowerString w.1

/-- The members of what a tree says about locking. -/
def lockMembers (tree : Setting) : Toml.Members Setting :=
  ((tree.members.get? "locking").getD .absent).members

/-- What the tree says about locking is a table, if it says anything. -/
def Tabled (tree : Setting) : Prop :=
  ∀ v, tree.members.get? "locking" = some v → ∃ ms, v = .table ms

variable {label field : String} {environment : List (String × String)} {tree : Setting}

theorem variableText?_cons (v : String × String) (environment : List (String × String))
    (field : String) :
    variableText? (v :: environment) field =
      if Sets v.1 field then some v.2 else variableText? environment field := by
  unfold variableText?
  rw [List.find?_cons]
  by_cases sets : Sets v.1 field <;> simp [sets]

theorem Sets.unique {other : String} (h : Sets label field) (h' : Sets label other) :
    field = other :=
  String.append_right_inj _ |>.mp (h.symm.trans h')

theorem Sets.marked (h : Sets label field) : Marked label := by
  rw [Marked, h, String.toList_append]
  exact ⟨"__".toList ++ field.toList, by simp⟩

theorem Orderly.tail {v : String × String} (h : Orderly (v :: environment)) :
    Orderly environment :=
  ⟨fun w hw => h.known w (List.mem_cons_of_mem v hw), h.once.of_cons⟩

theorem Orderly.variableText?_eq_none {v : String × String} (h : Orderly (v :: environment))
    (sets : Sets v.1 field) : variableText? environment field = none := by
  rw [variableText?, Option.map_eq_none_iff, List.find?_eq_none]
  intro w hw again
  have same : Sets w.1 field := of_decide_eq_true again
  exact (List.pairwise_cons.mp h.once).1 w hw sets.marked (sets.trans same.symm)

theorem replaces_ofVariable (s : String) : (ofVariable s).Replaces := by
  intro old
  unfold ofVariable
  dsimp only
  split_ifs
  · rfl
  · rfl
  · split
    · rfl
    · split <;> rfl

/-! ## One variable -/

/-- The path of a variable that sets a field. -/
theorem variablePath?_of_sets (known : field ∈ LockSettings.fieldNames)
    (h : Sets label field) : variablePath? label = some ("locking." ++ field) := by
  have read : ∀ field ∈ LockSettings.fieldNames,
      Text.lowerString ("distlock_locking__" ++ field) = "distlock_locking__" ++ field ∧
      variablePath? ("distlock_locking__" ++ field) = some ("locking." ++ field) := by
    decide +kernel
  obtain ⟨lower, path⟩ := read field known
  have same : variablePath? label = variablePath? ("distlock_locking__" ++ field) := by
    rw [variablePath?, variablePath?, h, lower]
  exact same.trans path

theorem ofText_field (known : field ∈ LockSettings.fieldNames) :
    SettingPath.ofText ("locking." ++ field) = ⟨"locking", [.name field]⟩ := by
  have path : ∀ field ∈ LockSettings.fieldNames,
      SettingPath.ofText ("locking." ++ field) = ⟨"locking", [.name field]⟩ := by decide +kernel
  exact path field known

/-- A variable that is not about locking has a path that does not begin there. -/
theorem root_of_unmarked {path : String} (other : ¬Marked label)
    (h : variablePath? label = some path) : (SettingPath.ofText path).root ≠ "locking" := by
  intro root
  have letters : '.' ∉ "locking".toList := by decide +kernel
  have split : "distlock_locking".toList = variableMark ++ "locking".toList := by decide +kernel
  unfold variablePath? at h
  dsimp only at h
  split at h
  · rename_i mark
    obtain rfl := Option.some.inj h
    obtain ⟨rest, hrest⟩ := List.isPrefixOf_iff_prefix.mp mark
    have inPath := SettingPath.root_isPrefix
      (String.ofList (pointed ((Text.lowerString label).toList.drop variableMark.length)))
    rw [String.toList_ofList, root, ← hrest, List.drop_left] at inPath
    refine other ?_
    rw [Marked, split, ← hrest, List.prefix_append_right_inj]
    exact isPrefix_of_pointed letters inPath
  · cases h

theorem get?_assignAt_field (known : field ∈ LockSettings.fieldNames) {v : Setting}
    (replaces : v.Replaces) :
    (assignAt ("locking." ++ field) v tree).members.get? "locking" =
      some (.table ((lockMembers tree).put field v)) := by
  rw [get?_assignAt, ofText_field known, if_pos rfl]
  simp only [change, replaces _, lockMembers]

theorem get?_assignAt_of_unmarked {path : String} {v : Setting} (other : ¬Marked label)
    (h : variablePath? label = some path) :
    (assignAt path v tree).members.get? "locking" = tree.members.get? "locking" := by
  rw [get?_assignAt, if_neg (root_of_unmarked other h)]

/-- One more variable over a tree. -/
def withVariable (tree : Setting) (v : String × String) : Setting :=
  match variablePath? v.1 with
  | some path => assignAt path (ofVariable v.2) tree
  | none => tree

theorem withVariable_of_sets {v : String × String} (known : field ∈ LockSettings.fieldNames)
    (sets : Sets v.1 field) :
    (withVariable tree v).members.get? "locking" =
      some (.table ((lockMembers tree).put field (ofVariable v.2))) := by
  rw [withVariable, variablePath?_of_sets known sets]
  exact get?_assignAt_field known (replaces_ofVariable v.2)

theorem withVariable_of_unmarked {v : String × String} (other : ¬Marked v.1) :
    (withVariable tree v).members.get? "locking" = tree.members.get? "locking" := by
  unfold withVariable
  split
  · rename_i path h
    exact get?_assignAt_of_unmarked other h
  · rfl

/-! ## All variables -/

theorem foldl_ofEnvironment (tree : Setting) (environment : List (String × String)) :
    (ofEnvironment environment).foldl (fun tree a => assignAt a.1 a.2 tree) tree =
      environment.foldl withVariable tree := by
  induction environment generalizing tree with
  | nil => rfl
  | cons v environment ih =>
    obtain ⟨label, text⟩ := v
    rw [List.foldl_cons, ← ih, ofEnvironment, List.filterMap_cons, withVariable]
    dsimp only
    cases variablePath? label <;> rfl

/-- Variables that are about locking keep what is said of it a table. -/
theorem Tabled.withEnvironment (h : Tabled tree) (orderly : Orderly environment) :
    Tabled (environment.foldl withVariable tree) := by
  induction environment generalizing tree with
  | nil => exact h
  | cons v environment ih =>
    refine ih (fun w hw => ?_) orderly.tail
    by_cases marked : Marked v.1
    · obtain ⟨field, known, sets⟩ := orderly.known v List.mem_cons_self marked
      rw [withVariable_of_sets known sets] at hw
      cases hw
      exact ⟨_, rfl⟩
    · rw [withVariable_of_unmarked marked] at hw
      exact h w hw

/-- The value of a field is that of its variable, or else what was there before. -/
theorem lockMembers_withEnvironment (orderly : Orderly environment)
    (known : field ∈ LockSettings.fieldNames) :
    (lockMembers (environment.foldl withVariable tree)).get? field =
      ((variableText? environment field).map ofVariable).or ((lockMembers tree).get? field) := by
  induction environment generalizing tree with
  | nil => rfl
  | cons v environment ih =>
    rw [List.foldl_cons, ih orderly.tail, variableText?_cons]
    by_cases marked : Marked v.1
    · obtain ⟨other, there, sets⟩ := orderly.known v List.mem_cons_self marked
      have now : lockMembers (withVariable tree v) =
          (lockMembers tree).put other (ofVariable v.2) := by
        rw [lockMembers, withVariable_of_sets there sets]
        rfl
      rw [now, Toml.Members.get?_put]
      by_cases same : other = field
      · subst same
        rw [orderly.variableText?_eq_none sets, if_pos sets, if_pos rfl]
        rfl
      · have unset : ¬Sets v.1 field := fun h => same (sets.unique h)
        rw [if_neg unset, if_neg same]
    · have unset : ¬Sets v.1 field := fun h => marked (h.marked)
      rw [if_neg unset, lockMembers, withVariable_of_unmarked marked, lockMembers]

end Setting

end Leasehold

import Leasehold.Proofs.Toml.Documents

/-!
# No table gives a name twice

In the values of a document every table has different names, however deep it lies
(`document?_distinct`).  The invariant is one of the tree under construction: what a header or a
key does to a section keeps it (`Section.Distinct.insert`, `Section.Distinct.openHeader`), since
a name is put only where there is none of it, or in the place of the one that is there.  Tables
in braces are built in the same way, so every value that is read has it too
(`sound_value?`).
-/

namespace Leasehold

namespace Toml

/-! ## Members with different names -/

namespace Members

variable {α : Type} {name : String} {v : α} {ms : Members α}

/-- The names of the members are all different. -/
def Distinct (ms : Members α) : Prop := (ms.map (·.1)).Nodup

theorem get?_cons (m : String × α) (ms : Members α) :
    get? name (m :: ms) = if m.1 = name then some m.2 else get? name ms := by
  unfold get?
  rw [List.find?_cons]
  by_cases same : m.1 = name <;> simp [same]

theorem mem_of_get? (h : ms.get? name = some v) : (name, v) ∈ ms := by
  unfold get? at h
  obtain ⟨m, found, rfl⟩ := Option.map_eq_some_iff.mp h
  have same : m.1 = name := by simpa using List.find?_some found
  exact same ▸ List.mem_of_find?_eq_some found

theorem mem_put {m : String × α} (h : m ∈ put name v ms) : m = (name, v) ∨ m ∈ ms := by
  induction ms with
  | nil => exact .inl (List.mem_singleton.mp h)
  | cons n ms ih =>
    unfold put at h
    split at h
    · rename_i same
      rcases List.mem_cons.mp h with rfl | later
      · exact .inl (by rw [same])
      · exact .inr (List.mem_cons_of_mem n later)
    · rcases List.mem_cons.mp h with rfl | later
      · exact .inr List.mem_cons_self
      · exact (ih later).imp_right (List.mem_cons_of_mem n)

theorem Distinct.put (h : ms.Distinct) (name : String) (v : α) : (put name v ms).Distinct := by
  induction ms with
  | nil => exact List.pairwise_singleton _ name
  | cons m ms ih =>
    obtain ⟨first, later⟩ := List.nodup_cons.mp h
    unfold Members.put
    split
    · exact List.nodup_cons.mpr ⟨first, later⟩
    · rename_i other
      refine List.nodup_cons.mpr ⟨fun mem => ?_, ih later⟩
      obtain ⟨n, hn, same⟩ := List.mem_map.mp mem
      rcases mem_put hn with rfl | there
      · exact other same.symm
      · exact first (same ▸ List.mem_map_of_mem there)

theorem Distinct.append (h : ms.Distinct) (new : ms.get? name = none) (v : α) :
    Members.Distinct (ms ++ [(name, v)]) := by
  rw [get?_eq_none_iff] at new
  rw [Distinct, List.map_append, List.nodup_append]
  refine ⟨h, List.pairwise_singleton _ name, fun n hn m hm same => ?_⟩
  rw [List.mem_singleton.mp hm] at same
  obtain rfl : n = name := same
  exact new hn

end Members

/-! ## Values and items -/

/-- No table in the value gives a name twice. -/
inductive Distinct : Toml → Prop where
  | text {t : String} : Distinct (.text t)
  | integer {n : Int} : Distinct (.integer n)
  | real {x : Binary64} : Distinct (.real x)
  | bool {b : Bool} : Distinct (.bool b)
  | moment {t : String} : Distinct (.moment t)
  | list {l : List Toml} (items : ∀ v ∈ l, Distinct v) : Distinct (.list l)
  | table {ms : Members Toml} (names : ms.Distinct) (values : ∀ m ∈ ms, Distinct m.2) :
    Distinct (.table ms)

theorem Distinct.members {ms : Members Toml} (h : Distinct (.table ms)) :
    ms.Distinct ∧ ∀ m ∈ ms, Distinct m.2 := by
  cases h with
  | table names values => exact ⟨names, values⟩

/-- No section in the item gives a name twice. -/
inductive Item.Distinct : Item → Prop where
  | value {v : Toml} (distinct : v.Distinct) : Item.Distinct (.value v)
  | table {kind : SectionKind} {ms : Members Item} (names : ms.Distinct)
    (items : ∀ m ∈ ms, m.2.Distinct) : Item.Distinct (.table kind ms)
  | tables {l : List (Members Item)} (names : ∀ ms ∈ l, ms.Distinct)
    (items : ∀ ms ∈ l, ∀ m ∈ ms, m.2.Distinct) : Item.Distinct (.tables l)

theorem Item.finishMembers_eq (ms : Members Item) :
    finishMembers ms = ms.map fun m => (m.1, m.2.finish) := by
  induction ms with
  | nil => rfl
  | cons m ms ih => simp [finishMembers, ih]

theorem Item.finishTables_eq (l : List (Members Item)) :
    finishTables l = l.map fun ms => .table (finishMembers ms) := by
  induction l with
  | nil => rfl
  | cons ms l ih => simp [finishTables, ih]

theorem Item.Distinct.finishMembers {ms : Members Item} (names : ms.Distinct)
    (values : ∀ m ∈ ms, m.2.finish.Distinct) : (Toml.table (finishMembers ms)).Distinct := by
  rw [finishMembers_eq]
  refine .table ?_ fun m hm => ?_
  · rw [Members.Distinct, List.map_map]
    exact names
  · obtain ⟨n, hn, rfl⟩ := List.mem_map.mp hm
    exact values n hn

/-- What is finished has the names that it was built with. -/
theorem Item.Distinct.finish {i : Item} (h : i.Distinct) : i.finish.Distinct := by
  induction h with
  | value distinct => exact distinct
  | table names _ ih => exact finishMembers names ih
  | tables names _ ih =>
    rw [Item.finish, finishTables_eq]
    refine .list fun v hv => ?_
    obtain ⟨ms, hms, rfl⟩ := List.mem_map.mp hv
    exact finishMembers (names ms hms) (ih ms hms)

/-! ## Sections -/

namespace Section

variable {s s' : Section} {name : String} {path : List String} {v : Toml}

/-- No section in the tree gives a name twice. -/
structure Distinct (s : Section) : Prop where
  names : s.members.Distinct
  items : ∀ m ∈ s.members, m.2.Distinct

theorem distinct_empty {kind : SectionKind} : Distinct ⟨kind, []⟩ := ⟨List.nodup_nil, nofun⟩

theorem Distinct.item (h : s.Distinct) : (Item.table s.kind s.members).Distinct :=
  .table h.names h.items

theorem Distinct.put {i : Item} (h : s.Distinct) (item : i.Distinct) :
    Distinct ⟨s.kind, s.members.put name i⟩ := by
  refine ⟨h.names.put name i, fun m hm => ?_⟩
  rcases Members.mem_put hm with rfl | there
  · exact item
  · exact h.items m there

theorem Distinct.append {i : Item} (h : s.Distinct) (new : s.members.get? name = none)
    (item : i.Distinct) : Distinct ⟨s.kind, s.members ++ [(name, i)]⟩ := by
  refine ⟨h.names.append new i, fun m hm => ?_⟩
  rcases List.mem_append.mp hm with there | last
  · exact h.items m there
  · rw [List.mem_singleton.mp last]
    exact item

/-- One more section of a repeated header, or another one in the place of some. -/
theorem Distinct.tables_concat {l l' : List (Members Item)} (h : s.Distinct)
    (others : (Item.tables l).Distinct) (sub : l' ⊆ l) :
    (Item.tables (l' ++ [s.members])).Distinct := by
  cases others with
  | tables names items =>
    refine .tables ?_ ?_
    · intro ms hms
      rcases List.mem_append.mp hms with before | this
      · exact names ms (sub before)
      · rw [List.mem_singleton.mp this]
        exact h.names
    · intro ms hms
      rcases List.mem_append.mp hms with before | this
      · exact items ms (sub before)
      · rw [List.mem_singleton.mp this]
        exact h.items

/-- The walk to a section keeps what is done at its end. -/
theorem Distinct.edit {dotted : Bool} {change : Section → Option Section}
    (keeps : ∀ s s', s.Distinct → change s = some s' → s'.Distinct)
    (h : s.Distinct) (done : Section.edit dotted change path s = some s') : s'.Distinct := by
  induction path generalizing s s' with
  | nil => exact keeps s s' h done
  | cons name path ih =>
    unfold Section.edit at done
    split at done
    · obtain ⟨t, ht, rfl⟩ := Option.map_eq_some_iff.mp done
      exact h.put (ih distinct_empty ht).item
    · cases done
    · rename_i kind ms found
      have inner := h.items _ (Members.mem_of_get? found)
      cases inner with
      | table names items =>
        split at done
        · cases done
        · obtain ⟨t, ht, rfl⟩ := Option.map_eq_some_iff.mp done
          exact h.put (ih ⟨names, items⟩ ht).item
    · rename_i l found
      have inner := h.items _ (Members.mem_of_get? found)
      cases inner with
      | tables names items =>
        split at done
        · rename_i ms last
          have there := List.mem_of_getLast? last
          obtain ⟨t, ht, rfl⟩ := Option.map_eq_some_iff.mp done
          have changed := ih ⟨names ms there, items ms there⟩ ht
          exact h.put (changed.tables_concat (.tables names items) l.dropLast_sublist.subset)
        · cases done

theorem Distinct.insertHere {direct : Bool} (h : s.Distinct) (value : v.Distinct)
    (done : s.insertHere direct name v = some s') : s'.Distinct := by
  unfold Section.insertHere at done
  split at done
  · cases done
  · split at done
    · cases done
    · rename_i free
      cases done
      exact h.append (Option.not_isSome_iff_eq_none.mp free) (.value value)

theorem Distinct.openHere (h : s.Distinct) (done : s.openHere name = some s') : s'.Distinct := by
  unfold Section.openHere at done
  split at done
  · rename_i new
    cases done
    exact h.append new distinct_empty.item
  · rename_i ms found
    cases done
    cases h.items _ (Members.mem_of_get? found) with
    | table names items => exact h.put (.table names items)
  · cases done

theorem Distinct.repeatHere (h : s.Distinct) (done : s.repeatHere name = some s') :
    s'.Distinct := by
  have blank := @distinct_empty .header
  unfold Section.repeatHere at done
  split at done
  · rename_i new
    cases done
    have nothing : (Item.tables []).Distinct := .tables nofun nofun
    exact h.append new (blank.tables_concat nothing (List.Subset.refl []))
  · rename_i l found
    cases done
    have inner := h.items _ (Members.mem_of_get? found)
    exact h.put (blank.tables_concat inner (List.Subset.refl l))
  · cases done

theorem Distinct.insert (h : s.Distinct) (value : v.Distinct)
    (done : s.insert path name v = some s') : s'.Distinct :=
  h.edit (fun _ _ before change => before.insertHere value change) done

theorem Distinct.openHeader {repeated : Bool} (h : s.Distinct)
    (done : s.openHeader repeated path name = some s') : s'.Distinct := by
  refine h.edit (fun t t' before change => ?_) done
  cases repeated with
  | false => exact before.openHere change
  | true => exact before.repeatHere change

end Section

/-! ## Readers -/

/-- Every value that is read has different names in its tables. -/
def Reader.Sound (value : Reader Toml) : Prop := ∀ cs v rest, value cs = some (v, rest) → v.Distinct

variable {value : Reader Toml}

theorem sound_scalar? : Reader.Sound scalar? := by
  intro cs v rest read
  simp only [scalar?, Option.or_eq_some_iff, Option.map_eq_some_iff, Prod.mk.injEq] at read
  rcases read with ⟨_, _, rfl, _⟩ | ⟨_, ⟨_, _, rfl, _⟩ | ⟨_, ⟨_, _, rfl, _⟩ | ⟨_, ⟨_, _, rfl, _⟩ |
    ⟨_, ⟨_, _, rfl, _⟩ | ⟨_, _, _, rfl, _⟩⟩⟩⟩⟩
  · exact .text
  · exact .bool
  · exact .moment
  · exact .real
  · exact .real
  · exact .integer

theorem Reader.Sound.items? (sound : value.Sound) {n : Nat} {cs rest : List Char} {l : List Toml}
    (read : Toml.items? value n cs = some (l, rest)) : ∀ v ∈ l, v.Distinct := by
  induction n generalizing cs l with
  | zero => cases read
  | succ n ih =>
    obtain ⟨space, _, read⟩ := Option.bind_eq_some_iff.mp read
    split at read
    · cases read
      nofun
    · obtain ⟨⟨v, cs⟩, first, read⟩ := Option.bind_eq_some_iff.mp read
      obtain ⟨space, _, read⟩ := Option.bind_eq_some_iff.mp read
      have head := sound _ _ _ first
      split at read
      · obtain ⟨⟨l, rest⟩, later, same⟩ := Option.map_eq_some_iff.mp read
        cases same
        exact List.forall_mem_cons.mpr ⟨head, ih later⟩
      · cases read
        exact List.forall_mem_singleton.mpr head
      · cases read

theorem Reader.Sound.entries? (sound : value.Sound) {n : Nat} {cs rest : List Char}
    {s s' : Section} (h : s.Distinct) (read : Toml.entries? value n s cs = some (s', rest)) :
    s'.Distinct := by
  induction n generalizing cs s with
  | zero => cases read
  | succ n ih =>
    obtain ⟨space, _, read⟩ := Option.bind_eq_some_iff.mp read
    split at read
    · cases read
      exact h
    · obtain ⟨⟨k, cs⟩, _, read⟩ := Option.bind_eq_some_iff.mp read
      obtain ⟨space, _, read⟩ := Option.bind_eq_some_iff.mp read
      split at read
      · obtain ⟨space, _, read⟩ := Option.bind_eq_some_iff.mp read
        obtain ⟨⟨v, cs⟩, first, read⟩ := Option.bind_eq_some_iff.mp read
        obtain ⟨t, put, read⟩ := Option.bind_eq_some_iff.mp read
        obtain ⟨space, _, read⟩ := Option.bind_eq_some_iff.mp read
        have grown := h.insert (sound _ _ _ first) put
        split at read
        · exact ih grown read
        · cases read
          exact grown
        · cases read
      · cases read

theorem Section.Distinct.finish {s : Section} (h : s.Distinct) : (Toml.table s.finish).Distinct :=
  h.item.finish

theorem Reader.Sound.inlineTable? (sound : value.Sound) :
    Reader.Sound (Toml.inlineTable? value) := by
  intro cs v rest read
  obtain ⟨⟨s, rest⟩, entries, same⟩ := Option.map_eq_some_iff.mp read
  cases same
  exact (sound.entries? Section.distinct_empty entries).finish

theorem sound_value? (n : Nat) : Reader.Sound (value? n) := by
  induction n with
  | zero => exact sound_scalar?
  | succ n ih =>
    intro cs v rest read
    unfold value? at read
    split at read
    · obtain ⟨⟨l, rest⟩, items, same⟩ := Option.map_eq_some_iff.mp read
      cases same
      exact .list (ih.items? items)
    · exact ih.inlineTable? _ _ _ read
    · exact sound_scalar? _ _ _ read

theorem Reader.Sound.entry? (sound : value.Sound) {cs rest : List Char} {k : Key} {v : Toml}
    (read : Toml.entry? value cs = some ((k, v), rest)) : v.Distinct := by
  obtain ⟨⟨k, cs⟩, _, read⟩ := Option.bind_eq_some_iff.mp read
  dsimp only at read
  split at read
  · obtain ⟨⟨v, cs⟩, first, read⟩ := Option.bind_eq_some_iff.mp read
    cases read
    exact sound _ _ _ first
  · cases read

/-! ## Statements -/

/-- The value of a statement has different names in its tables. -/
def Statement.Distinct : Statement → Prop
  | .header _ _ => True
  | .entry _ v => v.Distinct

theorem header?_distinct {repeated : Bool} {cs rest : List Char} {s : Statement}
    (read : header? repeated cs = some (s, rest)) : s.Distinct := by
  obtain ⟨⟨k, cs⟩, _, read⟩ := Option.bind_eq_some_iff.mp read
  dsimp only at read
  split at read
  · obtain ⟨_, _, same⟩ := Option.map_eq_some_iff.mp read
    cases same
    trivial
  · obtain ⟨_, _, same⟩ := Option.map_eq_some_iff.mp read
    cases same
    trivial
  · cases read

theorem statement?_distinct {cs rest : List Char} {o : Option Statement}
    (read : statement? cs = some (o, rest)) : ∀ s ∈ o, s.Distinct := by
  unfold statement? at read
  split at read
  iterate 3
    · cases read
      nofun
  · obtain ⟨_, _, same⟩ := Option.map_eq_some_iff.mp read
    cases same
    nofun
  iterate 2
    · obtain ⟨⟨s, rest⟩, header, same⟩ := Option.map_eq_some_iff.mp read
      cases same
      rintro _ ⟨⟩
      exact header?_distinct header
  · obtain ⟨⟨⟨k, v⟩, cs⟩, entry, read⟩ := Option.bind_eq_some_iff.mp read
    obtain ⟨_, _, same⟩ := Option.map_eq_some_iff.mp read
    cases same
    rintro _ ⟨⟩
    exact Reader.Sound.entry? (sound_value? deepest) entry

theorem statements?_distinct {n : Nat} {cs : List Char} {l : List Statement}
    (read : statements? n cs = some l) : ∀ s ∈ l, s.Distinct := by
  induction n generalizing cs l with
  | zero =>
    cases cs with
    | nil => cases read; nofun
    | cons c cs => cases read
  | succ n ih =>
    cases cs with
    | nil => cases read; nofun
    | cons c cs =>
      obtain ⟨⟨o, rest⟩, first, read⟩ := Option.bind_eq_some_iff.mp read
      obtain ⟨l, later, rfl⟩ := Option.map_eq_some_iff.mp read
      intro s hs
      rcases List.mem_append.mp hs with here | there
      · exact statement?_distinct first s (Option.mem_toList.mp here)
      · exact ih later s there

namespace Section

theorem Distinct.carryOut {state state' : Section × List String} {st : Statement}
    (h : state.1.Distinct) (value : st.Distinct)
    (done : Section.carryOut state st = some state') : state'.1.Distinct := by
  cases st with
  | header repeated k =>
    obtain ⟨s, opened, rfl⟩ := Option.map_eq_some_iff.mp done
    exact h.openHeader opened
  | entry k v =>
    obtain ⟨s, edited, rfl⟩ := Option.map_eq_some_iff.mp done
    exact h.edit (fun t t' ht put => ht.insert value put) edited

theorem Distinct.carryOutAll {state state' : Section × List String} {l : List Statement}
    (h : state.1.Distinct) (values : ∀ st ∈ l, st.Distinct)
    (done : l.foldlM Section.carryOut state = some state') : state'.1.Distinct := by
  induction l generalizing state with
  | nil =>
    cases done
    exact h
  | cons st l ih =>
    obtain ⟨next, first, later⟩ := Option.bind_eq_some_iff.mp done
    rw [List.forall_mem_cons] at values
    exact ih (h.carryOut values.1 first) values.2 later

end Section

/-- No table of a document gives a name twice. -/
theorem document?_distinct {text : String} {ms : Members Toml} (read : document? text = some ms) :
    (Toml.table ms).Distinct := by
  obtain ⟨l, statements, read⟩ := Option.bind_eq_some_iff.mp read
  obtain ⟨s, carried, rfl⟩ := Option.map_eq_some_iff.mp read
  obtain ⟨state, all, rfl⟩ := Option.map_eq_some_iff.mp carried
  exact (Section.distinct_empty.carryOutAll (statements?_distinct statements) all).finish

end Toml

end Leasehold

import Leasehold.Lock.Attempt
import Leasehold.Lock.Sweep
import Leasehold.Proofs.Time.Deadline
import Mathlib.Data.List.Nodup

/-!
# What statements do to the row of a resource

A table is seen through `Table.entryOf?`.  For each statement there are three
facts: when it answers true, what the entry of any resource is after it, and that
it keeps a sound table sound.  Everything that is proved about clients rests on
these and opens no statement again.

`Table.Sound` is the order of the keys, by which no resource has two rows
(`Table.Single`), and that every row can be read.  The counts behind the answers are
one or zero for this reason only (`countP_eq_ite`).
-/

namespace Leasehold

/-! ## Keys -/

theorem Cell.keyBefore_irrefl (c : Cell) : c.keyBefore c = false := by
  cases c with
  | text s => exact Text.before_irrefl s
  | bytes s => exact Text.bytesBefore_irrefl s
  | null => rfl
  | integer n => rfl
  | real x => rfl

/-! ## Reading an entry -/

namespace Entry

variable {e : Entry} {row : LockRow}

/-- An entry is read column by column. -/
theorem row_eq_ok_iff :
    e.row = .ok row ↔
      readKey e.key = .ok row.resource ∧ readText .host e.host = .ok row.host ∧
        readText .owner e.owner = .ok row.owner ∧ readDeadline e.deadline = .ok row.deadline := by
  unfold Entry.row
  cases hk : readKey e.key with
  | error u => simp [bind, Except.bind]
  | ok resource =>
    cases hh : readText .host e.host with
    | error u => simp [bind, Except.bind]
    | ok host =>
      cases ho : readText .owner e.owner with
      | error u => simp [bind, Except.bind]
      | ok owner =>
        cases hd : readDeadline e.deadline with
        | error u => simp [bind, Except.bind]
        | ok deadline =>
          obtain ⟨r, h, o, d⟩ := row
          simp [bind, Except.bind, pure, Except.pure]

theorem owner_of_row {owner : String} (h : e.row = .ok row) (ho : e.owner = .text owner) :
    row.owner = owner := by
  have hr := (row_eq_ok_iff.mp h).2.2.1
  rw [ho] at hr
  exact (Except.ok.inj hr).symm

/-- A readable deadline lies below a moment only as a number; no deadline at all does not. -/
theorem deadline_of_below {now : Int} (h : e.row = .ok row) (hb : e.deadline.below now = true) :
    e.deadline = .integer row.deadline ∧ row.deadline < now := by
  have hr := (row_eq_ok_iff.mp h).2.2.2
  unfold readDeadline at hr
  split at hr
  · rename_i n hd
    cases hr
    rw [hd, Cell.below_integer] at hb
    exact ⟨hd, of_decide_eq_true hb⟩
  · rename_i hd
    rw [hd, Cell.below_null] at hb
    cases hb
  · cases hr

/-- A sweep takes away what can be read only past its deadline. -/
theorem deadline_of_swept {now : Int} {grace : Span} (h : e.row = .ok row)
    (hnow : Text.Digits.signedMin ≤ now)
    (hb : e.deadline.below (momentBefore now grace) = true) : row.deadline < now := by
  have past := (deadline_of_below h hb).2
  have hcutoff := momentBefore_le hnow grace
  omega

/-- The entry with another holder and another deadline. -/
def takenOver (claim : LockRow) (e : Entry) : Entry :=
  { e with
    host := .text claim.host, owner := .text claim.owner, deadline := .integer claim.deadline }

/-- The entry with another deadline. -/
def extended (deadline : Int) (e : Entry) : Entry := { e with deadline := .integer deadline }

@[simp] theorem key_takenOver (claim : LockRow) (e : Entry) : (e.takenOver claim).key = e.key := rfl

@[simp] theorem key_extended (deadline : Int) (e : Entry) : (e.extended deadline).key = e.key := rfl

theorem takenOver_eq_ofRow {claim : LockRow} (h : e.key = .text claim.resource) :
    e.takenOver claim = ofRow claim := by
  simp [takenOver, ofRow, h]

theorem takenOver_readable {claim : LockRow} (h : e.row = .ok row) :
    ∃ row, (e.takenOver claim).row = .ok row :=
  ⟨{ claim with resource := row.resource },
    row_eq_ok_iff.mpr ⟨(row_eq_ok_iff.mp h).1, rfl, rfl, rfl⟩⟩

theorem row_extended {deadline : Int} (h : e.row = .ok row) :
    (e.extended deadline).row = .ok { row with deadline } := by
  obtain ⟨hk, hh, ho, -⟩ := row_eq_ok_iff.mp h
  exact row_eq_ok_iff.mpr ⟨hk, hh, ho, rfl⟩

theorem extended_readable {deadline : Int} (h : e.row = .ok row) :
    ∃ row, (e.extended deadline).row = .ok row :=
  ⟨_, row_extended h⟩

end Entry

namespace Table

variable {t : Table} {e f : Entry} {resource : String}

@[simp] theorem isOf_iff : isOf resource e = true ↔ e.key = .text resource := by
  simp [isOf]

theorem isOwned_iff {owner : String} :
    isOwned resource owner e = true ↔ e.key = .text resource ∧ e.owner = .text owner := by
  simp [isOwned]

/-- The keys of a well-formed table are all different. -/
theorem WellFormed.nodup_keys (h : t.WellFormed) : (t.entries.map Entry.key).Nodup := by
  refine List.pairwise_map.mpr (h.1.imp ?_)
  intro a b hab heq
  rw [heq, Cell.keyBefore_irrefl] at hab
  cases hab

/-! ## The entry of a resource -/

theorem mem_of_entryOf? (h : t.entryOf? resource = some e) : e ∈ t.entries :=
  List.mem_of_find?_eq_some h

theorem key_of_entryOf? (h : t.entryOf? resource = some e) : e.key = .text resource :=
  isOf_iff.mp (List.find?_some h)

theorem entryOf?_eq_none_iff :
    t.entryOf? resource = none ↔ ∀ f ∈ t.entries, f.key ≠ .text resource := by
  simp [entryOf?, isOf]

/-- At most one entry belongs to a resource. -/
def Single (resource : String) (t : Table) : Prop := t.entries.countP (isOf resource) ≤ 1

theorem WellFormed.single (h : t.WellFormed) (resource : String) : t.Single resource := by
  have same : t.entries.countP (isOf resource) =
      (t.entries.map Entry.key).count (.text resource) := by
    rw [List.count, List.countP_map]
    refine List.countP_congr fun e _ => ?_
    simp
  unfold Single
  rw [same]
  exact List.nodup_iff_count_le_one.mp h.nodup_keys _

/-- The entries of a resource are the one that is found, or there are none. -/
theorem Single.filter_isOf (h : t.Single resource) :
    t.entries.filter (isOf resource) = (t.entryOf? resource).toList := by
  have few : (t.entries.filter (isOf resource)).length ≤ 1 := by
    rw [← List.countP_eq_length_filter]
    exact h
  rw [entryOf?, ← List.head?_filter]
  generalize t.entries.filter (isOf resource) = es at few
  cases es with
  | nil => rfl
  | cons e rest =>
    cases rest with
    | nil => rfl
    | cons f rest => simp only [List.length_cons] at few; omega

/-- An entry of a resource that has no other one is the one that is found. -/
theorem Single.entryOf?_of_mem (h : t.Single resource) (he : e ∈ t.entries)
    (hk : e.key = .text resource) : t.entryOf? resource = some e := by
  have own : e ∈ t.entries.filter (isOf resource) := List.mem_filter.mpr ⟨he, isOf_iff.mpr hk⟩
  rwa [h.filter_isOf, Option.mem_toList] at own

/-- A test that only entries of one resource pass is passed by one entry or by none. -/
theorem Single.countP_eq_ite (h : t.Single resource) (test : Entry → Bool)
    (ht : ∀ e, test e = true → e.key = .text resource) :
    t.entries.countP test = if (t.entryOf? resource).any test then 1 else 0 := by
  have within : t.entries.countP test = (t.entries.filter (isOf resource)).countP test := by
    rw [List.countP_filter]
    refine List.countP_congr fun e _ => ?_
    rw [Bool.and_eq_true, isOf_iff]
    exact ⟨fun pass => ⟨pass, ht e pass⟩, And.left⟩
  rw [within, h.filter_isOf]
  cases t.entryOf? resource with
  | none => rfl
  | some e => cases hpass : test e <;> simp [hpass]

/-! ## Placing, changing and removing entries -/

theorem find?_place {es : List Entry} {key : String} (hk : e.key = .text key)
    (hn : ∀ f ∈ es, f.key ≠ .text key) :
    (place e es).find? (isOf resource) =
      if resource = key then some e else es.find? (isOf resource) := by
  induction es with
  | nil =>
    by_cases hr : resource = key
    · simp [place, isOf, hk, hr]
    · simp [place, isOf, hk, hr, Ne.symm hr]
  | cons f rest ih =>
    have ih := ih fun g hg => hn g (List.mem_cons_of_mem f hg)
    have hf : f.key ≠ .text key := hn f List.mem_cons_self
    unfold place
    split
    · by_cases hr : resource = key
      · simp [isOf, hk, hr]
      · simp [List.find?_cons, isOf, hk, hr, Ne.symm hr]
    · rw [List.find?_cons, List.find?_cons, ih]
      by_cases hr : resource = key
      · subst hr
        simp [isOf, hf]
      · simp [hr]

/-- An entry with a new key is placed so that the keys go on ascending. -/
theorem pairwise_place {es : List Entry} {key : String} (hk : e.key = .text key)
    (ht : ∀ f ∈ es, ∃ s, f.key = .text s) (hn : ∀ f ∈ es, f.key ≠ .text key)
    (hs : es.Pairwise fun a b => a.key.keyBefore b.key = true) :
    (place e es).Pairwise fun a b => a.key.keyBefore b.key = true := by
  induction es with
  | nil => exact List.pairwise_singleton _ _
  | cons f rest ih =>
    obtain ⟨hfirst, hrest⟩ := List.pairwise_cons.mp hs
    obtain ⟨s, hfs⟩ := ht f List.mem_cons_self
    unfold place
    split
    · rename_i hbefore
      refine List.pairwise_cons.mpr ⟨fun g hg => ?_, hs⟩
      rcases List.mem_cons.mp hg with rfl | hg
      · exact hbefore
      · obtain ⟨u, hgu⟩ := ht g (List.mem_cons_of_mem f hg)
        have hnext := hfirst g hg
        rw [hk, hfs, Cell.keyBefore_text] at hbefore
        rw [hfs, hgu, Cell.keyBefore_text] at hnext
        rw [hk, hgu, Cell.keyBefore_text]
        exact Text.before_trans hbefore hnext
    · rename_i hnot
      have htail := ih (fun g hg => ht g (List.mem_cons_of_mem f hg))
        (fun g hg => hn g (List.mem_cons_of_mem f hg)) hrest
      refine List.pairwise_cons.mpr ⟨fun g hg => ?_, htail⟩
      rcases mem_place.mp hg with rfl | hg
      · have hne : f.key ≠ .text key := hn f List.mem_cons_self
        rw [hk, hfs, Cell.keyBefore_text] at hnot
        rw [hfs] at hne
        rw [hk, hfs, Cell.keyBefore_text]
        rcases Text.before_or_eq_or_before s key with h | rfl | h
        · exact h
        · exact absurd rfl hne
        · exact absurd h hnot
      · exact hfirst g hg

/-- The keys ascend, and every row can be read. -/
structure Sound (t : Table) : Prop where
  wellFormed : t.WellFormed
  readable : ∀ e ∈ t.entries, ∃ row, e.row = .ok row

theorem sound_empty : Sound empty :=
  ⟨wellFormed_empty, fun _ he => absurd he List.not_mem_nil⟩

theorem wellFormed_update {test : Entry → Bool} {change : Entry → Entry}
    (h : t.WellFormed) (hc : ∀ e, (change e).key = e.key) :
    (t.update test change).2.WellFormed := by
  have keys : ∀ e : Entry, (if test e then change e else e).key = e.key := fun e => by
    split
    · exact hc e
    · rfl
  constructor
  · refine List.pairwise_map.mpr (h.1.imp fun {a b} hab => ?_)
    rw [keys a, keys b]
    exact hab
  · intro f hf
    obtain ⟨e, he, rfl⟩ := List.mem_map.mp hf
    rw [keys e]
    exact h.2 e he

theorem wellFormed_remove {test : Entry → Bool} (h : t.WellFormed) :
    (t.remove test).2.WellFormed :=
  ⟨h.1.sublist List.filter_sublist, fun f hf => h.2 f (List.mem_filter.mp hf).1⟩

theorem Sound.update {test : Entry → Bool} {change : Entry → Entry} (h : t.Sound)
    (hc : ∀ e, (change e).key = e.key)
    (hr : ∀ e row, e.row = .ok row → ∃ row, (change e).row = .ok row) :
    (t.update test change).2.Sound := by
  refine ⟨wellFormed_update h.wellFormed hc, fun f hf => ?_⟩
  obtain ⟨e, he, rfl⟩ := List.mem_map.mp hf
  obtain ⟨row, hrow⟩ := h.readable e he
  split
  · exact hr e row hrow
  · exact ⟨row, hrow⟩

theorem Sound.remove {test : Entry → Bool} (h : t.Sound) : (t.remove test).2.Sound :=
  ⟨wellFormed_remove h.wellFormed, fun f hf => h.readable f (List.mem_filter.mp hf).1⟩

/-- A change that keeps keys leaves every entry to its resource. -/
theorem isOf_change (resource : String) (test : Entry → Bool) {change : Entry → Entry}
    (hc : ∀ e, (change e).key = e.key) (e : Entry) :
    isOf resource (if test e then change e else e) = isOf resource e := by
  split
  · simp only [isOf, hc]
  · rfl

theorem entryOf?_update (test : Entry → Bool) (change : Entry → Entry)
    (hc : ∀ e, (change e).key = e.key) :
    (t.update test change).2.entryOf? resource =
      (t.entryOf? resource).map fun e => if test e then change e else e := by
  have same : (isOf resource ∘ fun e => if test e then change e else e) = isOf resource :=
    funext (isOf_change resource test hc)
  simp only [entryOf?, update, List.find?_map, same]

theorem Single.entryOf?_remove (h : t.Single resource) {test : Entry → Bool} :
    (t.remove test).2.entryOf? resource = (t.entryOf? resource).filter fun e => !test e := by
  have kept : (t.remove test).2.entryOf? resource =
      ((t.entries.filter (isOf resource)).filter fun e => !test e).head? := by
    rw [entryOf?, ← List.head?_filter]
    exact congrArg List.head? (List.filter_comm _ _ _)
  rw [kept, h.filter_isOf]
  cases t.entryOf? resource with
  | none => rfl
  | some e => cases hpass : test e <;> simp [hpass, Option.filter]

/-! ## Inserting -/

theorem insertIfAbsent_fst {row : LockRow} :
    (t.insertIfAbsent row).1 = (!t.mute && (t.entryOf? row.resource).isNone) := by
  unfold insertIfAbsent
  cases t.mute <;> cases t.entryOf? row.resource <;> rfl

theorem entryOf?_insertIfAbsent (row : LockRow) (other : String) :
    (t.insertIfAbsent row).2.entryOf? other =
      if (t.insertIfAbsent row).1 ∧ other = row.resource then some (Entry.ofRow row)
      else t.entryOf? other := by
  unfold insertIfAbsent
  split
  · simp
  · rename_i hnew
    simp only [Bool.or_eq_true, Option.isSome_iff_ne_none, not_or, ne_eq, not_not] at hnew
    simp only [true_and]
    exact find?_place rfl (entryOf?_eq_none_iff.mp hnew.2)

theorem WellFormed.insertIfAbsent {row : LockRow} (h : t.WellFormed) :
    (t.insertIfAbsent row).2.WellFormed := by
  unfold Table.insertIfAbsent
  split
  · exact h
  · rename_i hnew
    simp only [Bool.or_eq_true, Option.isSome_iff_ne_none, not_or, ne_eq, not_not] at hnew
    have absent := entryOf?_eq_none_iff.mp hnew.2
    refine ⟨pairwise_place rfl h.2 absent h.1, fun f hf => ?_⟩
    rcases mem_place.mp hf with rfl | hf
    · exact ⟨row.resource, rfl⟩
    · exact h.2 f hf

theorem Sound.insertIfAbsent {row : LockRow} (h : t.Sound) : (t.insertIfAbsent row).2.Sound := by
  refine ⟨h.wellFormed.insertIfAbsent, ?_⟩
  unfold Table.insertIfAbsent
  split
  · exact h.readable
  · intro f hf
    rcases mem_place.mp hf with rfl | hf
    · exact ⟨row, Entry.row_ofRow row⟩
    · exact h.readable f hf

/-! ## Taking a stale row over -/

variable {claim : LockRow} {now : Int}

theorem stealIfStale_snd :
    (t.stealIfStale claim now).2 =
      (t.update (fun e => isOf claim.resource e && e.deadline.below now)
        (Entry.takenOver claim)).2 := rfl

theorem Single.stealIfStale_fst (h : t.Single claim.resource) :
    (t.stealIfStale claim now).1 =
      (t.entryOf? claim.resource).any fun e => e.deadline.below now := by
  have one := h.countP_eq_ite
    (fun e => isOf claim.resource e && e.deadline.below now)
    (fun e he => isOf_iff.mp (Bool.and_eq_true_iff.mp he).1)
  simp only [stealIfStale, update, one]
  cases hfound : t.entryOf? claim.resource with
  | none => rfl
  | some e =>
    have hk : isOf claim.resource e = true := isOf_iff.mpr (key_of_entryOf? hfound)
    cases hb : e.deadline.below now <;> simp [hk, hb]

theorem Single.entryOf?_stealIfStale {other : String} (h : t.Single other) (claim : LockRow)
    (now : Int) :
    (t.stealIfStale claim now).2.entryOf? other =
      if (t.stealIfStale claim now).1 ∧ other = claim.resource then some (Entry.ofRow claim)
      else t.entryOf? other := by
  rw [stealIfStale_snd, entryOf?_update _ _ (Entry.key_takenOver claim)]
  by_cases hr : other = claim.resource
  · subst hr
    rw [h.stealIfStale_fst]
    cases hfound : t.entryOf? claim.resource with
    | none => simp
    | some e =>
      have hk : e.key = .text claim.resource := key_of_entryOf? hfound
      cases hb : e.deadline.below now <;> simp [hb, hk, Entry.takenOver_eq_ofRow]
  · cases hfound : t.entryOf? other with
    | none => simp [hr]
    | some e => simp [hr, isOf, key_of_entryOf? hfound]

theorem Sound.stealIfStale (h : t.Sound) : (t.stealIfStale claim now).2.Sound :=
  h.update (Entry.key_takenOver claim) fun _ _ => Entry.takenOver_readable

/-! ## Moving a deadline -/

variable {owner : String} {deadline : Int}

theorem extend_snd :
    (t.extend resource owner deadline).2 =
      (t.update (isOwned resource owner) (Entry.extended deadline)).2 := rfl

theorem Single.countP_isOwned (h : t.Single resource) :
    t.entries.countP (isOwned resource owner) =
      if (t.entryOf? resource).any (fun e => e.owner = .text owner) then 1 else 0 := by
  rw [h.countP_eq_ite (isOwned resource owner) fun e he => (isOwned_iff.mp he).1]
  cases hfound : t.entryOf? resource with
  | none => rfl
  | some e => simp [isOwned, key_of_entryOf? hfound]

theorem Single.extend_fst (h : t.Single resource) :
    (t.extend resource owner deadline).1 =
      (t.entryOf? resource).any fun e => e.owner = .text owner := by
  simp only [extend, update, h.countP_isOwned]
  cases (t.entryOf? resource).any fun e => e.owner = .text owner <;> rfl

theorem Single.entryOf?_extend {other : String} (h : t.Single other) (resource owner : String)
    (deadline : Int) :
    (t.extend resource owner deadline).2.entryOf? other =
      if (t.extend resource owner deadline).1 ∧ other = resource then
        (t.entryOf? resource).map (Entry.extended deadline)
      else t.entryOf? other := by
  rw [extend_snd, entryOf?_update _ _ (Entry.key_extended deadline)]
  by_cases hr : other = resource
  · subst hr
    rw [h.extend_fst]
    cases hfound : t.entryOf? other with
    | none => simp
    | some e => by_cases ho : e.owner = .text owner <;> simp [isOwned, key_of_entryOf? hfound, ho]
  · cases hfound : t.entryOf? other with
    | none => simp [hr]
    | some e => simp [hr, isOwned, key_of_entryOf? hfound]

theorem Sound.extend (h : t.Sound) : (t.extend resource owner deadline).2.Sound :=
  h.update (Entry.key_extended deadline) fun _ _ => Entry.extended_readable

/-! ## Giving up and sweeping -/

theorem Single.delete_fst (h : t.Single resource) :
    (t.delete resource owner).1 = (t.entryOf? resource).any fun e => e.owner = .text owner := by
  simp only [delete, remove, h.countP_isOwned]
  cases (t.entryOf? resource).any fun e => e.owner = .text owner <;> rfl

theorem Single.entryOf?_delete {other : String} (h : t.Single other) (resource owner : String) :
    (t.delete resource owner).2.entryOf? other =
      if (t.delete resource owner).1 ∧ other = resource then none else t.entryOf? other := by
  have after : (t.delete resource owner).2.entryOf? other = _ := h.entryOf?_remove
  rw [after]
  by_cases hr : other = resource
  · subst hr
    rw [h.delete_fst]
    cases hfound : t.entryOf? other with
    | none => simp
    | some e => by_cases ho : e.owner = .text owner <;> simp [isOwned, key_of_entryOf? hfound, ho]
  · cases hfound : t.entryOf? other with
    | none => simp [hr]
    | some e => simp [hr, isOwned, key_of_entryOf? hfound]

theorem Sound.delete (h : t.Sound) : (t.delete resource owner).2.Sound := h.remove

theorem Single.entryOf?_purgeBefore (h : t.Single resource) (cutoff : Int) :
    (t.purgeBefore cutoff).2.entryOf? resource =
      (t.entryOf? resource).filter fun e => !e.deadline.below cutoff :=
  h.entryOf?_remove

theorem Sound.purgeBefore (h : t.Sound) {cutoff : Int} : (t.purgeBefore cutoff).2.Sound :=
  h.remove

/-! ## What every statement keeps -/

/-- A property of tables that the statements of clients keep. -/
structure Kept (P : Table → Prop) : Prop where
  insertIfAbsent : ∀ {t : Table} {row}, P t → P (t.insertIfAbsent row).2
  stealIfStale : ∀ {t : Table} {claim now}, P t → P (t.stealIfStale claim now).2
  extend : ∀ {t : Table} {resource owner deadline}, P t → P (t.extend resource owner deadline).2
  delete : ∀ {t : Table} {resource owner}, P t → P (t.delete resource owner).2
  purgeBefore : ∀ {t : Table} {cutoff}, P t → P (t.purgeBefore cutoff).2

theorem kept_wellFormed : Kept WellFormed where
  insertIfAbsent := WellFormed.insertIfAbsent
  stealIfStale h := wellFormed_update h (Entry.key_takenOver _)
  extend h := wellFormed_update h (Entry.key_extended _)
  delete := wellFormed_remove
  purgeBefore := wellFormed_remove

theorem countP_place (test : Entry → Bool) (e : Entry) (es : List Entry) :
    (place e es).countP test = (e :: es).countP test := by
  induction es with
  | nil => rfl
  | cons f rest ih =>
    unfold place
    split
    · rfl
    · rw [List.countP_cons, ih, List.countP_cons, List.countP_cons, List.countP_cons]
      omega

theorem single_update {test : Entry → Bool} {change : Entry → Entry} (h : t.Single resource)
    (hc : ∀ e, (change e).key = e.key) : (t.update test change).2.Single resource := by
  have same : (isOf resource ∘ fun e => if test e then change e else e) = isOf resource :=
    funext (isOf_change resource test hc)
  unfold Single update
  rw [List.countP_map, same]
  exact h

theorem single_remove {test : Entry → Bool} (h : t.Single resource) :
    (t.remove test).2.Single resource :=
  Nat.le_trans (List.filter_sublist.countP_le) h

/-- An entry of a resource may be placed where no entry has its key. -/
theorem single_place {e : Entry} (h : t.Single resource)
    (new : isOf resource e → ∀ f ∈ t.entries, f.key ≠ e.key) :
    Single resource { t with entries := place e t.entries } := by
  show (place e t.entries).countP (isOf resource) ≤ 1
  rw [countP_place, List.countP_cons]
  split
  · rename_i own
    have absent : t.entries.countP (isOf resource) = 0 := by
      refine List.countP_eq_zero.mpr fun f hf hof => ?_
      exact new own f hf ((isOf_iff.mp hof).trans (isOf_iff.mp own).symm)
    omega
  · exact h

theorem kept_single (resource : String) : Kept (Single resource) where
  insertIfAbsent {t row} h := by
    unfold Table.insertIfAbsent
    split
    · exact h
    · rename_i hnew
      simp only [Bool.or_eq_true, Option.isSome_iff_ne_none, not_or, ne_eq, not_not] at hnew
      exact single_place h fun _ => entryOf?_eq_none_iff.mp hnew.2
  stealIfStale h := single_update h (Entry.key_takenOver _)
  extend h := single_update h (Entry.key_extended _)
  delete := single_remove
  purgeBefore := single_remove

/-- The key keeps other programs, too, from giving a resource two rows. -/
theorem single_insertValues (h : t.Single resource) (e : Entry) :
    (t.insertValues e).2.Single resource := by
  unfold insertValues
  split
  · exact h
  · split
    · exact h
    · rename_i free
      refine single_place h fun own f hf same => free ?_
      simp only [isOf_iff.mp own] at same ⊢
      simpa using ⟨f, hf, same⟩

theorem kept_sound : Kept Sound where
  insertIfAbsent := Sound.insertIfAbsent
  stealIfStale := Sound.stealIfStale
  extend := Sound.extend
  delete := Sound.delete
  purgeBefore h := h.purgeBefore

theorem kept_mute (b : Bool) : Kept (·.mute = b) where
  insertIfAbsent {t row} h := by
    unfold Table.insertIfAbsent
    split <;> exact h
  stealIfStale := id
  extend := id
  delete := id
  purgeBefore := id

theorem Kept.and {P Q : Table → Prop} (hP : Kept P) (hQ : Kept Q) : Kept fun t => P t ∧ Q t where
  insertIfAbsent h := ⟨hP.insertIfAbsent h.1, hQ.insertIfAbsent h.2⟩
  stealIfStale h := ⟨hP.stealIfStale h.1, hQ.stealIfStale h.2⟩
  extend h := ⟨hP.extend h.1, hQ.extend h.2⟩
  delete h := ⟨hP.delete h.1, hQ.delete h.2⟩
  purgeBefore h := ⟨hP.purgeBefore h.1, hQ.purgeBefore h.2⟩

/-! ## Reading -/

/-- The row of a resource, if there is one that can be read. -/
def row? (t : Table) (resource : String) : Option LockRow :=
  (t.entryOf? resource).bind fun e => e.row.toOption

theorem row?_eq_some_iff {row : LockRow} :
    t.row? resource = some row ↔ ∃ e, t.entryOf? resource = some e ∧ e.row = .ok row := by
  unfold row?
  rw [Option.bind_eq_some_iff]
  refine exists_congr fun e => and_congr_right fun _ => ?_
  cases e.row <;> simp [Except.toOption]

theorem Sound.exists_row (h : t.Sound) (he : t.entryOf? resource = some e) :
    ∃ row, e.row = .ok row ∧ t.row? resource = some row := by
  obtain ⟨row, hrow⟩ := h.readable e (mem_of_entryOf? he)
  exact ⟨row, hrow, row?_eq_some_iff.mpr ⟨e, he, hrow⟩⟩

theorem Sound.row?_eq_none_iff (h : t.Sound) :
    t.row? resource = none ↔ t.entryOf? resource = none := by
  constructor
  · intro hnone
    cases he : t.entryOf? resource with
    | none => rfl
    | some e =>
      obtain ⟨row, -, hrow⟩ := h.exists_row he
      rw [hnone] at hrow
      cases hrow
  · intro hnone
    simp [row?, hnone]

/-- A row that can be read is selected. -/
theorem select_of_row {row : LockRow} (he : t.entryOf? resource = some e) (hrow : e.row = .ok row) :
    t.select resource = .ok (some row) := by
  simp [select, he, hrow, Except.map]

theorem isActive_of_entryOf? {now : Int} (he : t.entryOf? resource = some e)
    (ho : e.owner = .text owner) (hd : e.deadline.atLeast now = true) :
    t.isActive resource owner now = true := by
  refine List.any_eq_true.mpr ⟨e, mem_of_entryOf? he, ?_⟩
  rw [hd, Bool.and_true]
  exact isOwned_iff.mpr ⟨key_of_entryOf? he, ho⟩

end Table

/-! ## Databases -/

namespace Database

variable {db : Database} {resource : String} {e : Entry} {row : LockRow}

/-- There is a table, and it has a property. -/
def Has (P : Table → Prop) (db : Database) : Prop := ∃ t, db = ⟨some t⟩ ∧ P t

/-- There is a table, and it is sound. -/
abbrev Sound (db : Database) : Prop := db.Has Table.Sound

theorem Has.imp {P Q : Table → Prop} (hPQ : ∀ t, P t → Q t) (h : db.Has P) : db.Has Q := by
  obtain ⟨t, rfl, ht⟩ := h
  exact ⟨t, rfl, hPQ t ht⟩

theorem Sound.single (h : db.Sound) (resource : String) : db.Has (Table.Single resource) :=
  h.imp fun _ sound => sound.wellFormed.single resource

/-- The entry of a resource. -/
def entryOf? (db : Database) (resource : String) : Option Entry :=
  db.table.bind (Table.entryOf? · resource)

/-- The row of a resource, if there is one that can be read. -/
def row? (db : Database) (resource : String) : Option LockRow :=
  db.table.bind (Table.row? · resource)

/-- The row of a resource is an owner's. -/
def ownedBy (resource owner : String) (db : Database) : Bool :=
  (db.entryOf? resource).any fun e => e.owner = .text owner

@[simp] theorem entryOf?_some (t : Table) :
    (⟨some t⟩ : Database).entryOf? resource = t.entryOf? resource := rfl

@[simp] theorem row?_some (t : Table) : (⟨some t⟩ : Database).row? resource = t.row? resource := rfl

theorem row?_eq_some_iff :
    db.row? resource = some row ↔ ∃ e, db.entryOf? resource = some e ∧ e.row = .ok row := by
  cases db with
  | mk table =>
    cases table with
    | none => simp [row?, entryOf?]
    | some t => exact Table.row?_eq_some_iff

theorem Sound.exists_row (h : db.Sound) (he : db.entryOf? resource = some e) :
    ∃ row, e.row = .ok row ∧ db.row? resource = some row := by
  obtain ⟨t, rfl, ht⟩ := h
  exact ht.exists_row he

theorem Sound.row?_eq_none_iff (h : db.Sound) :
    db.row? resource = none ↔ db.entryOf? resource = none := by
  obtain ⟨t, rfl, ht⟩ := h
  exact ht.row?_eq_none_iff

end Database

/-! ## Attempts -/

namespace Attempt

variable {t : Table} {claim : Claim}

/-- The lock was granted. -/
def isGranted : Attempt → Bool
  | done ending => ending.granted
  | insert | read | steal _ => false

theorem step_insert :
    step claim insert ⟨some t⟩ =
      (if (t.insertIfAbsent claim.row).1 then done .inserted else read,
        ⟨some (t.insertIfAbsent claim.row).2⟩) := by
  simp only [step, Database.insertIfAbsent, Database.run_some]
  cases (t.insertIfAbsent claim.row).1 <;> rfl

/-- What a reader does next if the row can be read. -/
theorem step_read_of_row {e : Entry} {row : LockRow} (he : t.entryOf? claim.row.resource = some e)
    (hrow : e.row = .ok row) :
    step claim read ⟨some t⟩ =
      (if row.isStaleAt claim.now then steal row else done (.held row), ⟨some t⟩) := by
  have found := Table.select_of_row he hrow
  simp only [step, Database.select, Database.ask, found, Except.mapError]
  cases row.isStaleAt claim.now <;> rfl

/-- A reader changes nothing, and it is not granted the lock. -/
theorem step_read (claim : Claim) (db : Database) :
    (step claim read db).1.isGranted = false ∧ (step claim read db).2 = db := by
  have same := Database.select_snd claim.row.resource db
  simp only [step]
  split
  · rename_i heq
    exact ⟨rfl, by rw [← same, heq]⟩
  · rename_i row db' heq
    rw [heq] at same
    split <;> exact ⟨rfl, same⟩
  · rename_i heq
    exact ⟨rfl, by rw [← same, heq]⟩

theorem step_steal {seen : LockRow} :
    step claim (steal seen) ⟨some t⟩ =
      (if (t.stealIfStale claim.row claim.now).1 then done (.tookOver seen) else done .lostRace,
        ⟨some (t.stealIfStale claim.row claim.now).2⟩) := by
  simp only [step, Database.stealIfStale, Database.run_some]
  cases (t.stealIfStale claim.row claim.now).1 <;> rfl

end Attempt

end Leasehold

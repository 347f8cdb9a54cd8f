import Leasehold.Lock.Heartbeat
import Leasehold.Proofs.Lock.Statements
import Leasehold.Proofs.World.Programs
import Leasehold.Proofs.World.Storage

/-!
# What a renewal pass does

The held locks are seen through `Held.lock?`.  A pass over a snapshot leaves the
lock of a resource and its row alone until it comes to that resource, whatever
becomes of the other entries; there it moves the deadline (`Held.renewAll_keeps`).
`Heartbeat.tick_spec` says that a tick is such a pass over all that is held.

A pass deals with the store in its statements only.  What becomes of the held locks depends on
their answers alone (`Held.renewAll_eq`), so that a pass with any answers is one as well
(`Heartbeat.renewBy`).
-/

namespace Leasehold

open Program

namespace Held

variable {held : Held} {lock l : HeldLock} {resource owner : String}

/-- The resources ascend, so that no resource is held twice. -/
def WellFormed (held : Held) : Prop :=
  held.Pairwise fun a b => Text.before a.resource b.resource = true

theorem wellFormed_nil : WellFormed [] := List.Pairwise.nil

/-- Every lock is the one that is found under its resource. -/
theorem WellFormed.lock?_of_mem (h : held.WellFormed) (hl : l ∈ held) :
    held.lock? l.resource = some l := by
  induction held with
  | nil => cases hl
  | cons first rest ih =>
    obtain ⟨hfirst, hrest⟩ := List.pairwise_cons.mp h
    rcases List.mem_cons.mp hl with rfl | hmem
    · simp [lock?]
    · have hne : first.resource ≠ l.resource := by
        intro heq
        have hbefore := hfirst l hmem
        rw [heq, Text.before_irrefl] at hbefore
        cases hbefore
      simpa [lock?, hne] using ih hrest hmem

/-- What is held is what is found under its resource. -/
theorem WellFormed.mem_iff (h : held.WellFormed) : l ∈ held ↔ held.lock? l.resource = some l :=
  ⟨h.lock?_of_mem, List.mem_of_find?_eq_some⟩

/-- Two locks that are held on one resource are the same. -/
theorem WellFormed.eq_of_mem (h : held.WellFormed) (hl : l ∈ held) (hlock : lock ∈ held)
    (same : l.resource = lock.resource) : l = lock := by
  have found := h.lock?_of_mem hl
  rw [same, h.lock?_of_mem hlock] at found
  exact (Option.some.inj found).symm

/-! ## Taking locks in and dropping them -/

theorem mem_track (hl : l ∈ held.track lock) : l = lock ∨ l ∈ held := by
  induction held with
  | nil => exact .inl (List.mem_singleton.mp hl)
  | cons first rest ih =>
    unfold track at hl
    split at hl
    · rcases List.mem_cons.mp hl with rfl | hmem
      · exact .inl rfl
      · exact .inr (List.mem_cons_of_mem first hmem)
    · split at hl
      · rcases List.mem_cons.mp hl with rfl | hmem
        · exact .inl rfl
        · exact .inr hmem
      · rcases List.mem_cons.mp hl with rfl | hmem
        · exact .inr List.mem_cons_self
        · exact (ih hmem).imp_right (List.mem_cons_of_mem first)

theorem WellFormed.track (h : held.WellFormed) : (held.track lock).WellFormed := by
  induction held with
  | nil => exact List.pairwise_singleton _ _
  | cons first rest ih =>
    obtain ⟨hfirst, hrest⟩ := List.pairwise_cons.mp h
    unfold Held.track
    split
    · rename_i heq
      refine List.pairwise_cons.mpr ⟨fun l hl => ?_, hrest⟩
      rw [heq]
      exact hfirst l hl
    · rename_i hne
      split
      · rename_i hbefore
        refine List.pairwise_cons.mpr ⟨fun l hl => ?_, h⟩
        rcases List.mem_cons.mp hl with rfl | hmem
        · exact hbefore
        · exact Text.before_trans hbefore (hfirst l hmem)
      · rename_i hnot
        refine List.pairwise_cons.mpr ⟨fun l hl => ?_, ih hrest⟩
        rcases mem_track hl with rfl | hmem
        · rcases Text.before_or_eq_or_before first.resource l.resource with h | h | h
          · exact h
          · exact absurd h.symm hne
          · exact absurd h hnot
        · exact hfirst l hmem

theorem lock?_track_self (lock : HeldLock) (held : Held) :
    (held.track lock).lock? lock.resource = some lock := by
  induction held with
  | nil => simp [Held.track, lock?]
  | cons first rest ih =>
    unfold Held.track
    split
    · simp [lock?]
    · rename_i hne
      split
      · simp [lock?]
      · simpa [lock?, Ne.symm hne] using ih

theorem lock?_track_of_ne (h : resource ≠ lock.resource) :
    (held.track lock).lock? resource = held.lock? resource := by
  induction held with
  | nil => simp [Held.track, lock?, Ne.symm h]
  | cons first rest ih =>
    unfold Held.track
    split
    · rename_i heq
      have hne : first.resource ≠ resource := by
        rw [← heq]
        exact Ne.symm h
      simp [lock?, Ne.symm h, hne]
    · split
      · simp [lock?, Ne.symm h]
      · simp only [lock?, List.find?_cons] at ih ⊢
        rw [ih]

theorem WellFormed.drop (h : held.WellFormed) (resource : String) :
    (held.drop resource).WellFormed :=
  h.sublist List.filter_sublist

theorem lock?_drop_of_ne {other : String} (h : resource ≠ other) :
    (held.drop other).lock? resource = held.lock? resource := by
  unfold lock? drop
  rw [List.find?_filter]
  congr 1
  funext l
  by_cases hl : l.resource = resource
  · simp [hl, h]
  · simp [hl]

theorem WellFormed.untrack (h : held.WellFormed) : (held.untrack resource owner).2.WellFormed := by
  unfold Held.untrack
  split
  · split
    · exact h.drop resource
    · exact h
  · exact h

theorem lock?_untrack_of_ne {other : String} (h : resource ≠ other) :
    (held.untrack other owner).2.lock? resource = held.lock? resource := by
  unfold Held.untrack
  split
  · split
    · exact lock?_drop_of_ne h
    · rfl
  · rfl

theorem WellFormed.dropSame (h : held.WellFormed) : (held.dropSame lock).2.WellFormed := by
  unfold Held.dropSame
  split
  · exact h.drop lock.resource
  · exact h

theorem lock?_dropSame_of_ne (h : resource ≠ lock.resource) :
    (held.dropSame lock).2.lock? resource = held.lock? resource := by
  unfold Held.dropSame
  split
  · exact lock?_drop_of_ne h
  · rfl

/-! ### What is held after it -/

theorem WellFormed.mem_track_iff (h : held.WellFormed) :
    l ∈ held.track lock ↔ l = lock ∨ l ∈ held ∧ l.resource ≠ lock.resource := by
  rw [h.track.mem_iff]
  by_cases same : l.resource = lock.resource
  · rw [same, lock?_track_self]
    constructor
    · intro found
      exact .inl (Option.some.inj found).symm
    · rintro (rfl | ⟨-, other⟩)
      · rfl
      · exact absurd rfl other
  · rw [lock?_track_of_ne same, ← h.mem_iff]
    constructor
    · exact fun hl => .inr ⟨hl, same⟩
    · rintro (rfl | ⟨hl, -⟩)
      · exact absurd rfl same
      · exact hl

theorem mem_drop_iff : l ∈ held.drop resource ↔ l ∈ held ∧ l.resource ≠ resource := by
  simp [drop]

theorem WellFormed.mem_untrack_iff (h : held.WellFormed) :
    l ∈ (held.untrack resource owner).2 ↔
      l ∈ held ∧ ¬ (l.resource = resource ∧ l.owner = owner) := by
  have kept : (∀ found, held.lock? resource = some found → found.owner ≠ owner) →
      (l ∈ held ↔ l ∈ held ∧ ¬ (l.resource = resource ∧ l.owner = owner)) := by
    intro others
    refine ⟨fun hl => ⟨hl, ?_⟩, And.left⟩
    rintro ⟨rfl, rfl⟩
    exact others l (h.lock?_of_mem hl) rfl
  unfold Held.untrack
  cases hfound : held.lock? resource with
  | none => exact kept (by rw [hfound]; nofun)
  | some found =>
    dsimp only
    split
    · rename_i owned
      rw [mem_drop_iff]
      refine and_congr_right fun hl => not_congr ⟨fun same => ⟨same, ?_⟩, And.left⟩
      subst same
      rw [h.lock?_of_mem hl] at hfound
      rw [Option.some.inj hfound, owned]
    · rename_i foreign
      refine kept fun other hother => ?_
      rw [hfound] at hother
      cases hother
      exact foreign

/-! ## One entry of a pass -/

variable {now : Int} {db : Database} {e : Entry}

theorem renew_some (t : Table) :
    held.renew now lock ⟨some t⟩ =
      if (t.extend lock.resource lock.owner (deadlineAfter now lock.lease)).1 then
        (⟨lock, .refreshed, none⟩, held,
          ⟨some (t.extend lock.resource lock.owner (deadlineAfter now lock.lease)).2⟩)
      else
        (⟨lock, if (held.dropSame lock).1 then .lost else .obsolete, none⟩,
          (held.dropSame lock).2,
          ⟨some (t.extend lock.resource lock.owner (deadlineAfter now lock.lease)).2⟩) := by
  simp only [renew, Database.extend, Database.run_some]
  cases (t.extend lock.resource lock.owner (deadlineAfter now lock.lease)).1 <;> rfl

theorem renew_has {P : Table → Prop} (kept : Table.Kept P) (held : Held) (lock : HeldLock)
    (now : Int) (h : db.Has P) : (held.renew now lock db).2.2.Has P := by
  obtain ⟨t, rfl, ht⟩ := h
  rw [renew_some]
  split <;> exact ⟨_, rfl, kept.extend ht⟩

/-- The renewal of another resource. -/
theorem renew_of_ne (held : Held) (now : Int) (table : db.Has (Table.Single resource))
    (h : resource ≠ lock.resource) :
    (held.renew now lock db).1.lock = lock ∧
      (held.renew now lock db).2.1.lock? resource = held.lock? resource ∧
      (held.renew now lock db).2.2.entryOf? resource = db.entryOf? resource := by
  obtain ⟨t, rfl, ht⟩ := table
  have after := ht.entryOf?_extend lock.resource lock.owner (deadlineAfter now lock.lease)
  rw [if_neg fun hboth => h hboth.2] at after
  rw [renew_some]
  split
  · exact ⟨rfl, rfl, after⟩
  · exact ⟨rfl, lock?_dropSame_of_ne h, after⟩

/-- The renewal of a lock whose row is still its owner's. -/
theorem renew_of_owned (held : Held) (now : Int) (table : db.Has (Table.Single lock.resource))
    (row : db.entryOf? lock.resource = some e) (owned : e.owner = .text lock.owner) :
    (held.renew now lock db).1 = ⟨lock, .refreshed, none⟩ ∧
      (held.renew now lock db).2.1 = held ∧
      (held.renew now lock db).2.2.entryOf? lock.resource =
        some (e.extended (deadlineAfter now lock.lease)) := by
  obtain ⟨t, rfl, ht⟩ := table
  rw [Database.entryOf?_some] at row
  have hext : (t.extend lock.resource lock.owner (deadlineAfter now lock.lease)).1 = true := by
    rw [ht.extend_fst, row]
    simp [owned]
  have after := ht.entryOf?_extend lock.resource lock.owner (deadlineAfter now lock.lease)
  rw [renew_some, hext]
  rw [hext, row] at after
  exact ⟨rfl, rfl, by simpa using after⟩

/-! ## A whole pass -/

@[simp] theorem renewAll_nil (now : Int) (held : Held) (db : Database) :
    renewAll now [] held db = ([], held, db) := rfl

@[simp] theorem renewAll_cons (now : Int) (l : HeldLock) (rest : List HeldLock) (held : Held)
    (db : Database) :
    renewAll now (l :: rest) held db =
      ((held.renew now l db).1 ::
          (renewAll now rest (held.renew now l db).2.1 (held.renew now l db).2.2).1,
        (renewAll now rest (held.renew now l db).2.1 (held.renew now l db).2.2).2) := rfl

theorem renewAll_has {P : Table → Prop} (kept : Table.Kept P) (now : Int)
    (snapshot : List HeldLock) (held : Held) (h : db.Has P) :
    (renewAll now snapshot held db).2.2.Has P := by
  induction snapshot generalizing held db with
  | nil => exact h
  | cons l rest ih => exact ih _ (renew_has kept held l now h)

/-- A pass in which a resource comes up only as the lock that is held on it, and whose row is
its owner's: the lock is never lost and stays held, and if it comes up its deadline is moved. -/
theorem renewAll_keeps (now : Int) (snapshot : List HeldLock)
    (only : ∀ l ∈ snapshot, l.resource = lock.resource → l = lock)
    (tracked : held.lock? lock.resource = some lock)
    (table : db.Has (Table.Single lock.resource)) (row : db.entryOf? lock.resource = some e)
    (owned : e.owner = .text lock.owner) :
    (renewAll now snapshot held db).2.1.lock? lock.resource = some lock ∧
      (∀ entry ∈ (renewAll now snapshot held db).1, entry.lock.resource = lock.resource →
        entry.renewal = .refreshed) ∧
      (renewAll now snapshot held db).2.2.entryOf? lock.resource =
        some (if lock ∈ snapshot then e.extended (deadlineAfter now lock.lease) else e) := by
  induction snapshot generalizing held db e with
  | nil => exact ⟨tracked, fun entry hentry => absurd hentry List.not_mem_nil, by simpa using row⟩
  | cons l rest ih =>
    have table' := renew_has (Table.kept_single _) held l now table
    have only' := fun l' hl' => only l' (List.mem_cons_of_mem l hl')
    by_cases hl : l.resource = lock.resource
    · obtain rfl := only l List.mem_cons_self hl
      obtain ⟨hentry, hheld, hrow⟩ := renew_of_owned held now table row owned
      obtain ⟨tracked', refreshed, row'⟩ := ih only' (hheld ▸ tracked) table' hrow owned
      refine ⟨tracked', fun entry hmem hr => ?_, ?_⟩
      · rw [renewAll_cons] at hmem
        rcases List.mem_cons.mp hmem with heq | hmem
        · rw [heq, hentry]
        · exact refreshed entry hmem hr
      · rw [renewAll_cons, row']
        simp [Entry.extended]
    · obtain ⟨hentry, hheld, hrow⟩ := renew_of_ne held now table (Ne.symm hl)
      obtain ⟨tracked', refreshed, row'⟩ :=
        ih only' (hheld.trans tracked) table' (hrow.trans row) owned
      refine ⟨tracked', fun entry hmem hr => ?_, ?_⟩
      · rw [renewAll_cons] at hmem
        rcases List.mem_cons.mp hmem with heq | hmem
        · rw [heq, hentry] at hr
          exact absurd hr hl
        · exact refreshed entry hmem hr
      · have hne : lock ≠ l := fun heq => hl (heq ▸ rfl)
        rw [renewAll_cons, row']
        simp [hne]

/-! ## Passes by their answers -/

/-- The answers to the statements of a pass, and the database after them. -/
def extendAll (now : Int) :
    List HeldLock → Database → List (Except StoreFault Bool) × Database
  | [], db => ([], db)
  | lock :: rest, db =>
    let (answer, db) := db.extend lock.resource lock.owner (deadlineAfter now lock.lease)
    let (answers, db) := extendAll now rest db
    (answer :: answers, db)

/-- What becomes of an entry of the snapshot with the answer to its statement. -/
def conclude (lock : HeldLock) (answer : Except StoreFault Bool) (held : Held) :
    RenewedEntry × Held :=
  match answer with
  | .ok true => (⟨lock, .refreshed, none⟩, held)
  | answer =>
    let fault := match answer with
      | .error f => some f
      | .ok _ => none
    let (dropped, held) := held.dropSame lock
    (⟨lock, if dropped then .lost else .obsolete, fault⟩, held)

/-- What becomes of a snapshot with the answers to its statements. -/
def concludeAll : List (HeldLock × Except StoreFault Bool) → Held → List RenewedEntry × Held
  | [], held => ([], held)
  | (lock, answer) :: rest, held =>
    let (entry, held) := held.conclude lock answer
    let (entries, held) := concludeAll rest held
    (entry :: entries, held)

theorem renew_eq (now : Int) (lock : HeldLock) (held : Held) (db : Database) :
    held.renew now lock db =
      let reply := db.extend lock.resource lock.owner (deadlineAfter now lock.lease)
      ((held.conclude lock reply.1).1, (held.conclude lock reply.1).2, reply.2) := by
  unfold renew conclude
  generalize db.extend lock.resource lock.owner (deadlineAfter now lock.lease) = reply
  obtain ⟨answer, db⟩ := reply
  cases answer with
  | error f => rfl
  | ok b => cases b <;> rfl

/-- A pass that nobody disturbs is its statements, and what their answers come to. -/
theorem renewAll_eq (now : Int) (snapshot : List HeldLock) (held : Held) (db : Database) :
    renewAll now snapshot held db =
      let (answers, db) := extendAll now snapshot db
      let (entries, held) := concludeAll (snapshot.zip answers) held
      (entries, held, db) := by
  induction snapshot generalizing held db with
  | nil => rfl
  | cons lock rest ih =>
    rw [renewAll_cons, renew_eq, ih]
    rfl

theorem conclude_held (lock : HeldLock) (answer : Except StoreFault Bool) (held : Held) :
    (held.conclude lock answer).2 = if answer = .ok true then held else (held.dropSame lock).2 := by
  unfold conclude
  cases answer with
  | error f => rfl
  | ok b => cases b <;> rfl

theorem WellFormed.conclude (h : held.WellFormed) (answer : Except StoreFault Bool) :
    (held.conclude lock answer).2.WellFormed := by
  rw [conclude_held]
  split
  · exact h
  · exact h.dropSame

theorem WellFormed.concludeAll (h : held.WellFormed)
    (answers : List (HeldLock × Except StoreFault Bool)) :
    (held.concludeAll answers).2.WellFormed := by
  induction answers generalizing held with
  | nil => exact h
  | cons pair rest ih => exact ih (h.conclude pair.2)

theorem WellFormed.renewAll (h : held.WellFormed) (now : Int) (snapshot : List HeldLock)
    (db : Database) : (renewAll now snapshot held db).2.1.WellFormed := by
  rw [renewAll_eq]
  exact h.concludeAll _

end Held

/-- The statements of a pass of a client, put to its store. -/
def Client.extendAll (c : Client) (now : Int) (snapshot : List HeldLock) :
    StateM World (List (Except StoreFault Bool)) := fun w =>
  let (answers, db) := Held.extendAll now snapshot (c.store.database w)
  (answers, c.store.setDatabase w db)

/-- A pass over a snapshot for whose statements any program may stand, so that the store may fail
and others may change it in the course of the pass. -/
def Heartbeat.renewBy (h : Heartbeat) (snapshot : List HeldLock)
    (statements : StateM World (List (Except StoreFault Bool))) :
    StateM World (RenewalReport × Heartbeat) := do
  let answers ← statements
  let (entries, held) := h.held.concludeAll (snapshot.zip answers)
  for r in entries.flatMap RenewedEntry.records do
    modify (Journal.note r)
  return (RenewalReport.ofEntries entries, { h with held })

/-- A pass puts its statements to the store of its client. -/
theorem Heartbeat.renewAt_eq (h : Heartbeat) (snapshot : List HeldLock) (now : Int) :
    h.renewAt snapshot now = h.renewBy snapshot (h.client.extendAll now snapshot) := by
  funext w
  rw [renewAt, renewBy, bind_at, bind_at]
  dsimp only [Client.extendAll]
  rw [Held.renewAll_eq]

/-! ## Ticks -/

theorem RenewalReport.lost_refreshed {entries : List RenewedEntry} {resource : String}
    (h : ∀ entry ∈ entries, entry.lock.resource = resource → entry.renewal = .refreshed) :
    ∀ l ∈ (ofEntries entries).lost, l.resource ≠ resource := by
  intro l hl hr
  obtain ⟨entry, hentry, rfl⟩ := List.mem_map.mp hl
  obtain ⟨hmem, hlost⟩ := List.mem_filter.mp hentry
  rw [h entry hmem hr] at hlost
  cases hlost

namespace Heartbeat

variable {h : Heartbeat} {w : World} {now : Int}

theorem track_spec (h : Heartbeat) (resource owner : String) (lease : Span) (w : World) :
    (h.track resource owner lease w).1 =
        { h with held := h.held.track ⟨resource, owner, lease⟩ } ∧
      w.Alike (h.track resource owner lease w).2 := by
  unfold track
  split
  · exact ⟨rfl, World.alike_note _ _⟩
  · exact ⟨rfl, World.Alike.refl _⟩

/-- Notes are no more than notes. -/
theorem notes_alike (records : List LogRecord) (w : World) :
    w.Alike ((forIn records PUnit.unit fun r _ => do
      modify (Journal.note r)
      pure (ForInStep.yield PUnit.unit) : StateM World PUnit) w).2 := by
  induction records generalizing w with
  | nil => exact World.Alike.refl w
  | cons r rest ih =>
    rw [List.forIn_cons]
    exact (World.alike_note r w).trans (ih _)

theorem renewAt_spec {snapshot : List HeldLock} {entries : List RenewedEntry} {held : Held}
    {db : Database}
    (hpass : Held.renewAll now snapshot h.held (h.client.store.database w) = (entries, held, db)) :
    (h.renewAt snapshot now w).1 = (RenewalReport.ofEntries entries, { h with held }) ∧
      (h.client.store.setDatabase w db).Alike (h.renewAt snapshot now w).2 := by
  unfold renewAt
  simp only [bind, StateT.bind, hpass]
  exact ⟨rfl, notes_alike _ _⟩

/-- A tick is a renewal pass over all that is held. -/
theorem tick_spec (hnow : w.clock.reading? = some now) (some : h.held ≠ [])
    {entries : List RenewedEntry} {held : Held} {db : Database}
    (hpass : Held.renewAll now h.held h.held (h.client.store.database w) = (entries, held, db)) :
    (h.tick w).1 = (.some (RenewalReport.ofEntries entries), { h with held }) ∧
      (h.client.store.setDatabase w db).Alike (h.tick w).2 := by
  obtain ⟨hanswer, halike⟩ := renewAt_spec hpass
  have nonempty : h.held.isEmpty = false := by
    simpa [List.isEmpty_eq_false_iff] using some
  unfold tick
  simp only [nonempty, Bool.false_eq_true, if_false, bind, StateT.bind,
    World.atNow_of_some hnow]
  generalize h.renewAt h.held now w = reply at hanswer halike ⊢
  obtain ⟨answer, w'⟩ := reply
  cases hanswer
  exact ⟨rfl, halike⟩

end Heartbeat

end Leasehold

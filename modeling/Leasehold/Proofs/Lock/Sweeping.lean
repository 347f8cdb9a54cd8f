import Leasehold.Proofs.Lock.Effect
import Mathlib.Data.List.Sort

/-!
# A sweep is invisible

A store that was swept and one that was not are asked the same by clients that want locks or the
state of theirs, at times that do not come before the sweep.  They answer alike.

The invariant is that the one table is the other one without the rows that are past the cutoff
of the sweep (`Twins`).  A call keeps it (`Twins.call`): a row past the cutoff is stale for every
reading since, so it is taken over in the one table where the other one has nothing in the way;
and neither writes a row that is past the cutoff.  So the rows past the cutoff go on being rows
that the sweep has removed and that nobody has asked for since.
-/

namespace Leasehold

namespace Table

variable {t t' : Table} {e : Entry} {resource : String}

/-! ## Tables with the same rows -/

theorem WellFormed.mem_iff (h : t.WellFormed) :
    e ∈ t.entries ↔ ∃ resource, t.entryOf? resource = some e := by
  constructor
  · intro he
    obtain ⟨resource, hk⟩ := h.2 e he
    exact ⟨resource, (h.single resource).entryOf?_of_mem he hk⟩
  · rintro ⟨resource, found⟩
    exact mem_of_entryOf? found

/-- Tables in the order of their keys are the same if each resource has the same row in them. -/
theorem WellFormed.eq_of_entryOf? (h : t.WellFormed) (h' : t'.WellFormed) (mute : t.mute = t'.mute)
    (same : ∀ resource, t.entryOf? resource = t'.entryOf? resource) : t = t' := by
  have perm : t.entries.Perm t'.entries := by
    refine (List.perm_ext_iff_of_nodup h.nodup_keys.of_map h'.nodup_keys.of_map).mpr fun e => ?_
    rw [h.mem_iff, h'.mem_iff]
    simp only [same]
  have entries : t.entries = t'.entries := by
    refine perm.eq_of_pairwise (fun a b ha hb hab hba => ?_) h.1 h'.1
    obtain ⟨s, hs⟩ := h.2 a ha
    obtain ⟨u, hu⟩ := h'.2 b hb
    rw [hs, hu, Cell.keyBefore_text] at hab hba
    have circle := Text.before_trans hab hba
    rw [Text.before_irrefl] at circle
    cases circle
  cases t
  cases t'
  cases entries
  cases mute
  rfl

/-! ## Rows past a cutoff -/

/-- A row that can be read and is past an earlier moment is past every later one. -/
theorem below_mono {row : LockRow} {cutoff now : Int} (h : e.row = .ok row) (le : cutoff ≤ now)
    (below : e.deadline.below cutoff = true) : e.deadline.below now = true := by
  obtain ⟨stored, past⟩ := Entry.deadline_of_below h below
  rw [stored, Cell.below_integer]
  exact decide_eq_true (lt_of_lt_of_le past le)

/-- A table whose rows can all be read and into which rows can be inserted. -/
structure Regular (t : Table) : Prop where
  sound : t.Sound
  audible : t.mute = false

theorem kept_regular : Kept Regular where
  insertIfAbsent h := ⟨h.sound.insertIfAbsent, (kept_mute false).insertIfAbsent h.audible⟩
  stealIfStale h := ⟨h.sound.stealIfStale, h.audible⟩
  extend h := ⟨h.sound.extend, h.audible⟩
  delete h := ⟨h.sound.delete, h.audible⟩
  purgeBefore h := ⟨h.sound.purgeBefore, h.audible⟩

/-- Nobody's lock is past the cutoff as long as its lease lasts. -/
theorem isActive_purgeBefore {owner : String} {cutoff now : Int} (h : t.Sound) (le : cutoff ≤ now) :
    (t.purgeBefore cutoff).2.isActive resource owner now = t.isActive resource owner now := by
  rw [Bool.eq_iff_iff]
  simp only [isActive, purgeBefore, remove, List.any_filter, List.any_eq_true]
  refine exists_congr fun e => and_congr_right fun he => ?_
  obtain ⟨row, readable⟩ := h.readable e he
  cases below : e.deadline.below cutoff with
  | false => simp
  | true =>
    obtain ⟨stored, past⟩ := Entry.deadline_of_below readable below
    have early : row.deadline < now := by omega
    simp [stored, early]

end Table

namespace Attempt

variable {t : Table}

/-- In a regular table an attempt is granted the lock exactly if no row is in its way that is not
past its reading, and it changes no more than that row. -/
theorem perform_regular (h : t.Regular) (claim : Claim) :
    ∃ ending t', perform claim ⟨some t⟩ = (ending, ⟨some t'⟩) ∧ t'.Regular ∧
      ending.granted = (t.entryOf? claim.row.resource).all (·.deadline.below claim.now) ∧
      ∀ resource, t'.entryOf? resource =
        if ending.granted ∧ resource = claim.row.resource then some (Entry.ofRow claim.row)
        else t.entryOf? resource := by
  have single := h.sound.wellFormed.single
  obtain ⟨ending, t', performs, ended⟩ := performed (single claim.row.resource)
  refine ⟨ending, t', performs, ?_, ?_, fun resource => ?_⟩
  · obtain ⟨u, hu, regular⟩ := perform_has Table.kept_regular claim ⟨t, rfl, h⟩
    rw [performs] at hu
    cases hu
    exact regular
  · cases ended with
    | inserted absent => rw [absent]; rfl
    | vanished absent muted => rw [h.audible] at muted; cases muted
    | unreadable found unreadable =>
      obtain ⟨row, readable⟩ := h.sound.readable _ (Table.mem_of_entryOf? found)
      rw [unreadable] at readable
      cases readable
    | @held e row found readable current =>
      have live : e.deadline.below claim.now = false := by
        refine Bool.eq_false_iff.mpr fun below => ?_
        have past := (Entry.deadline_of_below readable below).2
        omega
      rw [found, Option.all_some, live]
      rfl
    | tookOver found readable stored past =>
      rw [found, Option.all_some, stored, Cell.below_integer, decide_eq_true past]
      rfl
    | lostRace found readable missing => rw [found, Option.all_some, missing]; rfl
  · cases ended with
    | inserted absent audible =>
      rw [Table.entryOf?_insertIfAbsent, Table.insertIfAbsent_fst, absent, audible]
      rfl
    | tookOver found readable stored past =>
      rw [(single resource).entryOf?_stealIfStale, (single _).stealIfStale_fst, found,
        Option.any_some, stored, Cell.below_integer, decide_eq_true past]
      rfl
    | vanished | unreadable | held | lostRace => simp [Ending.granted]

/-- An attempt on a swept table goes like the one on the table that was not, and leaves the table
that a sweep would make of what that one leaves. -/
theorem perform_purgeBefore (claim : Claim) {cutoff : Int} (h : t.Regular)
    (now : cutoff ≤ claim.now) (deadline : cutoff ≤ claim.row.deadline) :
    ∃ ending ending' t', t'.Regular ∧
      perform claim ⟨some t⟩ = (ending, ⟨some t'⟩) ∧
      perform claim ⟨some (t.purgeBefore cutoff).2⟩ =
        (ending', ⟨some (t'.purgeBefore cutoff).2⟩) ∧
      ending'.granted = ending.granted ∧
      ∀ resource e, t'.entryOf? resource = some e → e.deadline.below cutoff = true →
        t.entryOf? resource = some e ∧ resource ≠ claim.row.resource := by
  have purged : (t.purgeBefore cutoff).2.Regular := Table.kept_regular.purgeBefore h
  obtain ⟨ending, t₁, performs, regular, granted, view⟩ := perform_regular h claim
  obtain ⟨ending', t₂, performs', regular', granted', view'⟩ := perform_regular purged claim
  have single := h.sound.wellFormed.single
  have single₁ := regular.sound.wellFormed.single
  have new : (Entry.ofRow claim.row).deadline.below cutoff = false :=
    decide_eq_false (not_lt.mpr deadline)
  -- a row that the sweep takes away is not in the way without it
  have same : ending'.granted = ending.granted := by
    rw [granted, granted', (single _).entryOf?_purgeBefore]
    cases found : t.entryOf? claim.row.resource with
    | none => rfl
    | some e =>
      obtain ⟨row, readable⟩ := h.sound.readable e (Table.mem_of_entryOf? found)
      cases below : e.deadline.below cutoff with
      | false => simp [Option.filter, below]
      | true => simp [Option.filter, below, Table.below_mono readable now below]
  have tables : t₂ = (t₁.purgeBefore cutoff).2 := by
    refine regular'.sound.wellFormed.eq_of_entryOf? regular.sound.purgeBefore.wellFormed
      (regular'.audible.trans regular.audible.symm) fun resource => ?_
    rw [view', same, (single₁ resource).entryOf?_purgeBefore, view,
      (single resource).entryOf?_purgeBefore]
    split
    · simp [Option.filter, new]
    · rfl
  refine ⟨ending, ending', t₁, regular, performs, tables ▸ performs', same, ?_⟩
  intro resource e found below
  rw [view] at found
  split at found
  · cases found
    rw [new] at below
    cases below
  · rename_i other
    refine ⟨found, ?_⟩
    rintro rfl
    obtain ⟨row, readable⟩ := h.sound.readable e (Table.mem_of_entryOf? found)
    refine other ⟨?_, rfl⟩
    rw [granted, found, Option.all_some]
    exact Table.below_mono readable now below

end Attempt

/-! ## Calls of clients -/

/-- A call of a client of a store. -/
inductive ClientCall where
  | acquire (host resource owner : String) (lease : Span)
  | isActive (host resource owner : String)

namespace ClientCall

/-- Puts the call to a store. -/
def put (s : Store) : ClientCall → StateM World (Option Bool)
  | acquire host resource owner lease => Client.acquire ⟨s, host⟩ resource owner lease
  | isActive host resource owner => Client.isActive ⟨s, host⟩ resource owner

/-- The resource that a call claims. -/
def claimed? : ClientCall → Option String
  | acquire _ resource _ _ => some resource
  | isActive _ _ _ => none

end ClientCall

namespace Store

/-- Puts calls one after another, each at its time. -/
def serve (s : Store) : List (Clock × ClientCall) → StateM World (List (Option Bool))
  | [] => return []
  | (clock, call) :: rest => do
    modify fun w => { w with clock }
    let answer ← call.put s
    return answer :: (← s.serve rest)

variable {s : Store} {w : World} {clock : Clock} {db : Database}

/-- The time is none of the store's business. -/
theorem Holds.atTime (h : s.Holds clock db w) (later : Clock) :
    s.Holds later db { w with clock := later } := by
  cases s with
  | memory => exact ⟨trivial, rfl, h.database_eq⟩
  | file path => exact ⟨h.isOpen, rfl, h.database_eq⟩

end Store

/-! ## Two runs -/

/-- Two worlds in which a store differs by a sweep: the one table is the other one without the
rows that are past the cutoff. -/
structure Twins (s : Store) (cutoff : Int) (t : Table) (w w' : World) : Prop where
  regular : t.Regular
  plain : ∃ clock, s.Holds clock ⟨some t⟩ w
  swept : ∃ clock, s.Holds clock ⟨some (t.purgeBefore cutoff).2⟩ w'

namespace Twins

variable {s : Store} {cutoff now : Int} {t : Table} {w w' : World}

/-- Twins answer a call alike, and they go on being twins.  The rows past the cutoff after it were
there before, and it has claimed none of them. -/
theorem call (h : Twins s cutoff t w w') {clock : Clock} (hnow : clock.reading? = some now)
    (le : cutoff ≤ now) (call : ClientCall) :
    (call.put s { w' with clock }).1 = (call.put s { w with clock }).1 ∧
    ∃ u, Twins s cutoff u (call.put s { w with clock }).2 (call.put s { w' with clock }).2 ∧
      ∀ resource e, u.entryOf? resource = some e → e.deadline.below cutoff = true →
        t.entryOf? resource = some e ∧ call.claimed? ≠ some resource := by
  obtain ⟨_, plain⟩ := h.plain
  obtain ⟨_, swept⟩ := h.swept
  have plain := plain.atTime clock
  have swept := swept.atTime clock
  cases call with
  | isActive host resource owner =>
    obtain ⟨answer, left⟩ := Client.isActive_holds (c := ⟨s, host⟩) plain hnow
    obtain ⟨answer', left'⟩ := Client.isActive_holds (c := ⟨s, host⟩) swept hnow
    have same : Database.isActive resource owner now ⟨some (t.purgeBefore cutoff).2⟩ =
        (.ok (t.isActive resource owner now), ⟨some (t.purgeBefore cutoff).2⟩) := by
      rw [← Table.isActive_purgeBefore h.regular.sound le]
      rfl
    rw [same] at answer' left'
    refine ⟨answer'.trans answer.symm, t, ⟨h.regular, ⟨clock, left⟩, ⟨clock, left'⟩⟩, ?_⟩
    exact fun resource e found _ => ⟨found, nofun⟩
  | acquire host resource owner lease =>
    obtain ⟨-, first, last⟩ := Clock.reading?_eq_some_iff.mp hnow
    have reach : now ≤ Text.Digits.signedMax := by
      simp only [Calendar.last, Text.Digits.signedMax] at *
      omega
    obtain ⟨ending, ending', u, regular, performs, performs', same, old⟩ :=
      Attempt.perform_purgeBefore (Claim.new now resource host owner lease) h.regular le
        (le.trans (le_deadlineAfter reach lease))
    obtain ⟨answer, left⟩ := Client.acquire_holds (c := ⟨s, host⟩) plain hnow performs
    obtain ⟨answer', left'⟩ := Client.acquire_holds (c := ⟨s, host⟩) swept hnow performs'
    rw [same] at answer'
    refine ⟨answer'.trans answer.symm, u, ⟨regular, ⟨clock, left⟩, ⟨clock, left'⟩⟩, ?_⟩
    intro other e found below
    obtain ⟨there, free⟩ := old other e found below
    refine ⟨there, fun claimed => free ?_⟩
    exact (Option.some.inj claimed).symm

/-- Twins answer all calls alike. -/
theorem serve {calls : List (Clock × ClientCall)} (h : Twins s cutoff t w w') (le : cutoff ≤ now)
    (readable : ∀ c ∈ calls, c.1.reading?.isSome)
    (later : (now :: calls.map fun c => c.1.millis).IsChain (· ≤ ·)) :
    (s.serve calls w').1 = (s.serve calls w).1 ∧
    ∃ u, Twins s cutoff u (s.serve calls w).2 (s.serve calls w').2 ∧
      ∀ resource e, u.entryOf? resource = some e → e.deadline.below cutoff = true →
        t.entryOf? resource = some e ∧ ∀ c ∈ calls, c.2.claimed? ≠ some resource := by
  induction calls generalizing t w w' now with
  | nil => exact ⟨rfl, t, h, fun resource e found _ => ⟨found, by simp⟩⟩
  | cons c rest ih =>
    obtain ⟨clock, call⟩ := c
    rw [List.forall_mem_cons] at readable
    obtain ⟨reading, hreading⟩ := Option.isSome_iff_exists.mp readable.1
    obtain ⟨next, after⟩ := List.isChain_cons_cons.mp later
    have due : cutoff ≤ reading := by
      rw [← (Clock.reading?_eq_some_iff.mp hreading).1]
      exact le.trans next
    obtain ⟨answers, t₁, twins, old⟩ := h.call hreading due call
    obtain ⟨others, u, end_, older⟩ := ih twins (le.trans next) readable.2 after
    refine ⟨?_, u, end_, ?_⟩
    · exact congrArg₂ List.cons answers others
    · intro resource e found below
      obtain ⟨before, unclaimed⟩ := older resource e found below
      obtain ⟨there, free⟩ := old resource e before below
      exact ⟨there, List.forall_mem_cons.mpr ⟨free, unclaimed⟩⟩

end Twins

/-- A store that is swept first answers all later calls as it would without the sweep.  A resource
that was claimed since has the same row in both tables, and all that the swept table lacks are
rows that the sweep has removed and nobody has claimed since. -/
theorem sweep_invisible {s : Store} {w : World} {t : Table} {now : Int} (isOpen : s.Open w)
    (table : s.database w = ⟨some t⟩) (sound : t.Sound) (audible : t.mute = false)
    (hnow : w.clock.reading? = some now) (grace : Span) {calls : List (Clock × ClientCall)}
    (readable : ∀ c ∈ calls, c.1.reading?.isSome)
    (later : (now :: calls.map fun c => c.1.millis).IsChain (· ≤ ·)) :
    let plain := s.serve calls w
    let swept := s.serve calls (s.sweep grace w).2
    swept.1 = plain.1 ∧
    ∃ t₀ u u', s.database (s.sweep grace w).2 = ⟨some t₀⟩ ∧
      s.database plain.2 = ⟨some u⟩ ∧ s.database swept.2 = ⟨some u'⟩ ∧
      (∀ resource, (∃ c ∈ calls, c.2.claimed? = some resource) →
        u'.entryOf? resource = u.entryOf? resource) ∧
      u'.entries.Sublist u.entries ∧
      ∀ e ∈ u.entries, e ∉ u'.entries → e ∈ t.entries ∧ e ∉ t₀.entries ∧
        ∀ resource, e.key = .text resource → ∀ c ∈ calls, c.2.claimed? ≠ some resource := by
  intro plain swept
  have holds : s.Holds w.clock ⟨some t⟩ w := ⟨isOpen, rfl, table⟩
  obtain ⟨-, left⟩ := Store.sweep_spec holds hnow grace
  have first := (Clock.reading?_eq_some_iff.mp hnow).2.1
  have le : momentBefore now grace ≤ now :=
    momentBefore_le (by simp only [Text.Digits.signedMin]; omega) grace
  have twins : Twins s (momentBefore now grace) t w (s.sweep grace w).2 :=
    ⟨⟨sound, audible⟩, ⟨_, holds⟩, ⟨_, left⟩⟩
  obtain ⟨answers, u, after, old⟩ := twins.serve le readable later
  obtain ⟨_, leftPlain⟩ := after.plain
  obtain ⟨_, leftSwept⟩ := after.swept
  have single := after.regular.sound.wellFormed.single
  refine ⟨answers, _, u, _, left.database_eq, leftPlain.database_eq, leftSwept.database_eq, ?_,
    List.filter_sublist, ?_⟩
  · rintro resource ⟨c, hc, claimed⟩
    rw [(single resource).entryOf?_purgeBefore]
    cases found : u.entryOf? resource with
    | none => rfl
    | some e =>
      cases below : e.deadline.below (momentBefore now grace) with
      | false => simp [Option.filter, below]
      | true => exact absurd claimed ((old resource e found below).2 c hc)
  · intro e there gone
    have below : e.deadline.below (momentBefore now grace) = true := by
      simpa [Table.purgeBefore, Table.remove, there] using gone
    obtain ⟨resource, found⟩ := after.regular.sound.wellFormed.mem_iff.mp there
    obtain ⟨before, unclaimed⟩ := old resource e found below
    refine ⟨Table.mem_of_entryOf? before, ?_, fun other hk => ?_⟩
    · simp [Table.purgeBefore, Table.remove, below]
    · rw [Table.key_of_entryOf? found] at hk
      cases hk
      exact unclaimed

/-- Two rows that are past their deadlines at 8 milliseconds, by three of them and by one. -/
def overdue : Table where
  entries :=
    [⟨.text "a", .text "h", .text "o", .integer 5⟩, ⟨.text "b", .text "h", .text "o", .integer 7⟩]
  mute := false

/-- A machine that holds the rows in its memory, eight milliseconds after the epoch. -/
def overdueWorld : World := { World.new ⟨8000000, 0⟩ with memory := ⟨some overdue⟩ }

/-- A client that comes for one of the rows, and its owner, who asks for the other one. -/
def overdueCalls : List (Clock × ClientCall) :=
  [(⟨8000000, 0⟩, .acquire "m" "a" "p" (Span.ofMillis 1000)),
    (⟨9000000, 0⟩, .isActive "h" "b" "o")]

theorem sweep_invisible_overdue :
    let swept := (Store.memory.sweep (Span.ofMillis 0) overdueWorld).2
    Store.memory.Open overdueWorld ∧ Store.memory.database overdueWorld = ⟨some overdue⟩ ∧
    overdue.Sound ∧ overdue.mute = false ∧ overdueWorld.clock.reading? = some 8 ∧
    (∀ c ∈ overdueCalls, c.1.reading?.isSome) ∧
    ((8 : Int) :: overdueCalls.map fun c => c.1.millis).IsChain (· ≤ ·) ∧
    (Store.memory.serve overdueCalls swept).1 = [some true, some false] := by
  intro swept
  have isOpen : Store.memory.Open overdueWorld := trivial
  have sound : overdue.Sound := by
    refine ⟨⟨by decide +kernel, fun e he => ?_⟩, fun e he => ?_⟩
    · rcases List.mem_pair.mp he with rfl | rfl <;> exact ⟨_, rfl⟩
    · rcases List.mem_pair.mp he with rfl | rfl <;> exact ⟨_, rfl⟩
  have reading : overdueWorld.clock.reading? = some 8 := by decide +kernel
  have readable : ∀ c ∈ overdueCalls, c.1.reading?.isSome := by decide +kernel
  have later : ((8 : Int) :: overdueCalls.map fun c => c.1.millis).IsChain (· ≤ ·) := by
    decide +kernel
  obtain ⟨same, -⟩ := sweep_invisible isOpen rfl sound rfl reading (Span.ofMillis 0) readable later
  refine ⟨isOpen, rfl, sound, rfl, reading, readable, later, same.trans ?_⟩
  decide +kernel

end Leasehold

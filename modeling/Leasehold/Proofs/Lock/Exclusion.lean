import Leasehold.Proofs.Lock.Traffic
import Mathlib.Data.List.Chain

/-!
# Mutual exclusion

Whatever the order of statements, a resource passes from one winner to another only
if the row was given up or swept away in between, or if the other one took it over
past its deadline.  The reading on which an attempt acts may be old, but that only
makes a row look less stale than it is.

`Turn.holder_kept` is the step: a turn that comes before the deadline neither wins
a resource that has a row nor takes the row from its owner.  Only a release can.
-/

namespace Leasehold

/-! ## A turn before the deadline -/

namespace Turn

variable {t : Turn} {clock : Int} {resource : String} {row : LockRow}

theorem holder_kept (h : t.db.Sound) (known : t.job.KnownAt clock)
    (hrow : t.db.row? resource = some row)
    (early : clock ≤ row.deadline) (kept : t.releases resource = false) :
    t.wins resource = false ∧
      ∃ row', t.next.row? resource = some row' ∧ row'.owner = row.owner ∧ row'.host = row.host := by
  obtain ⟨e, he, her⟩ := Database.row?_eq_some_iff.mp hrow
  cases t.touch (h.single resource) with
  | nothing same lost =>
    exact ⟨lost, row, Database.row?_eq_some_iff.mpr ⟨e, same.trans he, her⟩, rfl, rfl⟩
  | insert claim job own won absent =>
    rw [he] at absent
    cases absent
  | steal claim seen f job own won found stale =>
    -- the claim's reading is not later than the clock, hence not past the deadline
    cases he.symm.trans found
    rw [job] at known
    have past := (Entry.deadline_of_below her stale).2
    have hnow : claim.now ≤ clock := known
    omega
  | refresh owner deadline f job found owned after =>
    cases he.symm.trans found
    have hnext := Database.row?_eq_some_iff.mpr ⟨_, after, Entry.row_extended her⟩
    exact ⟨by simp [wins, job], _, hnext, rfl, rfl⟩
  | release owner f job found owned =>
    rw [releases_of h job found owned] at kept
    cases kept
  | sweep now grace f job found stale =>
    cases he.symm.trans found
    rw [job] at known
    have past := Entry.deadline_of_swept her known.1 stale
    have hnow := known.2
    omega

end Turn

/-! ## Runs -/

namespace Turn

variable {resource : String}

/-- A row outlives every stretch of turns in which it is neither given up nor swept away. -/
theorem entryOf?_outlives {first last : Turn} {mid : List Turn}
    (chain : (first :: mid ++ [last]).IsChain Meets) (sound : ∀ t ∈ mid, t.db.Sound)
    (present : (first.next.entryOf? resource).isSome)
    (kept : ∀ t ∈ mid, t.releases resource = false ∧ t.sweepsAway resource = false) :
    (last.db.entryOf? resource).isSome := by
  induction mid generalizing first with
  | nil =>
    have meets : Meets first last := (List.isChain_cons_cons.mp chain).1
    rwa [meets]
  | cons t mid ih =>
    obtain ⟨meets, rest⟩ := List.isChain_cons_cons.mp chain
    have here := kept t List.mem_cons_self
    refine ih rest (fun u hu => sound u (List.mem_cons_of_mem t hu)) ?_
      (fun u hu => kept u (List.mem_cons_of_mem t hu))
    refine entryOf?_kept (sound t List.mem_cons_self) ?_ here.1 here.2
    rwa [show t.db = first.next from meets]

end Turn

namespace Traffic

variable {s : Traffic} {resource : String}

/-- The clock has not passed the deadline in the row of a resource, if it has one. -/
def InTime (resource : String) (s : Traffic) : Prop :=
  ∀ row, s.db.row? resource = some row → s.clock ≤ row.deadline

/-- The resource has a row, and the holder that it names is the one of another row. -/
def HeldAs (resource : String) (row : LockRow) (s : Traffic) : Prop :=
  ∃ row', s.db.row? resource = some row' ∧ row'.owner = row.owner ∧ row'.host = row.host

/-- Each turn of a part of a run finds what the one before has left. -/
theorem isChain_part {moves : List Move} (pre part post : List Turn)
    (split : s.history moves = pre ++ part ++ post) : part.IsChain Turn.Meets := by
  have whole := isChain_history s moves ⟨0, .finished, s.db⟩ rfl
  rw [split] at whole
  exact whole.infix ⟨⟨0, .finished, s.db⟩ :: pre, post, by simp⟩

/-- A winner follows another one only past a release, past a sweep, or past the deadline. -/
theorem wins_apart (h : s.Sound) {moves : List Move} {pre mid post : List Turn}
    {first second : Turn} (split : s.history moves = pre ++ first :: mid ++ second :: post)
    (won₁ : first.wins resource = true) (won₂ : second.wins resource = true) :
    (∃ t ∈ mid, t.releases resource = true ∨ t.sweepsAway resource = true) ∨
      second.takesStale resource = true := by
  have sound := history_has Table.kept_sound h.database moves
  rw [split] at sound
  by_cases hfreed : ∃ t ∈ mid, t.releases resource = true ∨ t.sweepsAway resource = true
  · exact .inl hfreed
  · right
    have chain := isChain_part pre (first :: mid ++ [second]) post (split.trans (by simp))
    refine Turn.takesStale_of_wins (sound second (by simp)) ?_ won₂
    refine Turn.entryOf?_outlives chain (fun t ht => sound t (by simp [ht])) ?_ fun t ht => ?_
    · exact Turn.present_of_wins (Database.Sound.single (sound first (by simp)) resource) won₁
    · constructor
      · exact Bool.eq_false_iff.mpr fun hr => hfreed ⟨t, ht, .inl hr⟩
      · exact Bool.eq_false_iff.mpr fun hs => hfreed ⟨t, ht, .inr hs⟩

theorem holder_kept_step (h : s.Sound) {m : Move} {row : LockRow} (held : s.HeldAs resource row)
    (early : s.InTime resource) (kept : ∀ t, s.turn? m = some t → t.releases resource = false) :
    (∀ t, s.turn? m = some t → t.wins resource = false) ∧ (s.step m).HeldAs resource row := by
  obtain ⟨row', hrow, howner, hhost⟩ := held
  have hdb := db_step s m
  cases hm : s.turn? m with
  | none =>
    rw [hm] at hdb
    refine ⟨fun t ht => (by cases ht), row', ?_, howner, hhost⟩
    rw [hdb]
    exact hrow
  | some t =>
    rw [hm] at hdb
    have same := turn?_db hm
    have known := h.known t.job (List.mem_of_getElem? (turn?_job hm))
    obtain ⟨lost, row'', hrow'', howner', hhost'⟩ :=
      Turn.holder_kept (same ▸ h.database) known (same ▸ hrow) (early row' hrow) (kept t hm)
    refine ⟨fun u hu => ?_, row'', ?_, howner'.trans howner, hhost'.trans hhost⟩
    · cases hu
      exact lost
    · rw [hdb]
      exact hrow''

theorem holder_kept (h : s.Sound) {row : LockRow} {moves : List Move}
    (held : s.HeldAs resource row) (early : ∀ u ∈ s.trail moves, u.InTime resource)
    (kept : ∀ t ∈ s.history moves, t.releases resource = false) :
    (∀ t ∈ s.history moves, t.wins resource = false) ∧
      ∀ u ∈ s.trail moves, u.HeldAs resource row := by
  induction moves generalizing s with
  | nil =>
    refine ⟨fun t ht => absurd ht List.not_mem_nil, fun u hu => ?_⟩
    rw [List.mem_singleton.mp hu]
    exact held
  | cons m moves ih =>
    obtain ⟨lost, held'⟩ := holder_kept_step h (m := m) held (early s List.mem_cons_self)
      fun t ht => kept t (List.mem_append_left _ (Option.mem_toList.mpr ht))
    obtain ⟨lostLater, heldLater⟩ := ih (h.step m) held'
      (fun u hu => early u (List.mem_cons_of_mem s hu))
      (fun t ht => kept t (List.mem_append_right _ ht))
    constructor
    · intro t ht
      rcases List.mem_append.mp ht with hnow | hlater
      · exact lost t (Option.mem_toList.mp hnow)
      · exact lostLater t hlater
    · intro u hu
      rcases List.mem_cons.mp hu with rfl | hlater
      · exact held
      · exact heldLater u hlater

/-- Between two winners of a resource, consecutive or not, its row is given up by the owner
that is stored in it or swept away, or the later one takes it over on a reading strictly past
the deadline stored in it.  So as long as the clock has not passed that deadline and nobody
gives the row up, nobody wins, and the row keeps its holder. -/
theorem mutual_exclusion (h : s.Sound) (moves : List Move) (resource : String) :
    (∀ pre first mid second post, s.history moves = pre ++ first :: mid ++ second :: post →
      first.wins resource = true → second.wins resource = true →
        (∃ t ∈ mid, t.releases resource = true ∨ t.sweepsAway resource = true) ∨
          second.takesStale resource = true) ∧
    ∀ row, s.db.row? resource = some row →
      (∀ u ∈ s.trail moves, u.InTime resource) →
      (∀ t ∈ s.history moves, t.releases resource = false) →
        (∀ t ∈ s.history moves, t.wins resource = false) ∧
          ∀ u ∈ s.trail moves, u.HeldAs resource row := by
  constructor
  · intro pre first mid second post split won₁ won₂
    exact wins_apart h split won₁ won₂
  · intro row hrow early kept
    exact holder_kept h ⟨row, hrow, rfl, rfl⟩ early kept

/-- An empty table at the epoch. -/
def idle : Traffic := ⟨⟨some Table.empty⟩, 0, []⟩

theorem idle_sound : idle.Sound :=
  ⟨⟨Table.empty, rfl, Table.sound_empty⟩, by decide, fun _ hjob => absurd hjob List.not_mem_nil⟩

/-- One client has a lease of a second, and another one comes a millisecond after its end. -/
def lateMoves : List Move :=
  [.start (.acquire "r" "h" "a" (Span.ofMillis 1000)), .turn 0, .pass 1001,
    .start (.acquire "r" "h" "b" (Span.ofMillis 1000)), .turn 1, .turn 1, .turn 1]

/-- The row of the lease. -/
def lateRow : LockRow := ⟨"r", "h", "a", 1000⟩

/-- The turn that inserts the row. -/
def lateFirst : Turn := ⟨0, .acquire ⟨lateRow, 0⟩ .insert, ⟨some Table.empty⟩⟩

/-- A turn of the other client, who finds the row. -/
def lateTurn (attempt : Attempt) : Turn :=
  ⟨1, .acquire ⟨⟨"r", "h", "b", 2001⟩, 1001⟩ attempt, ⟨some ⟨[Entry.ofRow lateRow], false⟩⟩⟩

theorem mutual_exclusion_takeover :
    idle.history lateMoves =
        [] ++ lateFirst :: [lateTurn .insert, lateTurn .read] ++ lateTurn (.steal lateRow) :: [] ∧
      lateFirst.wins "r" = true ∧ (lateTurn (.steal lateRow)).wins "r" = true ∧
      ((∃ t ∈ [lateTurn .insert, lateTurn .read],
          t.releases "r" = true ∨ t.sweepsAway "r" = true) ∨
        (lateTurn (.steal lateRow)).takesStale "r" = true) := by
  have split : idle.history lateMoves =
      [] ++ lateFirst :: [lateTurn .insert, lateTurn .read] ++
        lateTurn (.steal lateRow) :: [] := by decide +kernel
  have won₁ : lateFirst.wins "r" = true := by decide +kernel
  have won₂ : (lateTurn (.steal lateRow)).wins "r" = true := by decide +kernel
  exact ⟨split, won₁, won₂, (mutual_exclusion idle_sound _ "r").1 _ _ _ _ _ split won₁ won₂⟩

end Traffic

end Leasehold

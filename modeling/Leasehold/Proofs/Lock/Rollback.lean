import Leasehold.Proofs.Lock.Background
import Leasehold.Proofs.Lock.Exclusion

/-!
# What a rollback takes away

A rollback deletes the row of its resource if the owner is still the same, whoever
has written it.  So it takes back the row of its own attempt exactly if nobody has
ended that attempt's hold in between, by a release, by a sweep, or by taking the row
over past its deadline (`Background.rollback_takes_own_iff`).  If somebody has, and
another attempt of the same owner was granted the lock meanwhile, then the rollback
takes that one's row away, and the waiter who was told of the lock has lost it
(`Background.rollback_takes_another`).
-/

namespace Leasehold

namespace Turn

variable {t u : Turn} {resource : String} {turns : List Turn}

/-- The turn ends the hold on a resource: the row is given up, swept away, or taken over on a
reading past its deadline. -/
def endsHold (resource : String) (t : Turn) : Bool :=
  t.releases resource || t.sweepsAway resource || (t.wins resource && t.takesStale resource)

/-- The job that has written the row of a resource, as far as turns tell. -/
def writer? (resource : String) (turns : List Turn) : Option Nat :=
  (turns.reverse.find? (wins resource)).map index

/-! ## The last winner -/

theorem exists_last (p : Turn → Bool) (h : ∃ t ∈ turns, p t = true) :
    ∃ before t after, turns = before ++ t :: after ∧ p t = true ∧ ∀ u ∈ after, p u = false := by
  induction turns with
  | nil =>
    obtain ⟨t, ht, -⟩ := h
    cases ht
  | cons x rest ih =>
    by_cases hrest : ∃ t ∈ rest, p t = true
    · obtain ⟨before, t, after, rfl, hp, hlast⟩ := ih hrest
      exact ⟨x :: before, t, after, rfl, hp, hlast⟩
    · obtain ⟨t, ht, hp⟩ := h
      rcases List.mem_cons.mp ht with rfl | hmem
      · exact ⟨[], t, rest, rfl, hp, fun u hu => Bool.eq_false_iff.mpr fun h => hrest ⟨u, hu, h⟩⟩
      · exact absurd ⟨t, hmem, hp⟩ hrest

theorem writer?_of_last (before : List Turn) {after : List Turn} (won : t.wins resource = true)
    (lost : ∀ u ∈ after, u.wins resource = false) :
    writer? resource (before ++ t :: after) = some t.index := by
  have none_after : after.reverse.find? (wins resource) = none := by
    refine List.find?_eq_none.mpr fun u hu => ?_
    simp [lost u (List.mem_reverse.mp hu)]
  simp [writer?, List.find?_append, none_after, won]

/-! ## The row between two turns -/

theorem present_of_releases (h : t.releases resource = true) :
    (t.db.entryOf? resource).isSome := by
  unfold releases at h
  split at h
  · rename_i row _ hrow
    obtain ⟨e, he, -⟩ := Database.row?_eq_some_iff.mp hrow
    simp [he]
  · cases h

theorem job_of_releases (h : t.releases resource = true) :
    ∃ owner, t.job = .release resource owner := by
  unfold releases at h
  split at h
  · rename_i r owner row hjob hrow
    simp only [Bool.and_eq_true, decide_eq_true_eq] at h
    obtain ⟨⟨rfl, -⟩, -⟩ := h
    exact ⟨owner, hjob⟩
  · cases h

theorem absent_of_releases (h : t.db.Sound) (gone : t.releases resource = true) :
    t.next.entryOf? resource = none := by
  obtain ⟨index, job, db⟩ := t
  obtain ⟨tb, rfl, ht⟩ := h
  unfold releases at gone
  split at gone
  · rename_i r owner row hjob hrow
    cases hjob
    simp only [Bool.and_eq_true, decide_eq_true_eq, Database.delete, Database.run_some,
      Except.ok.injEq] at gone
    obtain ⟨⟨rfl, -⟩, hdel⟩ := gone
    exact ((ht.wellFormed.single r).entryOf?_delete r owner).trans (by simp [hdel])
  · cases gone

theorem absent_of_sweepsAway (h : t.db.Sound) (gone : t.sweepsAway resource = true) :
    t.next.entryOf? resource = none := by
  refine (next_sound h).row?_eq_none_iff.mp ?_
  unfold sweepsAway at gone
  split at gone
  · exact Option.isNone_iff_eq_none.mp (Bool.and_eq_true_iff.mp gone).2
  all_goals cases gone

theorem absent_kept (h : t.db.Has (Table.Single resource))
    (absent : t.db.entryOf? resource = none) (lost : t.wins resource = false) :
    t.next.entryOf? resource = none := by
  cases t.touch h with
  | nothing same => rwa [same]
  | insert claim job own won =>
    rw [won] at lost
    cases lost
  | steal claim seen e job own won =>
    rw [won] at lost
    cases lost
  | refresh owner deadline e job found => cases absent.symm.trans found
  | release owner e job found => cases absent.symm.trans found
  | sweep now grace e job found => cases absent.symm.trans found

/-- Without a winner a resource stays without a row. -/
theorem absent_outlives {first last : Turn} {mid : List Turn}
    (chain : (first :: mid ++ [last]).IsChain Meets) (sound : ∀ t ∈ mid, t.db.Sound)
    (absent : first.next.entryOf? resource = none)
    (lost : ∀ t ∈ mid, t.wins resource = false) : last.db.entryOf? resource = none := by
  induction mid generalizing first with
  | nil =>
    have meets : Meets first last := (List.isChain_cons_cons.mp chain).1
    rwa [meets]
  | cons t mid ih =>
    obtain ⟨meets, rest⟩ := List.isChain_cons_cons.mp chain
    refine ih rest (fun u hu => sound u (List.mem_cons_of_mem t hu)) ?_
      (fun u hu => lost u (List.mem_cons_of_mem t hu))
    refine absent_kept (Database.Sound.single (sound t List.mem_cons_self) resource) ?_
      (lost t List.mem_cons_self)
    rwa [show t.db = first.next from meets]

/-- A release that comes after a win takes the winner's own row exactly if nothing has ended the
hold since. -/
theorem own_row_iff {own : Turn} {mid : List Turn} (chain : (own :: mid ++ [t]).IsChain Meets)
    (sound : ∀ u ∈ own :: mid, u.db.Sound) (won : own.wins resource = true)
    (released : t.releases resource = true) :
    (∀ u ∈ mid, u.wins resource = false) ↔ ∀ u ∈ mid, u.endsHold resource = false := by
  constructor
  · intro lost u hu
    obtain ⟨before, after, rfl⟩ := List.append_of_mem hu
    have hsound : ∀ v ∈ before ++ u :: after, v.db.Sound := fun v hv =>
      sound v (List.mem_cons_of_mem own hv)
    refine Bool.eq_false_iff.mpr fun ended => ?_
    have gone : u.next.entryOf? resource = none := by
      simp only [endsHold, lost u hu, Bool.false_and, Bool.or_false, Bool.or_eq_true] at ended
      rcases ended with hreleases | hsweeps
      · exact absent_of_releases (hsound u hu) hreleases
      · exact absent_of_sweepsAway (hsound u hu) hsweeps
    -- nobody has won since, so the release finds no row
    have rest : (u :: after ++ [t]).IsChain Meets := chain.infix ⟨own :: before, [], by simp⟩
    have absent := absent_outlives rest (fun v hv => hsound v (by simp [hv])) gone
      fun v hv => lost v (by simp [hv])
    have present := present_of_releases released
    rw [absent] at present
    cases present
  · intro kept u hu
    obtain ⟨before, after, rfl⟩ := List.append_of_mem hu
    have hsound : ∀ v ∈ before ++ u :: after, v.db.Sound := fun v hv =>
      sound v (List.mem_cons_of_mem own hv)
    refine Bool.eq_false_iff.mpr fun hwins => ?_
    -- the own row is still there, so the new winner has taken it over
    have first : (own :: before ++ [u]).IsChain Meets := chain.infix ⟨[], after ++ [t], by simp⟩
    have written :=
      present_of_wins (Database.Sound.single (sound own List.mem_cons_self) resource) won
    have present := entryOf?_outlives first (fun v hv => hsound v (by simp [hv])) written
      fun v hv => ?_
    · have stale := takesStale_of_wins (hsound u hu) present hwins
      have ended := kept u hu
      simp [endsHold, hwins, stale] at ended
    · have hkept := kept v (by simp [hv])
      simp only [endsHold, Bool.or_eq_false_iff] at hkept
      exact hkept.1

/-- How a row can be lost or come to another owner. -/
theorem row_lost (h : t.db.Sound) {clock : Int} (known : t.job.KnownAt clock) {row : LockRow}
    (hrow : t.db.row? resource = some row)
    (lost : ∀ row', t.next.row? resource = some row' → row'.owner ≠ row.owner) :
    (∃ now grace, t.job = .sweep now grace ∧ row.deadline < now) ∨
    (∃ claim seen, t.job = .acquire claim (.steal seen) ∧ row.deadline < claim.now) ∨
    (t.job = .release resource row.owner ∧ t.releases resource = true) := by
  obtain ⟨e, he, her⟩ := Database.row?_eq_some_iff.mp hrow
  cases t.touch (h.single resource) with
  | nothing same =>
    exact (lost row (Database.row?_eq_some_iff.mpr ⟨e, same.trans he, her⟩) rfl).elim
  | insert claim job own won absent => cases absent.symm.trans he
  | steal claim seen f job own won found stale =>
    cases he.symm.trans found
    exact .inr (.inl ⟨claim, seen, job, (Entry.deadline_of_below her stale).2⟩)
  | refresh owner deadline f job found owned after =>
    cases he.symm.trans found
    have hnext := Database.row?_eq_some_iff.mpr ⟨_, after, Entry.row_extended her⟩
    exact (lost _ hnext rfl).elim
  | release owner f job found owned =>
    cases he.symm.trans found
    rw [Entry.owner_of_row her owned]
    exact .inr (.inr ⟨job, releases_of h job found owned⟩)
  | sweep now grace f job found stale =>
    cases he.symm.trans found
    rw [job] at known
    exact .inl ⟨now, grace, job, Entry.deadline_of_swept her known.1 stale⟩

end Turn

namespace Background

variable {s : Background} {resource : String}

theorem consistent_start (h : s.errands = []) : s.Consistent [] := by
  refine ⟨fun t ht => absurd ht List.not_mem_nil, ?_, fun e he => ?_⟩
  · rw [h]
    exact List.nodup_nil
  · rw [h] at he
    cases he

/-- Before a rollback there is a turn by which its worker has won, and if the rollback removes a
row, then it is the row of that worker exactly if nothing has ended the hold since. -/
theorem rollback_own_iff (h : s.traffic.Sound) (start : s.errands = []) {moves : List Move}
    {pre post : List Turn} {t : Turn} (split : s.history moves = pre ++ t :: post) {e : Errand}
    (he : e ∈ (s.run moves).errands) (rollback : e.rollback = some t.index)
    (released : t.releases resource = true) :
    ∃ before own mid, pre = before ++ own :: mid ∧ own.index = e.worker ∧
      own.wins resource = true ∧
      (Turn.writer? resource pre = some e.worker ↔
        ∀ u ∈ mid, u.endsHold resource = false) := by
  have consistent := (consistent_start start).run moves
  have sound := Traffic.history_has Table.kept_sound h.database (s.trafficMoves moves)
  rw [List.nil_append, split] at consistent
  obtain ⟨-, -, -, -, earlier⟩ := (consistent.fits e he).rollback t.index rollback
  obtain ⟨⟨own, hown, hindex, hwon⟩, job⟩ := earlier pre t post rfl rfl
  obtain ⟨owner, released_job⟩ := Turn.job_of_releases released
  have same : e.resource = resource := by
    rw [released_job] at job
    rcases job with hjob | hjob
    · exact (Job.release.inj hjob).1.symm
    · cases hjob
  rw [same] at hwon
  obtain ⟨before, own, mid, rfl, hlast, hmid⟩ := Turn.exists_last
    (fun u => u.index = e.worker && u.wins resource) ⟨own, hown, by simp [hindex, hwon]⟩
  simp only [Bool.and_eq_true, decide_eq_true_eq] at hlast
  obtain ⟨hindex, hwon⟩ := hlast
  refine ⟨before, own, mid, rfl, hindex, hwon, ?_⟩
  have chain := Traffic.isChain_part before (own :: mid ++ [t]) post (split.trans (by simp))
  have hsound : ∀ u ∈ own :: mid, u.db.Sound := fun u hu => by
    refine sound u ?_
    rw [show s.traffic.history (s.trafficMoves moves) = _ from split]
    exact List.mem_append_left _ (List.mem_append_right _ hu)
  rw [← Turn.own_row_iff chain hsound hwon released]
  constructor
  · intro hwriter u hu
    refine Bool.eq_false_iff.mpr fun hwins => ?_
    obtain ⟨m₁, v, m₂, rfl, hv, hlost⟩ := Turn.exists_last (Turn.wins resource) ⟨u, hu, hwins⟩
    have hwriter' := Turn.writer?_of_last (before ++ own :: m₁) hv hlost
    rw [List.append_assoc, List.cons_append, hwriter] at hwriter'
    have hnot := hmid v (by simp)
    simp [← Option.some.inj hwriter', hv] at hnot
  · intro hlost
    rw [← hindex]
    exact Turn.writer?_of_last before hwon hlost

/-- A rollback that removes a row takes back the row of its own attempt exactly if nothing has
ended the hold between the worker's win and the rollback.  A row of an attempt whose waiter was
told of the lock is lost to a sweep or to a takeover only past its deadline, and else only to a
release of the same owner: to an explicit one, or to the rollback of another attempt whose own
hold has been ended before. -/
theorem rollback_takes_own_iff (h : s.traffic.Sound) (start : s.errands = []) {moves : List Move}
    {pre post : List Turn} {t : Turn} (split : s.history moves = pre ++ t :: post)
    (resource : String) :
    (∀ e ∈ (s.run moves).errands, e.rollback = some t.index → t.releases resource = true →
      ∃ before own mid, pre = before ++ own :: mid ∧ own.index = e.worker ∧
        own.wins resource = true ∧
        (Turn.writer? resource pre = some e.worker ↔
          ∀ u ∈ mid, u.endsHold resource = false)) ∧
    ∀ e ∈ (s.run moves).errands, e.slot = .answered true →
      Turn.writer? resource pre = some e.worker → ∀ row, t.db.row? resource = some row →
      (∀ row', t.next.row? resource = some row' → row'.owner ≠ row.owner) →
        (∃ now grace, t.job = .sweep now grace ∧ row.deadline < now) ∨
        (∃ claim seen, t.job = .acquire claim (.steal seen) ∧ row.deadline < claim.now) ∨
        (t.job = .release resource row.owner ∧
          ∀ e' ∈ (s.run moves).errands, e'.rollback = some t.index →
            e'.worker ≠ e.worker ∧
            ∃ before own mid, pre = before ++ own :: mid ∧ own.index = e'.worker ∧
              own.wins resource = true ∧ ∃ u ∈ mid, u.endsHold resource = true) := by
  constructor
  · intro e he rollback released
    exact rollback_own_iff h start split he rollback released
  · intro e he answered writer row hrow lost
    have ht : t ∈ s.traffic.history (s.trafficMoves moves) := by
      rw [show s.traffic.history (s.trafficMoves moves) = _ from split]
      simp
    have sound := Traffic.history_has Table.kept_sound h.database _ t ht
    obtain ⟨clock, known⟩ := h.history_known _ t ht
    rcases Turn.row_lost sound known hrow lost with hsweep | hsteal | ⟨hjob, released⟩
    · exact .inl hsweep
    · exact .inr (.inl hsteal)
    · refine .inr (.inr ⟨hjob, fun e' he' rollback => ?_⟩)
      have consistent := (consistent_start start).run moves
      have other : e'.worker ≠ e.worker := by
        intro same
        -- an attempt that has answered has no rollback
        obtain rfl := List.inj_on_of_nodup_map consistent.workers he' he same
        have abandoned := ((consistent.fits _ he').rollback t.index rollback).2.1
        rw [answered] at abandoned
        cases abandoned
      obtain ⟨before, own, mid, hpre, hindex, hwon, hiff⟩ :=
        rollback_own_iff h start split he' rollback released
      refine ⟨other, before, own, mid, hpre, hindex, hwon, ?_⟩
      by_contra hnone
      refine other (Option.some.inj ?_)
      rw [← hiff.mpr fun u hu => Bool.eq_false_iff.mpr fun hu' => hnone ⟨u, hu, hu'⟩]
      exact writer

/-- Nobody has asked for anything yet. -/
def idle : Background := ⟨Traffic.idle, []⟩

/-- A waiter leaves, and its worker gives back what it acquired afterwards. -/
def promptRollback : List Move :=
  [.begin "r" "h" "o" (Span.ofMillis 1000), .leave 0, .traffic (.turn 0), .settle 0,
    .traffic (.turn 1)]

/-- The turn by which the worker acquires the lock. -/
def promptWin : Turn :=
  ⟨0, .acquire (Claim.new 0 "r" "h" "o" (Span.ofMillis 1000)) .insert, ⟨some Table.empty⟩⟩

/-- The turn by which it gives the lock back. -/
def promptRelease : Turn :=
  ⟨1, .release "r" "o", ⟨some ⟨[Entry.ofRow ⟨"r", "h", "o", 1000⟩], false⟩⟩⟩

theorem rollback_takes_own :
    idle.history promptRollback = [promptWin] ++ promptRelease :: [] ∧
      promptRelease.releases "r" = true ∧
      ∃ before own mid, [promptWin] = before ++ own :: mid ∧ own.index = 0 ∧
        own.wins "r" = true ∧
        (Turn.writer? "r" [promptWin] = some 0 ↔ ∀ u ∈ mid, u.endsHold "r" = false) := by
  have split : idle.history promptRollback = [promptWin] ++ promptRelease :: [] := by
    decide +kernel
  have released : promptRelease.releases "r" = true := by decide +kernel
  have he : (⟨"r", "o", 0, .abandoned, true, some 1⟩ : Errand) ∈
      (idle.run promptRollback).errands := by decide +kernel
  exact ⟨split, released,
    (rollback_takes_own_iff Traffic.idle_sound rfl split "r").1 _ he rfl released⟩

/-- The lease of an abandoned attempt runs out before its worker settles.  Meanwhile another
attempt of the same owner takes the row over, and its waiter is told of the lock. -/
def lateRollback : List Move :=
  [.begin "r" "h" "o" (Span.ofMillis 1000), .leave 0, .traffic (.turn 0), .traffic (.pass 1001),
    .begin "r" "h" "o" (Span.ofMillis 60000), .traffic (.turn 1), .traffic (.turn 1),
    .traffic (.turn 1), .settle 1, .settle 0, .traffic (.turn 2)]

/-- The rollback of the one attempt deletes the row that the other one has written, a minute
before its deadline. -/
theorem rollback_takes_another :
    ∃ pre t, idle.history lateRollback = pre ++ t :: [] ∧
      (idle.run lateRollback).errands =
        [⟨"r", "o", 0, .abandoned, true, some t.index⟩, ⟨"r", "o", 1, .answered true, true, none⟩] ∧
      t.db.row? "r" = some ⟨"r", "h", "o", 61001⟩ ∧ Turn.writer? "r" pre = some 1 ∧
      (idle.run lateRollback).traffic.clock = 1001 ∧ t.releases "r" = true ∧
      (idle.run lateRollback).traffic.db.row? "r" = none := by
  exact ⟨(idle.history lateRollback).dropLast,
    ⟨2, .release "r" "o", ⟨some ⟨[Entry.ofRow ⟨"r", "h", "o", 61001⟩], false⟩⟩⟩,
    by decide +kernel⟩

end Background

end Leasehold

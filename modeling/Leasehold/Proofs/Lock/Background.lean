import Leasehold.Lock.Future
import Leasehold.Proofs.Lock.Traffic

/-!
# Attempts in the background

A worker makes an attempt for somebody who may leave before it has an answer.  The
two meet in a slot.  A worker that finds its waiter gone gives back what it
acquired, and this *rollback* is one more job among the others: it deletes the row
of the resource if the owner is still the same.

`Background` is the traffic with what is known of each attempt (`Errand`).  Its runs
are runs of the traffic (`Background.trafficMoves`), with the settlements of
workers and the departures of waiters in between.  `Errand.Fits` ties an attempt to
the turns that have been: a worker that was granted the lock has had a winning
turn, and its rollback comes after that.
-/

namespace Leasehold

/-- An attempt in the background. -/
structure Errand where
  resource : String
  owner : String
  /-- The place of the worker's job. -/
  worker : Nat
  slot : Slot
  /-- The worker has found its waiter, or has found it gone. -/
  settled : Bool
  /-- The place of the job that gives the lock back, if it was given back. -/
  rollback : Option Nat
  deriving DecidableEq

namespace Errand

/-- The worker settles its slot.  What it must give back is given back by the next job. -/
def settle (granted : Bool) (next : Nat) (e : Errand) : Errand :=
  { e with
    slot := (e.slot.settle granted).1
    settled := true
    rollback := if (e.slot.settle granted).2 then some next else none }

/-- The waiter leaves. -/
def leave (e : Errand) : Errand := { e with slot := e.slot.leave.2 }

end Errand

/-- Traffic with attempts in the background. -/
structure Background where
  traffic : Traffic
  errands : List Errand
  deriving DecidableEq

namespace Background

/-- What can happen next. -/
inductive Move where
  /-- Something happens that is not about the slots. -/
  | traffic (m : Traffic.Move)
  /-- A worker begins an attempt for a waiter. -/
  | begin (resource host owner : String) (lease : Span)
  /-- A worker whose attempt is done settles its slot. -/
  | settle (index : Nat)
  /-- A waiter leaves. -/
  | leave (index : Nat)
  deriving DecidableEq

/-- An attempt whose worker is done and has not settled yet, and whether it was granted. -/
def settling? (s : Background) (index : Nat) : Option (Errand × Bool) :=
  match s.errands[index]? with
  | some e =>
    match e.settled, s.traffic.jobs[e.worker]? with
    | false, some (.acquire _ (.done ending)) => some (e, ending.granted)
    | _, _ => none
  | none => none

/-- What a move means to the traffic, if anything. -/
def move? (s : Background) : Move → Option Traffic.Move
  | .traffic m => some m
  | .begin resource host owner lease => some (.start (.acquire resource host owner lease))
  | .settle index =>
    match s.settling? index with
    | some (e, granted) =>
      if (e.slot.settle granted).2 then some (.start (.release e.resource e.owner)) else none
    | none => none
  | .leave _ => none

/-- The turn that a move is, if it is one. -/
def turn? (s : Background) (m : Move) : Option Turn := (s.move? m).bind s.traffic.turn?

/-- The attempts after a move. -/
def errandsAfter (s : Background) : Move → List Errand
  | .traffic _ => s.errands
  | .begin resource _ owner _ =>
    s.errands ++ [⟨resource, owner, s.traffic.jobs.length, .pending, false, none⟩]
  | .settle index =>
    match s.settling? index with
    | some (e, granted) => s.errands.set index (e.settle granted s.traffic.jobs.length)
    | none => s.errands
  | .leave index =>
    match s.errands[index]? with
    | some e => s.errands.set index e.leave
    | none => s.errands

/-- All after a move. -/
def step (s : Background) (m : Move) : Background :=
  ⟨((s.move? m).map s.traffic.step).getD s.traffic, s.errandsAfter m⟩

/-- All after a run. -/
def run (s : Background) (moves : List Move) : Background := moves.foldl step s

/-- What a run means to the traffic. -/
def trafficMoves : Background → List Move → List Traffic.Move
  | _, [] => []
  | s, m :: moves => (s.move? m).toList ++ trafficMoves (s.step m) moves

/-- The turns of a run. -/
def history (s : Background) (moves : List Move) : List Turn :=
  s.traffic.history (s.trafficMoves moves)

end Background

/-! ## What an attempt has to do with the turns so far -/

namespace Errand

/-- The worker of an attempt has won its resource. -/
def WonIn (turns : List Turn) (e : Errand) : Prop :=
  ∃ own ∈ turns, own.index = e.worker ∧ own.wins e.resource = true

/-- The traffic and the turns so far are as the state of an attempt says. -/
structure Fits (past : List Turn) (s : Traffic) (e : Errand) : Prop where
  worker : ∃ claim a, s.jobs[e.worker]? = some (.acquire claim a) ∧
    claim.row.resource = e.resource ∧ (a.isGranted = true → e.WonIn past)
  rollback : ∀ place, e.rollback = some place →
    e.settled = true ∧ e.slot = .abandoned ∧ e.WonIn past ∧
      (s.jobs[place]? = some (.release e.resource e.owner) ∨ s.jobs[place]? = some .finished) ∧
      ∀ pre t post, past = pre ++ t :: post → t.index = place →
        e.WonIn pre ∧ (t.job = .release e.resource e.owner ∨ t.job = .finished)

variable {e : Errand} {past : List Turn} {s : Traffic}

theorem WonIn.append (h : e.WonIn past) (turns : List Turn) : e.WonIn (past ++ turns) := by
  obtain ⟨own, hown, hindex, hwon⟩ := h
  exact ⟨own, List.mem_append_left _ hown, hindex, hwon⟩

theorem Fits.lt_length (h : e.Fits past s) : e.worker < s.jobs.length := by
  obtain ⟨claim, a, ha, -⟩ := h.worker
  exact (List.getElem?_eq_some_iff.mp ha).1

/-- A worker that is granted the lock by a move has won by a turn of its own. -/
theorem Fits.worker_step (h : e.Fits past s) (m : Traffic.Move) :
    ∃ claim a, (s.step m).jobs[e.worker]? = some (.acquire claim a) ∧
      claim.row.resource = e.resource ∧
        (a.isGranted = true → e.WonIn (past ++ (s.turn? m).toList)) := by
  obtain ⟨claim, a, ha, hr, hwon⟩ := h.worker
  by_cases hm : m = .turn e.worker
  · subst hm
    refine ⟨claim, _, Traffic.jobs_step_turn ha, hr, fun hgranted => ?_⟩
    cases hbefore : a.isGranted with
    | true => exact (hwon hbefore).append _
    | false =>
      rw [Traffic.turn?_turn ha]
      refine ⟨_, List.mem_append_right _ List.mem_cons_self, rfl, ?_⟩
      simp [Turn.wins, hr, hbefore, hgranted]
  · exact ⟨claim, a, Traffic.jobs_step_of_ne ha hm, hr, fun hgranted => (hwon hgranted).append _⟩

/-- A rollback is one statement. -/
theorem release_step {place : Nat} {resource owner : String}
    (h : s.jobs[place]? = some (.release resource owner) ∨ s.jobs[place]? = some .finished)
    (m : Traffic.Move) :
    (s.step m).jobs[place]? = some (.release resource owner) ∨
      (s.step m).jobs[place]? = some .finished := by
  by_cases hm : m = .turn place
  · subst hm
    right
    rcases h with h | h
    · exact Traffic.jobs_step_turn h
    · exact Traffic.jobs_step_turn h
  · exact h.imp (fun h => Traffic.jobs_step_of_ne h hm) fun h => Traffic.jobs_step_of_ne h hm

/-- What happens in the traffic leaves an attempt as it is. -/
theorem Fits.step (h : e.Fits past s) (m : Traffic.Move) :
    e.Fits (past ++ (s.turn? m).toList) (s.step m) := by
  refine ⟨h.worker_step m, fun place hplace => ?_⟩
  obtain ⟨settled, abandoned, won, job, earlier⟩ := h.rollback place hplace
  refine ⟨settled, abandoned, won.append _, release_step job m, fun pre t post split hindex => ?_⟩
  cases hm : s.turn? m with
  | none =>
    rw [hm, Option.toList_none, List.append_nil] at split
    exact earlier pre t post split hindex
  | some u =>
    rw [hm, Option.toList_some] at split
    rcases List.eq_nil_or_concat post with rfl | ⟨post, v, rfl⟩
    · -- the turn is the one that the move is
      obtain ⟨rfl, hu⟩ := List.append_inj' split rfl
      cases hu
      have hjob := Traffic.turn?_job hm
      rw [hindex] at hjob
      refine ⟨won, ?_⟩
      rcases job with hrelease | hfinished
      · exact .inl (Option.some.inj (hjob.symm.trans hrelease))
      · exact .inr (Option.some.inj (hjob.symm.trans hfinished))
    · -- it was there before
      have split' : past ++ [u] = (pre ++ t :: post) ++ [v] := by simpa using split
      exact earlier pre t post (List.append_inj' split' rfl).1 hindex

theorem Fits.leave (h : e.Fits past s) : e.leave.Fits past s := by
  refine ⟨h.worker, fun place hplace => ?_⟩
  obtain ⟨settled, abandoned, rest⟩ := h.rollback place hplace
  refine ⟨settled, ?_, rest⟩
  rw [Errand.leave, abandoned]
  rfl

/-- Only what was acquired for a waiter that is gone is given back. -/
theorem giveBack_iff {slot : Slot} {granted : Bool} :
    (slot.settle granted).2 = true ↔ slot = .abandoned ∧ granted = true := by
  cases slot <;> simp [Slot.settle]

theorem Fits.settle_answered (h : e.Fits past s) {granted : Bool} {next : Nat}
    (kept : (e.slot.settle granted).2 = false) : (e.settle granted next).Fits past s := by
  refine ⟨h.worker, fun place hplace => ?_⟩
  simp [Errand.settle, kept] at hplace

/-- A rollback begins after the worker has won, and no turn of it has been yet. -/
theorem Fits.settle_abandoned (h : e.Fits past s) {claim : Claim} {ending : Ending}
    (job : s.jobs[e.worker]? = some (.acquire claim (.done ending)))
    (back : (e.slot.settle ending.granted).2 = true)
    (indices : ∀ t ∈ past, t.index < s.jobs.length) :
    (e.settle ending.granted s.jobs.length).Fits past
      (s.step (.start (.release e.resource e.owner))) := by
  obtain ⟨abandoned, granted⟩ := giveBack_iff.mp back
  have won : e.WonIn past := by
    obtain ⟨claim', a, ha, -, hwon⟩ := h.worker
    cases job.symm.trans ha
    exact hwon granted
  have moved := h.worker_step (.start (.release e.resource e.owner))
  rw [show s.turn? (.start (.release e.resource e.owner)) = none from rfl, Option.toList_none,
    List.append_nil] at moved
  refine ⟨moved, fun place hplace => ?_⟩
  simp only [Errand.settle, back, if_true] at hplace
  cases hplace
  refine ⟨rfl, by simp [Errand.settle, abandoned, Slot.settle], won, .inl ?_, ?_⟩
  · simp [Traffic.step, Operation.start, Errand.settle]
  · intro pre t post split hindex
    have hlt := indices t (by simp [split])
    omega

end Errand

/-! ## Runs -/

namespace Background

variable {s : Background} {past : List Turn}

/-- All attempts fit the turns so far, and each has its own worker. -/
structure Consistent (past : List Turn) (s : Background) : Prop where
  indices : ∀ t ∈ past, t.index < s.traffic.jobs.length
  workers : (s.errands.map Errand.worker).Nodup
  fits : ∀ e ∈ s.errands, e.Fits past s.traffic

theorem settling?_eq_some {index : Nat} {e : Errand} {granted : Bool}
    (h : s.settling? index = some (e, granted)) :
    s.errands[index]? = some e ∧ ∃ claim ending,
      s.traffic.jobs[e.worker]? = some (.acquire claim (.done ending)) ∧
        granted = ending.granted := by
  unfold settling? at h
  split at h
  · rename_i e' he
    split at h
    · rename_i claim ending hsettled hjob
      cases h
      exact ⟨he, claim, ending, hjob, rfl⟩
    · cases h
  · cases h

theorem traffic_step_none {m : Move} (h : s.move? m = none) : (s.step m).traffic = s.traffic := by
  simp [step, h]

theorem traffic_step_some {m : Move} {m' : Traffic.Move} (h : s.move? m = some m') :
    (s.step m).traffic = s.traffic.step m' := by
  simp [step, h]

/-- The turns of a run begin with the one of its first move. -/
theorem history_cons (s : Background) (m : Move) (moves : List Move) :
    s.history (m :: moves) = (s.turn? m).toList ++ (s.step m).history moves := by
  cases hm : s.move? m with
  | none => simp [history, trafficMoves, turn?, hm, traffic_step_none hm]
  | some m' => simp [history, trafficMoves, turn?, hm, traffic_step_some hm, Traffic.history]

/-- A turn is one of a job that is there. -/
theorem index_lt_of_turn? {m : Move} {t : Turn} (h : s.turn? m = some t) :
    t.index < s.traffic.jobs.length := by
  obtain ⟨m', -, ht⟩ := Option.bind_eq_some_iff.mp h
  exact (List.getElem?_eq_some_iff.mp (Traffic.turn?_job ht)).1

theorem length_step (s : Background) (m : Move) :
    s.traffic.jobs.length ≤ (s.step m).traffic.jobs.length := by
  cases hm : s.move? m with
  | none => exact Nat.le_of_eq (by rw [traffic_step_none hm])
  | some m' =>
    rw [traffic_step_some hm]
    exact s.traffic.length_step m'

/-- An attempt that a move does not touch fits after it. -/
theorem Consistent.fits_step (h : s.Consistent past) (m : Move) {e : Errand} (he : e ∈ s.errands) :
    e.Fits (past ++ (s.turn? m).toList) (s.step m).traffic := by
  cases hm : s.move? m with
  | none =>
    rw [traffic_step_none hm, turn?, hm, Option.bind_none, Option.toList_none, List.append_nil]
    exact h.fits e he
  | some m' =>
    rw [traffic_step_some hm, turn?, hm, Option.bind_some]
    exact (h.fits e he).step m'

/-- An attempt stays with its worker. -/
theorem workers_set {errands : List Errand} {index : Nat} {e e' : Errand}
    (he : errands[index]? = some e) (same : e'.worker = e.worker) :
    (errands.set index e').map Errand.worker = errands.map Errand.worker := by
  have hworker : (errands.map Errand.worker)[index]? = some e'.worker := by
    rw [List.getElem?_map, he, Option.map_some, same]
  obtain ⟨hlt, hget⟩ := List.getElem?_eq_some_iff.mp hworker
  rw [List.map_set, ← hget, List.set_getElem_self]

theorem Consistent.indices_step (h : s.Consistent past) (m : Move) :
    ∀ t ∈ past ++ (s.turn? m).toList, t.index < (s.step m).traffic.jobs.length := by
  intro t ht
  have hlen := s.length_step m
  rcases List.mem_append.mp ht with hpast | hnow
  · have hlt := h.indices t hpast
    omega
  · have hlt := index_lt_of_turn? (Option.mem_toList.mp hnow)
    omega

/-- After a move that touches no attempt. -/
theorem Consistent.step_of_same (h : s.Consistent past) {m : Move}
    (same : (s.step m).errands = s.errands) :
    (s.step m).Consistent (past ++ (s.turn? m).toList) :=
  ⟨h.indices_step m, same ▸ h.workers, fun _ he => h.fits_step m (same ▸ he)⟩

/-- After a move that touches one attempt, all of them fit if that one does. -/
theorem Consistent.step_of_set (h : s.Consistent past) {m : Move} {index : Nat} {e e' : Errand}
    (he : s.errands[index]? = some e) (errands : (s.step m).errands = s.errands.set index e')
    (worker : e'.worker = e.worker)
    (fits : e'.Fits (past ++ (s.turn? m).toList) (s.step m).traffic) :
    (s.step m).Consistent (past ++ (s.turn? m).toList) := by
  refine ⟨h.indices_step m, ?_, fun f hf => ?_⟩
  · rw [errands, workers_set he worker]
    exact h.workers
  · rw [errands] at hf
    rcases List.mem_or_eq_of_mem_set hf with hold | rfl
    · exact h.fits_step m hold
    · exact fits

theorem Consistent.step (h : s.Consistent past) (m : Move) :
    (s.step m).Consistent (past ++ (s.turn? m).toList) := by
  cases m with
  | traffic m' => exact h.step_of_same rfl
  | begin resource host owner lease =>
    refine ⟨h.indices_step _, ?_, fun e he => ?_⟩
    · have fresh : s.traffic.jobs.length ∉ s.errands.map Errand.worker := by
        intro hmem
        obtain ⟨e, he, heq⟩ := List.mem_map.mp hmem
        have hlt := (h.fits e he).lt_length
        omega
      simpa [Background.step, errandsAfter, List.nodup_append, h.workers] using fresh
    · rcases List.mem_append.mp he with hold | hnew
      · exact h.fits_step _ hold
      · rw [List.mem_singleton.mp hnew]
        refine ⟨⟨Claim.new s.traffic.clock resource host owner lease, .insert, ?_, rfl,
          fun hgranted => by cases hgranted⟩, fun place hplace => by cases hplace⟩
        simp [Background.step, move?, Traffic.step, Operation.start]
  | settle index =>
    cases hsettling : s.settling? index with
    | none => exact h.step_of_same (by simp [Background.step, errandsAfter, hsettling])
    | some found =>
      obtain ⟨e, granted⟩ := found
      obtain ⟨he, claim, ending, job, rfl⟩ := settling?_eq_some hsettling
      have errands : (s.step (.settle index)).errands =
          s.errands.set index (e.settle ending.granted s.traffic.jobs.length) := by
        simp [Background.step, errandsAfter, hsettling]
      have fits := h.fits e (List.mem_of_getElem? he)
      refine h.step_of_set he errands rfl ?_
      cases hback : (e.slot.settle ending.granted).2 with
      | false => simpa [Background.step, move?, hsettling, turn?, hback] using
          fits.settle_answered hback
      | true => simpa [Background.step, move?, hsettling, turn?, hback, Traffic.turn?] using
          fits.settle_abandoned job hback h.indices
  | leave index =>
    cases he : s.errands[index]? with
    | none => exact h.step_of_same (by simp [Background.step, errandsAfter, he])
    | some e =>
      have errands : (s.step (.leave index)).errands = s.errands.set index e.leave := by
        simp [Background.step, errandsAfter, he]
      have fits := h.fits_step (.leave index) (List.mem_of_getElem? he)
      exact h.step_of_set he errands rfl fits.leave

theorem Consistent.run (h : s.Consistent past) (moves : List Move) :
    (s.run moves).Consistent (past ++ s.history moves) := by
  induction moves generalizing s past with
  | nil => simpa [Background.run, history, trafficMoves, Traffic.history] using h
  | cons m moves ih =>
    rw [history_cons, ← List.append_assoc]
    exact ih (h.step m)

end Background

end Leasehold

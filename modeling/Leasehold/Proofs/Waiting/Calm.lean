import Leasehold.Proofs.Waiting.Delays
import Leasehold.Proofs.Waiting.Rounds

/-!
# Waits that nobody disturbs

Where time passes in the pauses only and nobody asks to stop, all that matters for a wait is at
which times an attempt is granted.  `Wait.Calm` says so of surroundings and an asking, by what is
known of the state at each time.

A round then ends in one of three ways (`Wait.Calm.round`).  No pause is empty, and none goes beyond
the end, so that the time left decreases and the wait comes to an end (`Wait.Calm.run`): with the
first attempt that is granted, or with one at the very end of its time.
-/

namespace Leasehold

open Program

/-- A wait that has an end has it when its time is over. -/
theorem waitEnd?_of_isSome {start : Nat} {limit : Span} (h : (waitEnd? start limit).isSome) :
    waitEnd? start limit = some (start + limit.nanos) := by
  unfold waitEnd? at h ⊢
  dsimp only at h ⊢
  split at h
  · rename_i small
    rw [if_pos small]
  · cases h

namespace Wait

variable {ε : Type}

/-- A wait that began at an uptime and may last `limit` nanoseconds is asked for and spent without
any disturbance.  After so many nanoseconds `opens` tells whether an attempt is granted, and `known`
is what is known of the state, with the lock or without it. -/
structure Calm (s : Surroundings ε) (a : Asking ε) (began limit : Nat) (opens : Nat → Bool)
    (known : Bool → Nat → ε → Prop) : Prop where
  now : ∀ {had elapsed state}, known had elapsed state →
    (s.now state).1 = began + elapsed ∧ known had elapsed (s.now state).2
  stopped : ∀ {elapsed state}, known false elapsed state →
    (s.stopped state).1 = false ∧ known false elapsed (s.stopped state).2
  observe : ∀ observe, s.observe = some observe → ∀ event {had elapsed state},
    known had elapsed state → known had elapsed (observe event state).2
  /-- Nothing is asked of pauses that go beyond the end. -/
  sleep : ∀ {length : Span} {elapsed state}, elapsed + length.nanos ≤ limit →
    known false elapsed state → known false (elapsed + length.nanos) (s.sleep length state).2
  attempt : ∀ {elapsed state}, known false elapsed state →
    (a.attempt state).1 = .ok (opens elapsed) ∧ known (opens elapsed) elapsed (a.attempt state).2
  granted : ∀ refusals waited {elapsed state}, known true elapsed state →
    known true elapsed (a.granted refusals waited state).2

/-- The fault of a wait whose time is over after so many nanoseconds. -/
def timeoutAfter (w : Wait) (elapsed : Nat) : Fault :=
  .timedOut w.resource (Span.saturate elapsed).toBinary64 w.bound w.source

/-- The pause after a refusal. -/
def pauseAfter (w : Wait) (limit elapsed : Nat) : Span :=
  w.schedule.next.shorter (Span.saturate (limit - elapsed))

/-- What a round leads to by the answer to its attempt. -/
def roundAfter (w : Wait) (limit elapsed : Nat) : Except Fault Bool → Round × Wait
  | .error fault => (.finished (.error fault), w)
  | .ok true => (.finished (.ok true), w)
  | .ok false =>
    if limit ≤ elapsed then (.finished (.error (w.timeoutAfter elapsed)), w.refused)
    else (.pause (w.pauseAfter limit elapsed), w.refused)

variable {s : Surroundings ε} {a : Asking ε} {w : Wait} {limit elapsed : Nat} {state : ε}
  {P : ε → Prop}

/-! ## One round -/

/-- It is so many nanoseconds since a wait began wherever `P` holds, and to look at the clock or to
tell the observer of an event changes nothing about it. -/
structure Timed (s : Surroundings ε) (began elapsed : Nat) (P : ε → Prop) : Prop where
  now : ∀ {state}, P state → (s.now state).1 = began + elapsed ∧ P (s.now state).2
  observe : ∀ observe, s.observe = some observe →
    ∀ event {state}, P state → P (observe event state).2

/-- Also, nobody asks the wait to stop. -/
structure Quiet (s : Surroundings ε) (began elapsed : Nat) (P : ε → Prop) : Prop
    extends Timed s began elapsed P where
  stopped : ∀ {state}, P state → (s.stopped state).1 = false ∧ P (s.stopped state).2

theorem Timed.given {c : Prop} (h : c → Timed s w.began elapsed P) :
    Timed s w.began elapsed fun state => c ∧ P state where
  now := fun ⟨hc, hP⟩ => ⟨((h hc).now hP).1, hc, ((h hc).now hP).2⟩
  observe := fun observe observed event _ ⟨hc, hP⟩ => ⟨hc, (h hc).observe observe observed event hP⟩

theorem Quiet.given {c : Prop} (h : c → Quiet s w.began elapsed P) :
    Quiet s w.began elapsed fun state => c ∧ P state where
  toTimed := .given fun hc => (h hc).toTimed
  stopped := fun ⟨hc, hP⟩ => ⟨((h hc).stopped hP).1, hc, ((h hc).stopped hP).2⟩

theorem Timed.waited (timed : Timed s w.began elapsed P) (h : P state) :
    (w.waited s state).1 = Span.saturate elapsed ∧ P (w.waited s state).2 := by
  obtain ⟨now, after⟩ := timed.now h
  rw [Wait.waited, bind_at, now]
  refine ⟨?_, after⟩
  rw [pure_at, Nat.add_sub_cancel_left]

theorem Timed.tell (timed : Timed s w.began elapsed P) (event : Span → WaitEvent)
    (h : P state) : P (w.tell s event state).2 := by
  unfold Wait.tell
  cases observed : s.observe with
  | none => exact h
  | some observe => exact timed.observe observe observed _ (timed.waited h).2

theorem Timed.tellBegan (timed : Timed s w.began elapsed P) (h : P state) :
    P (w.tellBegan s state).2 := by
  unfold Wait.tellBegan
  cases observed : s.observe with
  | none => exact h
  | some observe =>
    dsimp only
    split
    · exact timed.observe observe observed _ h
    · exact h

/-- After a refusal the wait is over if its time is, and pauses otherwise. -/
theorem Timed.goOn (timed : Timed s w.began elapsed P)
    (finite : w.deadline = some (w.began + limit)) (pause : Span) (h : P state) :
    (w.goOn s pause state).1 =
        (if limit ≤ elapsed then (.finished (.error (w.timeoutAfter elapsed)), w)
        else (.pause (pause.shorter (Span.saturate (limit - elapsed))), w)) ∧
      P (w.goOn s pause state).2 := by
  obtain ⟨now, after⟩ := timed.now h
  have left : w.began + limit - (w.began + elapsed) = limit - elapsed := by omega
  rw [Wait.goOn, finite]
  dsimp only
  rw [bind_at, now, left]
  by_cases spent : limit ≤ elapsed
  · have none_left : Span.saturate (limit - elapsed) = Span.zero :=
      Span.saturate_eq_zero_iff.mpr (Nat.sub_eq_zero_of_le spent)
    obtain ⟨late, told⟩ := timed.waited (timed.tell (.timedOut w.resource) after)
    rw [if_pos none_left, if_pos spent, bind_at, Wait.timedOut, bind_at, bind_at, late]
    exact ⟨rfl, told⟩
  · have some_left : Span.saturate (limit - elapsed) ≠ Span.zero := by
      rw [ne_eq, Span.saturate_eq_zero_iff]
      omega
    rw [if_neg some_left, if_neg spent, bind_at]
    exact ⟨rfl, timed.tell _ after⟩

theorem Quiet.checkStop (quiet : Quiet s w.began elapsed P) (h : P state) :
    (w.checkStop s state).1 = none ∧ P (w.checkStop s state).2 := by
  obtain ⟨running, after⟩ := quiet.stopped h
  rw [Wait.checkStop, bind_at, running]
  exact ⟨rfl, after⟩

/-- A round goes by the answer to its attempt, of which `Q` tells what is known afterwards. -/
theorem Quiet.round {Q : Except Fault Bool → ε → Prop} (before : Quiet s w.began elapsed P)
    (attempt : ∀ {state}, P state → Q (a.attempt state).1 (a.attempt state).2)
    (had : Timed s w.began elapsed (Q (.ok true)))
    (granted : ∀ refusals waited {state}, Q (.ok true) state →
      Q (.ok true) (a.granted refusals waited state).2)
    (refused : Quiet s w.began elapsed (Q (.ok false)))
    (finite : w.deadline = some (w.began + limit)) (patient : w.single = false) (h : P state) :
    ∃ answer, (w.round s a state).1 = w.roundAfter limit elapsed answer ∧
      Q answer (w.round s a state).2 := by
  obtain ⟨running, checked⟩ := before.checkStop h
  have asked := attempt checked
  rw [Wait.round, bind_at, running]
  dsimp only
  rw [bind_at]
  generalize a.attempt (w.checkStop s state).2 = reply at asked
  obtain ⟨answer, state⟩ := reply
  refine ⟨answer, ?_⟩
  dsimp only at asked ⊢
  cases answer with
  | error fault => exact ⟨rfl, asked⟩
  | ok got =>
    cases got with
    | true => exact ⟨rfl, had.tell _ (granted _ _ (had.waited asked).2)⟩
    | false =>
      obtain ⟨running, checked⟩ := refused.checkStop asked
      dsimp only
      rw [afterRefusal_eq, if_neg (by rw [patient]; exact Bool.false_ne_true), bind_at, running]
      dsimp only
      rw [bind_at]
      exact Timed.goOn (w := w.refused) refused.toTimed finite _ (refused.tellBegan checked)

/-! ## Runs -/

theorem run_of_finished {result : Except Fault Bool} {v : Wait}
    (finished : (w.round s a state).1 = (.finished result, v)) (rounds : Nat) :
    w.run s a (rounds + 1) state = ((some result, v), (w.round s a state).2) := by
  rw [Wait.run, bind_at, finished]
  rfl

theorem run_of_pause {length : Span} {v : Wait}
    (pauses : (w.round s a state).1 = (.pause length, v)) (rounds : Nat) :
    w.run s a (rounds + 1) state =
      v.run s a rounds (s.sleep length (w.round s a state).2).2 := by
  rw [Wait.run, bind_at, pauses]
  rfl

namespace Calm

variable {opens : Nat → Bool} {known : Bool → Nat → ε → Prop}

/-- A round is granted the lock, or it is over in time or pauses. -/
theorem round (calm : Calm s a w.began limit opens known)
    (finite : w.deadline = some (w.began + limit)) (patient : w.single = false)
    (h : known false elapsed state) :
    (w.round s a state).1 = w.roundAfter limit elapsed (.ok (opens elapsed)) ∧
      known (opens elapsed) elapsed (w.round s a state).2 := by
  have timed (had : Bool) : Timed s w.began elapsed (known had elapsed) :=
    ⟨calm.now, fun observe observed event => calm.observe observe observed event⟩
  have quiet : Quiet s w.began elapsed (known false elapsed) := ⟨timed false, calm.stopped⟩
  obtain ⟨answer, reply, rfl, after⟩ := Quiet.round (a := a)
    (Q := fun answer state => answer = .ok (opens elapsed) ∧ known (opens elapsed) elapsed state)
    quiet calm.attempt
    (.given fun _ => timed _)
    (fun refusals waited _ ⟨yes, had⟩ => by
      rw [← Except.ok.inj yes] at had ⊢
      exact ⟨rfl, calm.granted refusals waited had⟩)
    (.given fun no => by
      rw [← Except.ok.inj no]
      exact quiet)
    finite patient h
  exact ⟨reply, after⟩

/-! ## The whole wait -/

/-- How a wait ends that was not granted the lock before `elapsed`. -/
inductive Ended (w : Wait) (limit : Nat) (opens : Nat → Bool) (known : Bool → Nat → ε → Prop)
    (elapsed : Nat) : Except Fault Bool → ε → Prop where
  /-- An attempt was granted: the next one, or one at most a ceiling after one that was refused. -/
  | granted {last : Nat} {state : ε} (opened : opens last = true) (begun : elapsed ≤ last)
    (inTime : last ≤ limit)
    (soon : last = elapsed ∨ ∃ earlier, elapsed ≤ earlier ∧ opens earlier = false ∧
      last ≤ earlier + w.schedule.ceiling.nanos)
    (left : known true last state) : Ended w limit opens known elapsed (.ok true) state
  /-- The last attempt was made at the very end, and refused. -/
  | timedOut {state : ε} (closed : opens limit = false) (left : known false limit state) :
    Ended w limit opens known elapsed (.error (w.timeoutAfter limit)) state

/-- The time after a pause, which does not go beyond the end. -/
theorem pauseAfter_spec (next : 0 < w.schedule.next.nanos)
    (low : w.schedule.next ≤ w.schedule.ceiling) (ahead : elapsed < limit) :
    0 < (w.pauseAfter limit elapsed).nanos ∧
      (w.pauseAfter limit elapsed).nanos ≤ w.schedule.ceiling.nanos ∧
      elapsed + (w.pauseAfter limit elapsed).nanos ≤ limit := by
  rw [Span.le_iff] at low
  rw [pauseAfter, Span.nanos_shorter, Span.nanos_saturate, Span.nanos_longest]
  omega

theorem Ended.after_refusal {result : Except Fault Bool} {pause : Span}
    (closed : opens elapsed = false) (low : pause.nanos ≤ w.schedule.ceiling.nanos)
    (h : Ended w.refused limit opens known (elapsed + pause.nanos) result state) :
    Ended w limit opens known elapsed result state := by
  cases h with
  | granted opened begun inTime soon left =>
    refine .granted opened (by omega) inTime (.inr ?_) left
    rcases soon with rfl | ⟨earlier, later, refused, soon⟩
    · exact ⟨elapsed, Nat.le_refl _, closed, by omega⟩
    · exact ⟨earlier, by omega, refused, soon⟩
  | timedOut closed left => exact .timedOut closed left

/-- A calm wait comes to its end. -/
theorem run (calm : Calm s a w.began limit opens known)
    (finite : w.deadline = some (w.began + limit)) (patient : w.single = false)
    (next : 0 < w.schedule.next.nanos) (low : w.schedule.next ≤ w.schedule.ceiling)
    (inTime : elapsed ≤ limit) (h : known false elapsed state) :
    ∃ enough, ∀ rounds, enough ≤ rounds → ∃ result v,
      (w.run s a rounds state).1 = (some result, v) ∧
        Ended w limit opens known elapsed result (w.run s a rounds state).2 := by
  -- the time left decreases by each pause
  induction hleft : limit - elapsed using Nat.strongRecOn generalizing w elapsed state with
  | ind left ih =>
    obtain ⟨reply, asked⟩ := calm.round finite patient h
    -- a round that ends the wait is the last one
    have last : ∀ {result v}, (w.round s a state).1 = (.finished result, v) →
        Ended w limit opens known elapsed result (w.round s a state).2 →
        ∃ enough, ∀ rounds, enough ≤ rounds → ∃ result v,
          (w.run s a rounds state).1 = (some result, v) ∧
            Ended w limit opens known elapsed result (w.run s a rounds state).2 := by
      intro result v finished ended
      refine ⟨1, fun rounds some_left => ?_⟩
      obtain ⟨rounds, rfl⟩ := Nat.exists_eq_add_of_le' some_left
      rw [run_of_finished finished]
      exact ⟨result, v, rfl, ended⟩
    cases opened : opens elapsed with
    | true =>
      rw [opened] at reply asked
      exact last reply (.granted opened (Nat.le_refl _) inTime (.inl rfl) asked)
    | false =>
      rw [opened, roundAfter] at reply
      rw [opened] at asked
      by_cases spent : limit ≤ elapsed
      · obtain rfl := Nat.le_antisymm inTime spent
        rw [if_pos (Nat.le_refl _)] at reply
        exact last reply (.timedOut opened asked)
      · rw [if_neg spent] at reply
        obtain ⟨some_pause, low_pause, in_time⟩ := pauseAfter_spec next low (Nat.lt_of_not_le spent)
        obtain ⟨enough, rest⟩ := ih (limit - (elapsed + (w.pauseAfter limit elapsed).nanos))
          (by omega) (w := w.refused) calm finite patient
          (RetrySchedule.rest_next_pos next low) (RetrySchedule.rest_next_le_ceiling _) in_time
          (calm.sleep in_time asked) rfl
        refine ⟨enough + 1, fun rounds some_left => ?_⟩
        obtain ⟨rounds, rfl⟩ := Nat.exists_eq_add_of_le' (Nat.le_of_add_left_le some_left)
        obtain ⟨result, v, finished, ended⟩ := rest rounds (Nat.le_of_succ_le_succ some_left)
        rw [run_of_pause reply]
        exact ⟨result, v, finished, ended.after_refusal opened low_pause⟩

end Calm

end Wait

end Leasehold

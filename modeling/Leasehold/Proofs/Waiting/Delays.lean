import Leasehold.Decimal.Power
import Leasehold.Waiting.Retry
import Mathlib.Algebra.GroupWithZero.Nat

/-!
# How many pauses a time takes

The delays of a schedule double up to its ceiling (`RetrySchedule.nanos_delay_new`).  A time that
is spent in pauses is cut into these delays, the last of which may be cut off
(`RetrySchedule.Cut`): the pauses add up to the time, and there is no more of them than delays are
needed to reach it (`RetrySchedule.exists_cut_new`).
-/

namespace Leasehold

namespace Span

theorem saturate_eq_zero_iff {n : Nat} : saturate n = zero ↔ n = 0 := by
  rw [Span.ext_iff, nanos_saturate, nanos_zero, nanos_longest]
  omega

theorem saturate_nanos (s : Span) : saturate s.nanos = s := dif_pos s.nanos_lt

theorem nanos_shorter_saturate (s : Span) (n : Nat) :
    (s.shorter (saturate n)).nanos = min s.nanos n := by
  have short := s.nanos_lt
  rw [nanos_shorter, nanos_saturate, nanos_longest]
  omega

/-- The sum of spans, in nanoseconds. -/
def total (spans : List Span) : Nat := (spans.map nanos).sum

@[simp] theorem total_nil : total [] = 0 := rfl

@[simp] theorem total_cons (s : Span) (spans : List Span) :
    total (s :: spans) = s.nanos + total spans := by
  simp [total]

end Span

namespace RetrySchedule

variable {s : RetrySchedule} {left : Nat} {pauses : List Span}

/-! ## Delays -/

/-- A schedule whose next pause is not empty and not above the ceiling goes on like that. -/
theorem rest_next_pos (next : 0 < s.next.nanos) (low : s.next ≤ s.ceiling) :
    0 < s.rest.next.nanos := by
  rw [Span.le_iff] at low
  have longest := Span.nanos_longest
  rw [rest, Span.nanos_shorter, Span.nanos_double]
  omega

theorem nanos_delay {first : Nat} (next : s.next.nanos = min first s.ceiling.nanos) (n : Nat) :
    (s.delay n).nanos = min (first * twoTo n) s.ceiling.nanos := by
  induction n generalizing s first with
  | zero => rw [delay_zero, next, twoTo_zero, Nat.mul_one]
  | succ n ih =>
    have longest := s.ceiling.nanos_lt
    have doubled : s.rest.next.nanos = min (2 * first) s.rest.ceiling.nanos := by
      rw [ceiling_rest, rest, Span.nanos_shorter, Span.nanos_double, next, Span.nanos_longest]
      omega
    rw [delay_succ, ih doubled, twoTo_succ, ceiling_rest, Nat.mul_left_comm, Nat.mul_assoc]

/-- Each delay is twice the one before, up to the ceiling. -/
theorem nanos_delay_new (first ceiling : Span) (n : Nat) :
    ((new first ceiling).delay n).nanos = min (first.nanos * twoTo n) ceiling.nanos :=
  nanos_delay (Span.nanos_shorter first ceiling) n

theorem delays_eq (s : RetrySchedule) (n : Nat) : s.delays n = (List.range n).map s.delay := by
  induction n generalizing s with
  | zero => rfl
  | succ n ih =>
    rw [delays, ih, List.range_succ_eq_map, List.map_cons, List.map_map]
    rfl

/-! ## Pauses -/

/-- The pauses of a schedule for a time that is left, the last one cut off where the time is
over. -/
inductive Cut : RetrySchedule → Nat → List Span → Prop where
  | finished {s : RetrySchedule} : Cut s 0 []
  | pause {s : RetrySchedule} {left : Nat} {pause : Span} {pauses : List Span}
    (some_left : 0 < left) (length : pause.nanos = min s.next.nanos left)
    (rest : Cut s.rest (left - pause.nanos) pauses) : Cut s left (pause :: pauses)

/-- The pauses go on as long as there is time, and no longer. -/
theorem exists_cut (next : 0 < s.next.nanos) (low : s.next ≤ s.ceiling) (left : Nat) :
    ∃ pauses, Cut s left pauses := by
  induction left using Nat.strongRecOn generalizing s with
  | ind left ih =>
    rcases Nat.eq_zero_or_pos left with rfl | some_left
    · exact ⟨[], .finished⟩
    · have length := s.next.nanos_shorter_saturate left
      obtain ⟨pauses, rest⟩ := ih (left - (s.next.shorter (Span.saturate left)).nanos) (by omega)
        (rest_next_pos next low) (rest_next_le_ceiling s)
      exact ⟨_, .pause some_left length rest⟩

theorem Cut.pos_of_ne_nil (cut : Cut s left pauses) (more : pauses ≠ []) : 0 < left := by
  cases cut with
  | finished => exact absurd rfl more
  | pause some_left => exact some_left

theorem Cut.total_eq (cut : Cut s left pauses) : Span.total pauses = left := by
  induction cut with
  | finished => rfl
  | pause some_left length rest ih =>
    rw [Span.total_cons, ih]
    omega

/-- There are no more pauses than delays are needed to reach the end. -/
theorem Cut.length_least (cut : Cut s left pauses) :
    left ≤ Span.total (s.delays pauses.length) ∧
      ∀ n < pauses.length, Span.total (s.delays n) < left := by
  induction cut with
  | finished => exact ⟨Nat.zero_le _, fun n few => absurd few (Nat.not_lt_zero n)⟩
  | pause some_left length rest ih =>
    obtain ⟨reached, fewer⟩ := ih
    refine ⟨?_, fun n few => ?_⟩
    · rw [List.length_cons, delays, Span.total_cons]
      omega
    · cases n with
      | zero => exact some_left
      | succ n =>
        have short := fewer n (Nat.lt_of_succ_lt_succ few)
        rw [delays, Span.total_cons]
        omega

/-- Each pause is a delay of the schedule, but for the last one, which may be shorter. -/
theorem Cut.pause_eq (cut : Cut s left pauses) (i : Nat) (h : i < pauses.length) :
    pauses[i].nanos ≤ (s.delay i).nanos ∧
      (i + 1 < pauses.length → pauses[i].nanos = (s.delay i).nanos) := by
  induction cut generalizing i with
  | finished => cases h
  | pause some_left length rest ih =>
    cases i with
    | succ i =>
      obtain ⟨low, same⟩ := ih i (Nat.lt_of_succ_lt_succ h)
      exact ⟨low, fun more => same (Nat.lt_of_succ_lt_succ more)⟩
    | zero =>
      rw [List.getElem_cons_zero, delay_zero]
      refine ⟨by omega, fun more => ?_⟩
      -- a pause that is cut off leaves nothing for another one
      have left := rest.pos_of_ne_nil (List.ne_nil_of_length_pos (Nat.lt_of_succ_lt_succ more))
      omega

/-- The pauses that a schedule cuts a time into when it begins anew. -/
theorem exists_cut_new {first ceiling : Span} (some_first : Span.zero < first)
    (some_ceiling : Span.zero < ceiling) (time : Nat) :
    let delay (i : Nat) := min (first.nanos * twoTo i) ceiling.nanos
    let reach (n : Nat) := ((List.range n).map delay).sum
    ∃ pauses, (new first ceiling).Cut time pauses ∧
      time ≤ reach pauses.length ∧ (∀ n < pauses.length, reach n < time) ∧
      ∀ i (h : i < pauses.length), pauses[i].nanos ≤ delay i ∧
        (i + 1 < pauses.length → pauses[i].nanos = delay i) := by
  intro delay reach
  have next : 0 < (new first ceiling).next.nanos := by
    show 0 < (first.shorter ceiling).nanos
    rw [Span.nanos_shorter]
    exact Nat.lt_min.mpr ⟨some_first, some_ceiling⟩
  obtain ⟨pauses, cut⟩ := exists_cut next (new_next_le_ceiling first ceiling) time
  have delays (i : Nat) : ((new first ceiling).delay i).nanos = delay i :=
    nanos_delay_new first ceiling i
  have reached (n : Nat) : Span.total ((new first ceiling).delays n) = reach n := by
    rw [Span.total, delays_eq, List.map_map]
    exact congrArg List.sum (List.map_congr_left fun i _ => delays i)
  obtain ⟨enough, fewer⟩ := cut.length_least
  simp only [reached] at enough fewer
  refine ⟨pauses, cut, enough, fewer, fun i h => ?_⟩
  rw [← delays]
  exact cut.pause_eq i h

end RetrySchedule

end Leasehold

import Leasehold.Time.Span

/-!
# Pauses between attempts

A retry schedule gives the pauses of a caller that asks again: each is twice the
one before, and none is above the ceiling.  `new_next_le_ceiling` and
`rest_next_le_ceiling` say that this bound is kept, and `delay_succ` relates the
pauses of a schedule to those of the schedule that is left after the first.
-/

namespace Leasehold

/-- The next pause and the longest one. -/
structure RetrySchedule where
  next : Span
  ceiling : Span
  deriving DecidableEq, Inhabited

namespace RetrySchedule

/-- The shortest first pause. -/
def firstRetry : Span := Span.ofMillis 25

/-- The longest pause of the schedules made here. -/
def longestRetry : Span := Span.ofSeconds 1

/-- Pauses that double from `first` and stay at or below `ceiling`. -/
def new (first ceiling : Span) : RetrySchedule := ⟨first.shorter ceiling, ceiling⟩

/-- Pauses from 25 milliseconds to a second. -/
def standard : RetrySchedule := new firstRetry longestRetry

/-- About ten attempts to a lease, between the shortest and the longest pause. -/
def forLease (lease : Span) : RetrySchedule :=
  new firstRetry ((lease.divide 10).clamp firstRetry longestRetry)

/-- The schedule behind the next pause. -/
def rest (s : RetrySchedule) : RetrySchedule := ⟨s.next.double.shorter s.ceiling, s.ceiling⟩

/-- The pause of number `n`, counted from 0. -/
def delay : RetrySchedule → Nat → Span
  | s, 0 => s.next
  | s, n + 1 => s.rest.delay n

/-- The first `n` pauses. -/
def delays : RetrySchedule → Nat → List Span
  | _, 0 => []
  | s, n + 1 => s.next :: s.rest.delays n

@[simp] theorem ceiling_rest (s : RetrySchedule) : s.rest.ceiling = s.ceiling := rfl

@[simp] theorem delay_zero (s : RetrySchedule) : s.delay 0 = s.next := rfl

@[simp] theorem delay_succ (s : RetrySchedule) (n : Nat) : s.delay (n + 1) = s.rest.delay n := rfl

theorem rest_next_le_ceiling (s : RetrySchedule) : s.rest.next ≤ s.ceiling := by
  rw [Span.le_iff, rest, Span.nanos_shorter]
  exact Nat.min_le_right _ _

theorem new_next_le_ceiling (first ceiling : Span) : (new first ceiling).next ≤ ceiling := by
  rw [Span.le_iff, new, Span.nanos_shorter]
  exact Nat.min_le_right _ _

example : (standard.delays 7).map (·.nanos / 1000000) = [25, 50, 100, 200, 400, 800, 1000] := by
  decide +kernel
example : ((forLease (Span.ofSeconds 1)).delays 3).map (·.nanos / 1000000) = [25, 50, 100] := by
  decide +kernel

end RetrySchedule

end Leasehold

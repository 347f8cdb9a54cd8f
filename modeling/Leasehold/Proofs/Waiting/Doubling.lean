import Leasehold.Proofs.Time.Words
import Leasehold.Proofs.Waiting.Delays

/-!
# Delays that double in words

A schedule over words doubles its next pause with a carry, stays at the longest span where that
runs over, and cuts the result off at its ceiling.  What runs over is never seen, since no ceiling
is above the longest span: the delays are those of a schedule over spans
(`WordSchedule.span_delay`), which are the exact multiples of the first pause up to the ceiling
(`RetrySchedule.nanos_delay_new`).  When the ceiling is reached follows from that
(`RetrySchedule.delay_new_eq_iff`).
-/

namespace Leasehold

/-! ## When the ceiling is reached -/

/-- Every span is below the 94th power of two, in nanoseconds. -/
theorem Span.nanos_le_twoTo (s : Span) : s.nanos ≤ twoTo 94 := by
  have short := s.nanos_lt
  have power : 18446744073709551616000000000 ≤ twoTo 94 := by decide +kernel
  omega

namespace RetrySchedule

variable {first ceiling : Span} {m n : Nat}

theorem delay_new_mono (first ceiling : Span) (h : m ≤ n) :
    (new first ceiling).delay m ≤ (new first ceiling).delay n := by
  have power := Nat.mul_le_mul_left first.nanos (twoTo_mono h)
  rw [Span.le_iff, nanos_delay_new, nanos_delay_new]
  omega

theorem delay_new_le_ceiling (first ceiling : Span) (n : Nat) :
    (new first ceiling).delay n ≤ ceiling := by
  rw [Span.le_iff, nanos_delay_new]
  exact Nat.min_le_right _ _

/-- The pauses are as long as the ceiling from the power of two on that lifts the first above it. -/
theorem delay_new_eq_iff :
    (new first ceiling).delay n = ceiling ↔ ceiling.nanos ≤ first.nanos * twoTo n := by
  rw [Span.ext_iff, nanos_delay_new]
  omega

/-- No ceiling is more than 94 doublings away. -/
theorem delay_new_eq_ceiling (some_first : Span.zero < first) (ceiling : Span) (late : 94 ≤ n) :
    (new first ceiling).delay n = ceiling := by
  refine delay_new_eq_iff.mpr ?_
  calc ceiling.nanos
      ≤ twoTo 94 := ceiling.nanos_le_twoTo
    _ ≤ twoTo n := twoTo_mono late
    _ ≤ first.nanos * twoTo n := Nat.le_mul_of_pos_left _ some_first

/-- The longest pause for a lease. -/
def tenthOf (lease : Span) : Span := (lease.divide 10).clamp firstRetry longestRetry

theorem nanos_tenthOf (lease : Span) :
    (tenthOf lease).nanos = min (max 25000000 (lease.nanos / 10)) 1000000000 := by
  have least : firstRetry.nanos = 25000000 := rfl
  have most : longestRetry.nanos = 1000000000 := rfl
  unfold tenthOf Span.clamp
  simp only [Span.lt_iff, Span.nanos_divide, least, most]
  split
  · omega
  · split
    · omega
    · rw [Span.nanos_divide]
      omega

/-- The pauses for a lease are at their longest after six doublings. -/
theorem delay_forLease_eq (lease : Span) (late : 6 ≤ n) :
    (forLease lease).delay n = tenthOf lease := by
  refine delay_new_eq_iff.mpr ?_
  have high : (tenthOf lease).nanos ≤ 1000000000 := by
    rw [nanos_tenthOf]
    exact Nat.min_le_right _ _
  calc (tenthOf lease).nanos
      ≤ firstRetry.nanos * twoTo 6 := Nat.le_trans high (by decide +kernel)
    _ ≤ firstRetry.nanos * twoTo n := Nat.mul_le_mul_left _ (twoTo_mono late)

theorem firstRetry_le_delay (lease : Span) (n : Nat) : firstRetry ≤ (forLease lease).delay n := by
  have power := twoTo_pos n
  have least : firstRetry.nanos = 25000000 := rfl
  have low : 25000000 ≤ (tenthOf lease).nanos := by
    rw [nanos_tenthOf]
    omega
  rw [Span.le_iff, forLease, nanos_delay_new, least]
  show 25000000 ≤ min (25000000 * twoTo n) (tenthOf lease).nanos
  omega

end RetrySchedule

/-! ## The schedule in words -/

/-- The next pause and the longest one, in words. -/
structure WordSchedule where
  next : SpanWords
  ceiling : SpanWords

namespace WordSchedule

variable (s : WordSchedule)

/-- Pauses that double from `first` and stay at or below `ceiling`. -/
def new (first ceiling : SpanWords) : WordSchedule := ⟨first.shorter ceiling, ceiling⟩

/-- The words of 25 milliseconds. -/
def firstRetry : SpanWords := ⟨0, 25000000, by decide⟩

/-- The words of a second. -/
def longestRetry : SpanWords := ⟨1, 0, by decide⟩

/-- The schedule for a lease, with a tenth of it as the ceiling. -/
def forLease (lease : SpanWords) : WordSchedule :=
  new firstRetry (lease.tenth.clamp firstRetry longestRetry)

/-- The schedule behind the next pause. -/
def rest : WordSchedule := ⟨s.next.double.shorter s.ceiling, s.ceiling⟩

/-- The pause of number `n`, counted from 0. -/
def delay : WordSchedule → Nat → SpanWords
  | s, 0 => s.next
  | s, n + 1 => s.rest.delay n

/-- The schedule that the words mean. -/
def schedule : RetrySchedule := ⟨s.next.span, s.ceiling.span⟩

theorem schedule_new (first ceiling : SpanWords) :
    (new first ceiling).schedule = RetrySchedule.new first.span ceiling.span := by
  rw [schedule, new, SpanWords.span_shorter]
  rfl

theorem schedule_forLease (lease : SpanWords) :
    (forLease lease).schedule = RetrySchedule.forLease lease.span := by
  rw [forLease, schedule_new, SpanWords.span_clamp, SpanWords.span_tenth]
  rfl

theorem schedule_rest : s.rest.schedule = s.schedule.rest := by
  rw [schedule, rest, SpanWords.span_shorter, SpanWords.span_double]
  rfl

/-- Each pause in words means the pause over spans. -/
theorem span_delay (n : Nat) : (s.delay n).span = s.schedule.delay n := by
  induction n generalizing s with
  | zero => rfl
  | succ n ih => rw [delay, ih, schedule_rest, RetrySchedule.delay_succ]

end WordSchedule

/-- The pauses that two words compute are the exact powers of two times the first one, up to the
ceiling: they never shrink, are never above the ceiling and reach it after at most 94 doublings
unless the first pause is empty.  Those for a lease stay between 25 milliseconds and a second, at or
below its tenth where this is no shorter than the first pause, and are that tenth, moved into the
range, from the sixth doubling on. -/
theorem doubling_exact (first ceiling lease : Span) :
    let delay (n : Nat) := ((WordSchedule.new (.ofSpan first) (.ofSpan ceiling)).delay n).span
    let leased (n : Nat) := ((WordSchedule.forLease (.ofSpan lease)).delay n).span
    (∀ n, delay n = (RetrySchedule.new first ceiling).delay n ∧
      leased n = (RetrySchedule.forLease lease).delay n) ∧
    (∀ n, (delay n).nanos = min (first.nanos * twoTo n) ceiling.nanos) ∧
    (∀ m n, m ≤ n → delay m ≤ delay n) ∧
    (∀ n, delay n ≤ ceiling) ∧
    (∀ n, delay n = ceiling ↔ ceiling.nanos ≤ first.nanos * twoTo n) ∧
    (Span.zero < first → ∀ n, 94 ≤ n → delay n = ceiling) ∧
    (∀ n, 25000000 ≤ (leased n).nanos ∧ (leased n).nanos ≤ 1000000000 ∧
      (leased n).nanos ≤ max 25000000 (lease.nanos / 10)) ∧
    ∀ n, 6 ≤ n → (leased n).nanos = min (max 25000000 (lease.nanos / 10)) 1000000000 := by
  intro delay leased
  have same (n : Nat) : delay n = (RetrySchedule.new first ceiling).delay n := by
    show SpanWords.span _ = _
    rw [WordSchedule.span_delay, WordSchedule.schedule_new, SpanWords.span_ofSpan,
      SpanWords.span_ofSpan]
  have same' (n : Nat) : leased n = (RetrySchedule.forLease lease).delay n := by
    show SpanWords.span _ = _
    rw [WordSchedule.span_delay, WordSchedule.schedule_forLease, SpanWords.span_ofSpan]
  simp only [same, same']
  refine ⟨fun n => ⟨trivial, trivial⟩, RetrySchedule.nanos_delay_new first ceiling,
    fun m n => RetrySchedule.delay_new_mono first ceiling,
    RetrySchedule.delay_new_le_ceiling first ceiling, fun n => RetrySchedule.delay_new_eq_iff,
    fun some_first n => RetrySchedule.delay_new_eq_ceiling some_first ceiling, fun n => ?_,
    fun n late => ?_⟩
  · have low : 25000000 ≤ _ := RetrySchedule.firstRetry_le_delay lease n
    have high : ((RetrySchedule.forLease lease).delay n).nanos ≤
        (RetrySchedule.tenthOf lease).nanos :=
      RetrySchedule.delay_new_le_ceiling RetrySchedule.firstRetry _ n
    have tenth := RetrySchedule.nanos_tenthOf lease
    exact ⟨low, by omega, by omega⟩
  · rw [RetrySchedule.delay_forLease_eq lease late, RetrySchedule.nanos_tenthOf]

end Leasehold

import Leasehold.Time.Calendar

/-!
# Deadlines, cutoffs and the clock

Deadlines go forward with the readings that they are counted from, and cutoffs never
lie after them.  A reading within a lease is not past its deadline
(`le_deadlineAfter_of_within`): where the sum does not fit a signed word, the end of
the range is still beyond every reading.

Spans are cut to a signed word before they are added or taken off.  For readings from the epoch
on that is never seen: a deadline is the exact sum up to the end of the range (`deadlineAfter_eq`),
and a deadline before a cutoff is past by the exact grace (`lt_momentBefore_iff`).
-/

namespace Leasehold

theorem Span.millisClamped_nonneg (s : Span) : 0 ≤ s.millisClamped := by
  unfold Span.millisClamped
  simp only [Text.Digits.signedMax]
  omega

/-- A cutoff is never later than the reading. -/
theorem momentBefore_le {now : Int} (hnow : Text.Digits.signedMin ≤ now) (grace : Span) :
    momentBefore now grace ≤ now := by
  have hgrace := grace.millisClamped_nonneg
  unfold momentBefore
  omega

theorem deadlineAfter_mono {now later : Int} (h : now ≤ later) (lease : Span) :
    deadlineAfter now lease ≤ deadlineAfter later lease := by
  unfold deadlineAfter
  omega

theorem Span.millis_mono {a b : Span} (h : a ≤ b) : a.millis ≤ b.millis := Nat.div_le_div_right h

theorem deadlineAfter_mono_lease (now : Int) {lease longer : Span} (h : lease ≤ longer) :
    deadlineAfter now lease ≤ deadlineAfter now longer := by
  have whole := Span.millis_mono h
  unfold deadlineAfter Span.millisClamped
  omega

/-- A lease that is cut to a signed word before it is added shows in no sum. -/
theorem deadlineAfter_eq {now : Int} (hnow : 0 ≤ now) (lease : Span) :
    deadlineAfter now lease = min (now + lease.millis) Text.Digits.signedMax := by
  unfold deadlineAfter Span.millisClamped
  simp only [Text.Digits.signedMax]
  omega

/-- What is past a cutoff is past it by the whole grace, however long that is. -/
theorem lt_momentBefore_iff {now deadline : Int} (hdeadline : 0 ≤ deadline)
    (hnow : now ≤ Text.Digits.signedMax) (grace : Span) :
    deadline < momentBefore now grace ↔ deadline + grace.millis < now := by
  unfold momentBefore Span.millisClamped
  simp only [Text.Digits.signedMin, Text.Digits.signedMax] at *
  omega

/-- A reading within the whole milliseconds of a lease is not past its deadline. -/
theorem le_deadlineAfter_of_within {now t : Int} {lease : Span} (hnow : 0 ≤ now)
    (hlast : t ≤ Calendar.last) (h : t ≤ now + lease.millis) : t ≤ deadlineAfter now lease := by
  unfold deadlineAfter Span.millisClamped
  simp only [Calendar.last, Text.Digits.signedMax] at *
  omega

/-- A reading within fewer milliseconds than a lease has is before its deadline. -/
theorem lt_deadlineAfter_of_within {now t : Int} {lease : Span} (hnow : 0 ≤ now)
    (hlast : t ≤ Calendar.last) (h : t < now + lease.millis) : t < deadlineAfter now lease := by
  unfold deadlineAfter Span.millisClamped
  simp only [Calendar.last, Text.Digits.signedMax] at *
  omega

/-- No deadline is later than the whole milliseconds of its lease. -/
theorem deadlineAfter_le (now : Int) (lease : Span) :
    deadlineAfter now lease ≤ now + lease.millis := by
  unfold deadlineAfter Span.millisClamped
  omega

/-- Time only passes forward. -/
theorem Clock.millis_advance (c : Clock) (time : Span) : c.millis ≤ (c.advance time).millis := by
  unfold Clock.millis Clock.advance
  rw [Int.fdiv_eq_ediv_of_nonneg _ (by decide), Int.fdiv_eq_ediv_of_nonneg _ (by decide)]
  show c.epoch / 1000000 ≤ (c.epoch + time.nanos) / 1000000
  omega

end Leasehold

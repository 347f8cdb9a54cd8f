import Leasehold.Time.Span
import Leasehold.Text.Digits

/-!
# Clock readings

A `Clock` is read in two ways: `Clock.millis` gives whole milliseconds since
the epoch, in which deadlines are written down, and `Clock.uptime` gives
nanoseconds of a count that never goes back, by which waits are measured.
Deadlines are 64-bit numbers of milliseconds; sums that do not fit stay at the
end of the range.
-/

namespace Leasehold

/-- What the clocks of a machine show at one moment. -/
structure Clock where
  /-- Nanoseconds since the epoch. -/
  epoch : Int
  /-- Nanoseconds since some moment before the process began. -/
  uptime : Nat
  deriving DecidableEq, Inhabited

namespace Clock

/-- Whole milliseconds since the epoch, rounded down. -/
def millis (c : Clock) : Int := c.epoch.fdiv 1000000

/-- Both clocks after `s` has passed. -/
def advance (c : Clock) (s : Span) : Clock := ⟨c.epoch + s.nanos, c.uptime + s.nanos⟩

/-- The epoch clock put to another reading; the other clock does not move. -/
def setMillis (c : Clock) (t : Int) : Clock := { c with epoch := t * 1000000 }

end Clock

/-- Whole milliseconds of a span, as far as a signed word reaches. -/
def Span.millisClamped (s : Span) : Int := min (s.millis : Int) Text.Digits.signedMax

/-- The deadline of a lease that starts at `now`. -/
def deadlineAfter (now : Int) (lease : Span) : Int :=
  min (now + lease.millisClamped) Text.Digits.signedMax

/-- The moment `grace` before `now`. -/
def momentBefore (now : Int) (grace : Span) : Int :=
  max (now - grace.millisClamped) Text.Digits.signedMin

/-- The uptime at which a wait of `limit` from `start` ends.  Clocks count seconds in a
signed word; a wait whose end lies beyond has no end. -/
def waitEnd? (start : Nat) (limit : Span) : Option Nat :=
  let stop := start + limit.nanos
  if stop / 1000000000 ≤ 9223372036854775807 then some stop else none

theorem le_deadlineAfter {now : Int} (h : now ≤ Text.Digits.signedMax) (lease : Span) :
    now ≤ deadlineAfter now lease := by
  unfold deadlineAfter Span.millisClamped
  simp only [Text.Digits.signedMax] at *
  omega

example : deadlineAfter 1000 (Span.ofMillis 1) = 1001 := by decide +kernel
example : deadlineAfter 5 Span.longest = 9223372036854775807 := by decide +kernel
example : waitEnd? 1 Span.longest = none := by decide +kernel

end Leasehold

import Leasehold.Settings.Basic
import Leasehold.Proofs.Time.Deadline

/-!
# Whether settings keep their own leases

Settings without a flaw are meant to renew a lease before it ends and to keep its row for at
least as long as it lasted.  The checks look at what is set only, and what is used is worked out
from it: by a third and a least interval of a second, by a minute on top and a least grace of ten
minutes.

So it is the lease that decides.  `heartbeatInterval_lt_hold_iff` says that every lease but that
of one second is longer than the interval of its renewals, and `le_defaultGrace_iff` that a grace
covers its lease unless the minute on top goes beyond the longest span.  `RenewsInTime` is what
the first of the two means for the clock.
-/

namespace Leasehold

/-! ## Renewals before the deadline -/

/-- A renewal that is due one interval after a lease was granted comes before the deadline of the
lease, at whatever reading it was granted. -/
def RenewsInTime (interval lease : Span) : Prop :=
  ∀ granted due : Int, 0 ≤ granted → due ≤ granted + interval.millis → due ≤ Calendar.last →
    due < deadlineAfter granted lease

theorem renewsInTime_of_millis_lt {interval lease : Span} (h : interval.millis < lease.millis) :
    RenewsInTime interval lease := by
  intro granted due hgranted hdue hlast
  exact lt_deadlineAfter_of_within hgranted hlast (by omega)

/-- What is due when the lease ends is due too late. -/
theorem not_renewsInTime_of_millis_eq {interval lease : Span} (h : interval.millis = lease.millis)
    (hlast : (lease.millis : Int) ≤ Calendar.last) : ¬RenewsInTime interval lease := by
  intro inTime
  have early := inTime 0 lease.millis (Int.le_refl 0) (by omega) hlast
  have late := deadlineAfter_le 0 lease
  omega

/-! ## The grace of a lease -/

/-- The grace is never below ten minutes. -/
theorem tenMinutes_le_defaultGrace (lease : Span) : Span.ofSeconds 600 ≤ defaultGrace lease := by
  unfold defaultGrace
  cases lease.add? (Span.ofSeconds 60) with
  | none => exact Nat.le_refl (Span.ofSeconds 600).nanos
  | some sum =>
    rw [Span.le_iff, Span.nanos_longer]
    exact Nat.le_max_right _ _

/-- The grace covers its lease exactly if a minute more is still a span. -/
theorem le_defaultGrace_iff (lease : Span) :
    lease ≤ defaultGrace lease ↔ lease.nanos + 60000000000 < Span.limit := by
  have minute : (Span.ofSeconds 60).nanos = 60000000000 := rfl
  unfold defaultGrace
  by_cases fits : lease.nanos + 60000000000 < Span.limit
  · obtain ⟨sum, added, nanos⟩ := Span.add?_of_lt (a := lease) (by rwa [minute])
    simp only [added, fits, iff_true, Span.le_iff, Span.nanos_longer]
    omega
  · have tenMinutes : (Span.ofSeconds 600).nanos = 600000000000 := rfl
    have noSum : lease.add? (Span.ofSeconds 60) = none := Span.add?_of_le (by omega)
    simp only [noSum, fits, iff_false, Span.le_iff]
    unfold Span.limit at fits
    omega

namespace LockSettings

variable {s : LockSettings}

/-! ## What the checks let through -/

/-- What settings without a flaw have in common. -/
theorem flaw?_eq_none_iff :
    s.flaw? = none ↔
      s.defaultHold ≠ 0 ∧ (∀ i ∈ s.heartbeat, i ≠ 0 ∧ i < s.defaultHold) ∧
        ∀ h ∈ s.host, h.length ≤ 128 := by
  have host : (if s.host.any (128 < ·.length) then some SettingsFlaw.longHost else none) = none ↔
      ∀ h ∈ s.host, h.length ≤ 128 := by
    cases s.host <;> simp
  unfold flaw?
  by_cases noHold : s.defaultHold = 0
  · simp [noHold]
  cases s.heartbeat with
  | none => simpa [noHold] using host
  | some i =>
    by_cases noHeartbeat : i = 0
    · simp [noHold, noHeartbeat]
    by_cases slow : s.defaultHold ≤ i
    · simp [noHold, noHeartbeat, slow, UInt64.not_lt.mpr slow]
    · simpa [noHold, noHeartbeat, slow, UInt64.not_le.mp slow] using host

theorem validate_eq_ok_iff : s.validate = .ok () ↔ s.flaw? = none := by
  unfold validate
  cases s.flaw? <;> simp

/-! ## Interval and lease -/

/-- The seconds between renewals, as they are worked out. -/
def secondsBetween (s : LockSettings) : Nat := max (s.heartbeat.getD (s.defaultHold / 3)).toNat 1

theorem nanos_heartbeatInterval (s : LockSettings) :
    s.heartbeatInterval.nanos = s.secondsBetween * 1000000000 := by
  have second : (Span.ofSeconds 1).nanos = 1000000000 := rfl
  unfold heartbeatInterval secondsBetween
  rw [Span.nanos_longer, Span.nanos_ofSeconds]
  omega

theorem nanos_hold (s : LockSettings) : s.hold.nanos = s.defaultHold.toNat * 1000000000 := rfl

/-- What is set is shorter than the lease, and so is a third of it.  Only the least interval of a
second may last as long. -/
theorem secondsBetween_eq_or_lt (accepted : s.flaw? = none) :
    s.defaultHold = 1 ∧ s.secondsBetween = s.defaultHold.toNat ∨
      s.defaultHold ≠ 1 ∧ s.secondsBetween < s.defaultHold.toNat := by
  obtain ⟨hold, interval, -⟩ := flaw?_eq_none_iff.mp accepted
  have one : s.defaultHold = 1 ↔ s.defaultHold.toNat = 1 := UInt64.toNat_inj.symm
  have pos : s.defaultHold.toNat ≠ 0 := fun zero => hold (UInt64.toNat_inj.mp zero)
  rw [ne_eq, one]
  unfold secondsBetween
  cases heartbeat : s.heartbeat with
  | none =>
    have third : (s.defaultHold / 3).toNat = s.defaultHold.toNat / 3 := UInt64.toNat_div _ _
    rw [Option.getD_none, third]
    omega
  | some i =>
    obtain ⟨-, shorter⟩ := interval i heartbeat
    rw [UInt64.lt_iff_toNat_lt] at shorter
    rw [Option.getD_some]
    omega

theorem heartbeatInterval_lt_hold_iff (accepted : s.flaw? = none) :
    s.heartbeatInterval < s.hold ↔ s.defaultHold ≠ 1 := by
  rw [Span.lt_iff, nanos_heartbeatInterval, nanos_hold]
  rcases secondsBetween_eq_or_lt accepted with ⟨brief, same⟩ | ⟨long, shorter⟩
  · simp [brief, same]
  · simp only [long, ne_eq, not_false_eq_true, iff_true]
    omega

theorem renewsInTime_iff (accepted : s.flaw? = none) :
    RenewsInTime s.heartbeatInterval s.hold ↔ s.defaultHold ≠ 1 := by
  have interval : s.heartbeatInterval.millis = s.secondsBetween * 1000 := by
    rw [Span.millis, nanos_heartbeatInterval]
    omega
  have lease : s.hold.millis = s.defaultHold.toNat * 1000 := by
    rw [Span.millis, nanos_hold]
    omega
  rcases secondsBetween_eq_or_lt accepted with ⟨brief, same⟩ | ⟨long, shorter⟩
  · have late : ¬RenewsInTime s.heartbeatInterval s.hold := by
      refine not_renewsInTime_of_millis_eq (by rw [interval, lease, same]) ?_
      rw [lease, brief]
      decide
    simp [brief, late]
  · simp only [long, ne_eq, not_false_eq_true, iff_true]
    exact renewsInTime_of_millis_lt (by omega)

/-- Settings without a flaw renew their leases before these end, unless a lease is one second, and
their graces, where none is set, cover the leases, unless a minute more is no span.  No interval
is below a second, and no such grace below ten minutes. -/
theorem validated_leases (s : LockSettings) (accepted : s.validate = .ok ()) :
    Span.ofSeconds 1 ≤ s.heartbeatInterval ∧
      (s.heartbeatInterval < s.hold ↔ s.defaultHold ≠ 1) ∧
      (RenewsInTime s.heartbeatInterval s.hold ↔ s.defaultHold ≠ 1) ∧
      (s.purgeGrace = none →
        Span.ofSeconds 600 ≤ s.grace ∧
          (s.hold ≤ s.grace ↔ s.defaultHold.toNat + 60 < Text.Digits.unsignedBound)) := by
  have flawless := validate_eq_ok_iff.mp accepted
  refine ⟨?_, heartbeatInterval_lt_hold_iff flawless, renewsInTime_iff flawless, fun unset => ?_⟩
  · have second : (Span.ofSeconds 1).nanos = 1000000000 := rfl
    have least : 1 ≤ s.secondsBetween := Nat.le_max_right _ _
    rw [Span.le_iff, nanos_heartbeatInterval]
    omega
  · have grace : s.grace = defaultGrace s.hold := by rw [LockSettings.grace, unset]
    rw [grace]
    refine ⟨tenMinutes_le_defaultGrace s.hold, ?_⟩
    rw [le_defaultGrace_iff, nanos_hold]
    unfold Span.limit Text.Digits.unsignedBound
    omega

/-- Leases of so many seconds, and nothing else set. -/
def withHold (seconds : UInt64) : LockSettings := { standard with defaultHold := seconds }

/-- The shortest lease that is renewed in time. -/
theorem validated_leases_shortest :
    (withHold 2).validate = .ok () ∧ (withHold 2).heartbeatInterval < (withHold 2).hold ∧
      RenewsInTime (withHold 2).heartbeatInterval (withHold 2).hold ∧
      (withHold 2).hold ≤ (withHold 2).grace := by
  obtain ⟨-, shorter, inTime, grace⟩ := validated_leases (withHold 2) rfl
  exact ⟨rfl, shorter.mpr (by decide), inTime.mpr (by decide), (grace rfl).2.mpr (by decide)⟩

/-- A lease of one second ends when its renewal is due, and the longest lease outlasts the grace
of its row. -/
theorem leases_not_kept :
    ((withHold 1).validate = .ok () ∧ ¬(withHold 1).heartbeatInterval < (withHold 1).hold) ∧
      (withHold 18446744073709551615).validate = .ok () ∧
        (withHold 18446744073709551615).purgeGrace = none ∧
        ¬(withHold 18446744073709551615).hold ≤ (withHold 18446744073709551615).grace :=
  ⟨⟨rfl, by decide +kernel⟩, rfl, rfl, by decide +kernel⟩

end LockSettings

end Leasehold

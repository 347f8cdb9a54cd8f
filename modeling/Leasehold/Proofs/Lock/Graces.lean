import Leasehold.Proofs.Lock.Listing

/-!
# How long a row outlasts its deadline

A row that nobody comes back for is swept away when its grace is over.  Between the reading at
which its deadline was written and the one at which it is swept stand two spans, each cut to whole
milliseconds and to a signed word, and two sums that stay at opposite ends of the range.  The row
is removed exactly when the sum of all three is past in unbounded numbers (`entryOf?_sweep`).

A deadline is written by three statements, by an insertion, a takeover and a renewal
(`RowStatement.deadline?`), and all of them leave it in the row (`RowStatement.entryOf?_written`).
-/

namespace Leasehold

namespace RowStatement

variable {s : RowStatement} {t : Table} {deadline : Int}

/-- The deadline that the statement writes. -/
def deadline? : RowStatement → Option Int
  | insert row => some row.deadline
  | steal claim _ => some claim.deadline
  | extend _ _ deadline => some deadline
  | delete _ _ => none

/-- A statement that was granted leaves the deadline that it writes. -/
theorem entryOf?_written (single : t.Single s.resource) (granted : (s.apply t).1 = true)
    (writes : s.deadline? = some deadline) :
    ∃ e, (s.apply t).2.entryOf? s.resource = some e ∧ e.deadline = .integer deadline := by
  cases s with
  | insert row =>
    obtain rfl := Option.some.inj writes
    have placed := Table.entryOf?_insertIfAbsent (t := t) row row.resource
    rw [if_pos ⟨granted, rfl⟩] at placed
    exact ⟨_, placed, rfl⟩
  | steal claim now =>
    obtain rfl := Option.some.inj writes
    have taken := single.entryOf?_stealIfStale claim now
    rw [if_pos ⟨granted, rfl⟩] at taken
    exact ⟨_, taken, rfl⟩
  | extend resource owner moved =>
    obtain rfl := Option.some.inj writes
    have single : t.Single resource := single
    have renewed := single.entryOf?_extend resource owner moved
    have own := single.extend_fst.symm.trans granted
    obtain ⟨e, found, -⟩ := (Option.any_eq_true _ _).mp own
    rw [if_pos ⟨granted, rfl⟩, found] at renewed
    exact ⟨_, renewed, rfl⟩
  | delete => cases writes

end RowStatement

namespace Table

variable {t : Table} {resource : String} {e : Entry} {deadline now : Int}

/-- A sweep removes a row exactly if the grace after its deadline is over, and changes none that
it keeps. -/
theorem entryOf?_sweep (single : t.Single resource) (found : t.entryOf? resource = some e)
    (stored : e.deadline = .integer deadline) (hdeadline : 0 ≤ deadline)
    (hnow : now ≤ Text.Digits.signedMax) (grace : Span) :
    (t.purgeBefore (momentBefore now grace)).2.entryOf? resource =
      if deadline + grace.millis < now then none else some e := by
  rw [single.entryOf?_purgeBefore, found, Option.filter_some, stored, Cell.below_integer]
  by_cases past : deadline + grace.millis < now
  · have swept := (lt_momentBefore_iff hdeadline hnow grace).mpr past
    simp [past, swept]
  · have spared := mt (lt_momentBefore_iff hdeadline hnow grace).mp past
    simp [past, spared]

end Table

/-- The deadline of a lease is the exact sum up to the end of the range, never before its reading,
and later for later readings and longer leases.  A sweep has its cutoff at its own reading or
before it.  It removes a row that is still as the deadline was written into it exactly if the whole
grace after that deadline is over, in unbounded numbers, and else leaves it as it is. -/
theorem sweep_exact {began now : Int} (hbegan : 0 ≤ began ∧ began ≤ Text.Digits.signedMax)
    (hnow : 0 ≤ now ∧ now ≤ Text.Digits.signedMax) (lease grace : Span) :
    deadlineAfter began lease = min (began + lease.millis) Text.Digits.signedMax ∧
    began ≤ deadlineAfter began lease ∧
    (∀ later longer, began ≤ later → lease ≤ longer →
      deadlineAfter began lease ≤ deadlineAfter later longer) ∧
    ∀ (s : RowStatement) (before t : Table), before.Single s.resource → t.Single s.resource →
      s.deadline? = some (deadlineAfter began lease) → (s.apply before).1 = true →
      t.entryOf? s.resource = (s.apply before).2.entryOf? s.resource →
      ∃ report swept, Database.sweep now grace ⟨some t⟩ = (.ok report, ⟨some swept⟩) ∧
        report.cutoff ≤ now ∧
        (swept.entryOf? s.resource = none ↔
          min (began + lease.millis) Text.Digits.signedMax + grace.millis < now) ∧
        (swept.entryOf? s.resource ≠ none →
          swept.entryOf? s.resource = t.entryOf? s.resource) := by
  have exact := deadlineAfter_eq hbegan.1 lease
  have forward := le_deadlineAfter hbegan.2 lease
  refine ⟨exact, forward, fun later longer hlater hlonger => ?_, ?_⟩
  · calc deadlineAfter began lease
        ≤ deadlineAfter later lease := deadlineAfter_mono hlater lease
      _ ≤ deadlineAfter later longer := deadlineAfter_mono_lease later hlonger
  · intro s before t single single' writes granted untouched
    obtain ⟨e, left, stored⟩ := s.entryOf?_written single granted writes
    have found := untouched.trans left
    have after := Table.entryOf?_sweep single' found stored (by omega) hnow.2 grace
    have early : Text.Digits.signedMin ≤ now := by
      unfold Text.Digits.signedMin
      omega
    refine ⟨_, _, rfl, momentBefore_le early grace, ?_, ?_⟩
    · rw [after, ← exact]
      split <;> simp_all
    · rw [after, found]
      split <;> simp_all

/-- What a sweep leaves of the row of a resource. -/
def leftOf (resource : String) (now : Int) (grace : Span) (t : Table) : Option Entry :=
  (Database.sweep now grace ⟨some t⟩).2.table.bind (·.entryOf? resource)

/-- A lease of nearly two milliseconds, renewed at the epoch, is swept when nearly three more are
over, each cut to whole ones; the longest lease outlasts every reading. -/
theorem sweep_exact_edges :
    let old : Table := ⟨[⟨"r", "h", "o", 0⟩].map Entry.ofRow, false⟩
    let brief : RowStatement := .extend "r" "o" (deadlineAfter 0 (Span.saturate 1999999))
    let long : RowStatement :=
      .insert ⟨"r", "h", "o", deadlineAfter 9223372036854775806 Span.longest⟩
    leftOf "r" 3 (Span.saturate 2999999) (brief.apply old).2 ≠ none ∧
      leftOf "r" 4 (Span.saturate 2999999) (brief.apply old).2 = none ∧
      leftOf "r" 9223372036854775807 Span.zero (long.apply Table.empty).2 ≠ none := by
  intro old brief long
  have single : old.Single "r" := by
    show old.entries.countP (Table.isOf "r") ≤ 1
    decide +kernel
  have nobody : Table.empty.Single "r" := Table.wellFormed_empty.single "r"
  have renewed (now : Int) (hnow : 0 ≤ now ∧ now ≤ Text.Digits.signedMax) :=
    (sweep_exact ⟨Int.le_refl 0, by decide⟩ hnow (Span.saturate 1999999)
      (Span.saturate 2999999)).2.2.2 brief old (brief.apply old).2 single
      (brief.kept (Table.kept_single "r") single) rfl (by decide +kernel) rfl
  have late : 0 ≤ (9223372036854775806 : Int) ∧ 9223372036854775806 ≤ Text.Digits.signedMax := by
    decide
  have last : 0 ≤ (9223372036854775807 : Int) ∧ 9223372036854775807 ≤ Text.Digits.signedMax := by
    decide
  have taken := (sweep_exact late last Span.longest Span.zero).2.2.2 long Table.empty
    (long.apply Table.empty).2 nobody (long.kept (Table.kept_single "r") nobody) rfl
    (by decide +kernel) rfl
  refine ⟨?_, ?_, ?_⟩
  · obtain ⟨report, swept, performs, -, gone, -⟩ := renewed 3 (by decide)
    rw [leftOf, performs]
    exact mt gone.mp (by decide +kernel)
  · obtain ⟨report, swept, performs, -, gone, -⟩ := renewed 4 (by decide)
    rw [leftOf, performs]
    exact gone.mpr (by decide +kernel)
  · obtain ⟨report, swept, performs, -, gone, -⟩ := taken
    rw [leftOf, performs]
    exact mt gone.mp (by decide +kernel)

end Leasehold

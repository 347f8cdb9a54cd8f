import Leasehold.Time.Span

/-!
# Spans in two words

A span fits a word of seconds and a word of nanoseconds below a second.  Doubling such a pair
carries a second from the one word into the other and can run over twice, when the seconds are
doubled and when the carry is added; a tenth of it hands the seconds that are left over down to
the nanoseconds.  `SpanWords.span` is the span that two words mean, and each operation on words
means the one on spans: `span_double`, `span_tenth`, `span_shorter`, `span_clamp`.
-/

namespace Leasehold

/-- A span as a word of seconds and a word of nanoseconds. -/
@[ext] structure SpanWords where
  seconds : UInt64
  nanos : UInt32
  nanos_lt : nanos.toNat < 1000000000

namespace SpanWords

variable (a b w : SpanWords)

/-- The span that the words mean. -/
def span : Span :=
  ⟨w.seconds.toNat * 1000000000 + w.nanos.toNat, by
    have seconds := w.seconds.toNat_lt
    have nanos := w.nanos_lt
    omega⟩

@[simp] theorem nanos_span : w.span.nanos = w.seconds.toNat * 1000000000 + w.nanos.toNat := rfl

theorem toNat_subsecNanos (s : Span) :
    s.subsecNanos.toUInt32.toNat = s.nanos % 1000000000 := by
  show s.nanos % 1000000000 % 4294967296 = s.nanos % 1000000000
  omega

/-- The words of a span. -/
def ofSpan (s : Span) : SpanWords :=
  ⟨s.seconds64, s.subsecNanos.toUInt32, by
    rw [toNat_subsecNanos]
    exact Nat.mod_lt _ (by decide)⟩

theorem span_ofSpan (s : Span) : (ofSpan s).span = s := by
  have word : s.seconds64.toNat = s.seconds := Nat.mod_eq_of_lt s.seconds_lt
  rw [Span.ext_iff, nanos_span]
  show s.seconds64.toNat * 1000000000 + s.subsecNanos.toUInt32.toNat = s.nanos
  rw [word, toNat_subsecNanos]
  exact Nat.div_add_mod' _ _

/-! ## Sums and carries -/

/-- The sum of two words, unless it runs over. -/
def sum? (m n : UInt64) : Option UInt64 := if m + n < m then none else some (m + n)

theorem sum?_of_lt {m n : UInt64} (fits : m.toNat + n.toNat < 18446744073709551616) :
    ∃ k, sum? m n = some k ∧ k.toNat = m.toNat + n.toNat := by
  have exact : (m + n).toNat = m.toNat + n.toNat := by
    rw [UInt64.toNat_add]
    omega
  refine ⟨m + n, if_neg ?_, exact⟩
  rw [UInt64.lt_iff_toNat_lt, exact]
  omega

theorem sum?_of_le {m n : UInt64} (beyond : 18446744073709551616 ≤ m.toNat + n.toNat) :
    sum? m n = none := by
  have hm := m.toNat_lt
  have hn := n.toNat_lt
  refine if_pos ?_
  rw [UInt64.lt_iff_toNat_lt, UInt64.toNat_add]
  omega

/-! ## Doubling -/

/-- The words of the longest span. -/
def longest : SpanWords := ⟨18446744073709551615, 999999999, by decide⟩

theorem span_longest : longest.span = Span.longest := by decide

/-- Twice the nanoseconds, a second of which may be carried. -/
def doubledNanos : UInt64 := w.nanos.toUInt64 + w.nanos.toUInt64

theorem toNat_doubledNanos : w.doubledNanos.toNat = 2 * w.nanos.toNat := by
  have small := w.nanos_lt
  rw [doubledNanos, UInt64.toNat_add, UInt32.toNat_toUInt64]
  omega

theorem toNat_rest : (w.doubledNanos % 1000000000).toUInt32.toNat =
    2 * w.nanos.toNat % 1000000000 := by
  rw [UInt64.toNat_toUInt32, UInt64.toNat_mod, toNat_doubledNanos]
  show 2 * w.nanos.toNat % 1000000000 % 4294967296 = _
  omega

theorem toNat_carry : (w.doubledNanos / 1000000000).toNat = 2 * w.nanos.toNat / 1000000000 := by
  rw [UInt64.toNat_div, toNat_doubledNanos]
  rfl

/-- Twice the span, or the longest one where the seconds run over. -/
def double : SpanWords :=
  match (sum? w.seconds w.seconds).bind (sum? · (w.doubledNanos / 1000000000)) with
  | some seconds => ⟨seconds, (w.doubledNanos % 1000000000).toUInt32, by
      rw [toNat_rest]
      exact Nat.mod_lt _ (by decide)⟩
  | none => longest

/-- The words run over where twice the span is no span. -/
theorem span_double : w.double.span = w.span.double := by
  have small := w.nanos_lt
  have carry := w.toNat_carry
  rw [Span.ext_iff, Span.nanos_double, Span.nanos_longest, nanos_span w]
  unfold double
  by_cases beyond : 18446744073709551616 ≤ w.seconds.toNat + w.seconds.toNat
  · rw [sum?_of_le beyond, Option.bind_none]
    dsimp only
    rw [span_longest, Span.nanos_longest]
    omega
  obtain ⟨twice, added, exact⟩ := sum?_of_lt (Nat.lt_of_not_le beyond)
  rw [added, Option.bind_some]
  by_cases carried : 18446744073709551616 ≤
      twice.toNat + (w.doubledNanos / 1000000000).toNat
  · rw [sum?_of_le carried]
    dsimp only
    rw [span_longest, Span.nanos_longest]
    omega
  · obtain ⟨seconds, added', exact'⟩ := sum?_of_lt (Nat.lt_of_not_le carried)
    rw [added']
    show seconds.toNat * 1000000000 + (w.doubledNanos % 1000000000).toUInt32.toNat = _
    rw [toNat_rest]
    omega

/-! ## A tenth -/

/-- The nanoseconds of a tenth, with those of the seconds that are left over. -/
def tenthNanos : UInt64 :=
  (w.nanos / 10).toUInt64 +
    (w.seconds % 10 * 1000000000 + (w.nanos % 10).toUInt64) / 10

theorem toNat_tenthNanos :
    w.tenthNanos.toNat = (w.seconds.toNat % 10 * 1000000000 + w.nanos.toNat) / 10 := by
  have small := w.nanos_lt
  have left : (w.seconds % 10 * 1000000000).toNat = w.seconds.toNat % 10 * 1000000000 := by
    rw [UInt64.toNat_mul, UInt64.toNat_mod]
    show w.seconds.toNat % 10 * 1000000000 % 18446744073709551616 = _
    omega
  have last : (w.nanos % 10).toUInt64.toNat = w.nanos.toNat % 10 := by
    rw [UInt32.toNat_toUInt64, UInt32.toNat_mod]
    rfl
  have whole : (w.nanos / 10).toUInt64.toNat = w.nanos.toNat / 10 := by
    rw [UInt32.toNat_toUInt64, UInt32.toNat_div]
    rfl
  have sum : (w.seconds % 10 * 1000000000 + (w.nanos % 10).toUInt64).toNat =
      w.seconds.toNat % 10 * 1000000000 + w.nanos.toNat % 10 := by
    rw [UInt64.toNat_add, left, last]
    omega
  rw [tenthNanos, UInt64.toNat_add, UInt64.toNat_div, sum, whole]
  show (w.nanos.toNat / 10 + (w.seconds.toNat % 10 * 1000000000 + w.nanos.toNat % 10) / 10) %
    18446744073709551616 = _
  omega

theorem toNat_tenthNanos_word : w.tenthNanos.toUInt32.toNat =
    (w.seconds.toNat % 10 * 1000000000 + w.nanos.toNat) / 10 := by
  have small := w.nanos_lt
  rw [UInt64.toNat_toUInt32, toNat_tenthNanos]
  omega

/-- A tenth of the span, rounded down to nanoseconds. -/
def tenth : SpanWords :=
  ⟨w.seconds / 10, w.tenthNanos.toUInt32, by
    have small := w.nanos_lt
    rw [toNat_tenthNanos_word]
    omega⟩

theorem span_tenth : w.tenth.span = w.span.divide 10 := by
  have seconds : w.tenth.seconds.toNat = w.seconds.toNat / 10 := UInt64.toNat_div _ _
  have nanos : w.tenth.nanos.toNat = _ := w.toNat_tenthNanos_word
  rw [Span.ext_iff, Span.nanos_divide, nanos_span, nanos_span, seconds, nanos]
  omega

/-! ## Order -/

/-- Seconds are compared first, and nanoseconds where these are equal. -/
def before : Bool := a.seconds < b.seconds || a.seconds == b.seconds && a.nanos < b.nanos

theorem before_iff : a.before b = true ↔ a.span < b.span := by
  have small := a.nanos_lt
  have small' := b.nanos_lt
  rw [Span.lt_iff, nanos_span, nanos_span]
  simp only [before, Bool.or_eq_true, Bool.and_eq_true, decide_eq_true_eq, beq_iff_eq,
    UInt64.lt_iff_toNat_lt, UInt32.lt_iff_toNat_lt, ← UInt64.toNat_inj]
  omega

/-- The shorter of two spans, the first one of two equal ones. -/
def shorter : SpanWords := if b.before a then b else a

theorem span_shorter : (a.shorter b).span = a.span.shorter b.span := by
  have order : a.span ≤ b.span ↔ ¬b.before a = true := by
    rw [before_iff]
    exact Nat.not_lt.symm
  rw [shorter, Span.shorter]
  by_cases before : b.before a = true
  · rw [if_pos before, if_neg fun low => order.mp low before]
  · rw [if_neg before, if_pos (order.mpr before)]

/-- The span moved into the range from `low` to `high`. -/
def clamp (low high : SpanWords) : SpanWords :=
  if w.before low then low else if high.before w then high else w

theorem span_clamp (low high : SpanWords) :
    (w.clamp low high).span = w.span.clamp low.span high.span := by
  simp only [clamp, Span.clamp, before_iff]
  split
  · rfl
  · split <;> rfl

end SpanWords

end Leasehold

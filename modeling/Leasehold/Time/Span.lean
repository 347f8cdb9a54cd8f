/-!
# Spans of time

A length of time in whole nanoseconds, at most `Span.longest`: as many seconds as
64 bits hold, and all but one nanosecond of another.  Arithmetic either
saturates at the ends (`saturate`, `sub`, `double`) or is refused (`add?`).
`nanos_saturate` and its companions say what each operation does to the number
of nanoseconds; everything else about spans follows from them.
-/

namespace Leasehold

/-- A length of time, in nanoseconds. -/
@[ext] structure Span where
  nanos : Nat
  nanos_lt : nanos < 18446744073709551616000000000
  deriving DecidableEq

namespace Span

/-- The first number of nanoseconds that is no span. -/
def limit : Nat := 18446744073709551616000000000

instance : LE Span := ⟨fun a b => a.nanos ≤ b.nanos⟩
instance : LT Span := ⟨fun a b => a.nanos < b.nanos⟩
instance (a b : Span) : Decidable (a ≤ b) := inferInstanceAs (Decidable (a.nanos ≤ b.nanos))
instance (a b : Span) : Decidable (a < b) := inferInstanceAs (Decidable (a.nanos < b.nanos))

/-- No time at all. -/
def zero : Span := ⟨0, by decide⟩

/-- The longest span. -/
def longest : Span := ⟨18446744073709551615999999999, by decide⟩

instance : Inhabited Span := ⟨zero⟩

/-- The span of that many nanoseconds, or the longest one. -/
def saturate (n : Nat) : Span :=
  if h : n < 18446744073709551616000000000 then ⟨n, h⟩ else longest

/-- A whole number of seconds. -/
def ofSeconds (n : UInt64) : Span :=
  ⟨n.toNat * 1000000000, by have := n.toNat_lt; omega⟩

/-- A whole number of milliseconds. -/
def ofMillis (n : UInt64) : Span :=
  ⟨n.toNat * 1000000, by have := n.toNat_lt; omega⟩

/-- The whole seconds of a span. -/
def seconds (s : Span) : Nat := s.nanos / 1000000000

/-- The whole milliseconds of a span. -/
def millis (s : Span) : Nat := s.nanos / 1000000

/-- The nanoseconds beyond the whole seconds. -/
def subsecNanos (s : Span) : Nat := s.nanos % 1000000000

/-- The whole milliseconds beyond the whole seconds. -/
def subsecMillis (s : Span) : Nat := s.subsecNanos / 1000000

/-- The whole seconds of a span as a word. -/
def seconds64 (s : Span) : UInt64 := s.seconds.toUInt64

/-- The sum, if it is a span. -/
def add? (a b : Span) : Option Span :=
  if h : a.nanos < limit - b.nanos then
    some ⟨a.nanos + b.nanos, by unfold limit at h; omega⟩
  else none

/-- The difference, or no time if the second span is longer. -/
def sub (a b : Span) : Span := ⟨a.nanos - b.nanos, by have := a.nanos_lt; omega⟩

/-- Twice the span, or the longest one. -/
def double (s : Span) : Span := saturate (2 * s.nanos)

/-- A whole fraction of the span, rounded down to nanoseconds. -/
def divide (s : Span) (n : Nat) : Span :=
  ⟨s.nanos / n, Nat.lt_of_le_of_lt (Nat.div_le_self _ _) s.nanos_lt⟩

/-- The shorter of two spans. -/
def shorter (a b : Span) : Span := if a ≤ b then a else b

/-- The longer of two spans. -/
def longer (a b : Span) : Span := if a ≤ b then b else a

/-- The span moved into the range from `low` to `high`. -/
def clamp (s low high : Span) : Span := if s < low then low else if high < s then high else s

/-! ## Nanoseconds of each operation -/

theorem le_iff {a b : Span} : a ≤ b ↔ a.nanos ≤ b.nanos := Iff.rfl

theorem lt_iff {a b : Span} : a < b ↔ a.nanos < b.nanos := Iff.rfl

@[simp] theorem nanos_zero : zero.nanos = 0 := rfl

@[simp] theorem nanos_longest : longest.nanos = 18446744073709551615999999999 := rfl

theorem nanos_saturate (n : Nat) : (saturate n).nanos = min n longest.nanos := by
  unfold saturate
  split
  · simp only [nanos_longest]; omega
  · simp only [nanos_longest]; omega

@[simp] theorem nanos_ofSeconds (n : UInt64) : (ofSeconds n).nanos = n.toNat * 1000000000 := rfl

@[simp] theorem nanos_ofMillis (n : UInt64) : (ofMillis n).nanos = n.toNat * 1000000 := rfl

@[simp] theorem nanos_sub (a b : Span) : (a.sub b).nanos = a.nanos - b.nanos := rfl

@[simp] theorem nanos_divide (s : Span) (n : Nat) : (s.divide n).nanos = s.nanos / n := rfl

/-- The sum of two spans, as far as there are spans. -/
theorem add?_of_lt {a b : Span} (h : a.nanos + b.nanos < limit) :
    ∃ sum, a.add? b = some sum ∧ sum.nanos = a.nanos + b.nanos :=
  ⟨⟨a.nanos + b.nanos, h⟩, dif_pos (by omega), rfl⟩

theorem add?_of_le {a b : Span} (h : limit ≤ a.nanos + b.nanos) : a.add? b = none :=
  dif_neg (by omega)

theorem nanos_double (s : Span) : s.double.nanos = min (2 * s.nanos) longest.nanos :=
  nanos_saturate _

theorem nanos_shorter (a b : Span) : (a.shorter b).nanos = min a.nanos b.nanos := by
  unfold shorter
  split <;> rename_i h <;> rw [le_iff] at h <;> omega

theorem nanos_longer (a b : Span) : (a.longer b).nanos = max a.nanos b.nanos := by
  unfold longer
  split <;> rename_i h <;> rw [le_iff] at h <;> omega

@[simp] theorem seconds_ofSeconds (n : UInt64) : (ofSeconds n).seconds = n.toNat := by
  simp [seconds]

theorem seconds_lt (s : Span) : s.seconds < 18446744073709551616 := by
  have := s.nanos_lt
  unfold seconds; omega

example : (ofSeconds 3).double = ofSeconds 6 := by decide +kernel
example : longest.double = longest := by decide +kernel
example : (ofSeconds 1).divide 3 = saturate 333333333 := by decide +kernel
example : (ofMillis 1500).seconds = 1 ∧ (ofMillis 1500).subsecMillis = 500 := by decide +kernel

end Span

end Leasehold

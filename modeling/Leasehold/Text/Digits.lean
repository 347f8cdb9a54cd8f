/-!
# Whole numbers in decimal

Reading of whole numbers as command lines, environment variables and settings
write them: ASCII digits behind an optional sign, without blanks, and refused
when the value does not fit its word.  `Digits.value?_eq_some_iff` says which
texts are read, and as what.
-/

namespace Leasehold.Text

namespace Digits

/-- The values of 64 unsigned bits lie below this bound. -/
def unsignedBound : Nat := 18446744073709551616

/-- The largest value of 64 signed bits. -/
def signedMax : Int := 9223372036854775807

/-- The smallest value of 64 signed bits. -/
def signedMin : Int := -9223372036854775808

/-- An ASCII digit. -/
def isDigit (c : Char) : Bool := '0' ≤ c && c ≤ '9'

/-- The number that an ASCII digit stands for. -/
def digitValue (c : Char) : Nat := c.toNat - '0'.toNat

/-- The value of a run of digits behind a number already read. -/
def accumulate (start : Nat) (cs : List Char) : Nat :=
  cs.foldl (fun n c => n * 10 + digitValue c) start

/-- One digit or more, and nothing else. -/
def value? (cs : List Char) : Option Nat :=
  if cs.isEmpty || !cs.all isDigit then none else some (accumulate 0 cs)

/-- Digits behind an optional plus sign. -/
def natural? : List Char → Option Nat
  | '+' :: cs => value? cs
  | cs => value? cs

/-- Digits behind an optional sign of either kind. -/
def integer? : List Char → Option Int
  | '-' :: cs => (value? cs).map fun n => -(n : Int)
  | '+' :: cs => (value? cs).map Int.ofNat
  | cs => (value? cs).map Int.ofNat

/-- A number of 64 unsigned bits. -/
def unsigned? (s : String) : Option UInt64 :=
  match natural? s.toList with
  | some n => if n < unsignedBound then some n.toUInt64 else none
  | none => none

/-- A number of 64 signed bits. -/
def signed? (s : String) : Option Int :=
  match integer? s.toList with
  | some n => if signedMin ≤ n ∧ n ≤ signedMax then some n else none
  | none => none

/-- The digits of a number, written to at least `width` places with zeros in front. -/
def padded (width n : Nat) : String :=
  let ds := Nat.toDigits 10 n
  String.ofList (List.replicate (width - ds.length) '0' ++ ds)

/-- A number in lower-case hexadecimal digits. -/
def hex (n : Nat) : String := String.ofList (Nat.toDigits 16 n)

theorem value?_eq_some_iff {cs : List Char} {n : Nat} :
    value? cs = some n ↔ cs ≠ [] ∧ (∀ c ∈ cs, isDigit c = true) ∧ accumulate 0 cs = n := by
  unfold value?
  cases cs with
  | nil => simp
  | cons c r => by_cases h : ∀ d ∈ c :: r, isDigit d = true <;> simp_all

example : unsigned? "18446744073709551616" = none := by decide +kernel
example : unsigned? "+007" = some 7 := by decide +kernel
example : signed? "-9223372036854775808" = some (-9223372036854775808) := by decide +kernel

end Digits

end Leasehold.Text

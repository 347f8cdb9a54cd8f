import Leasehold.Decimal.Reader
import Leasehold.Time.Span

/-!
# Writing numbers in decimal

Two texts of a double.  `Binary64.shortest` has the fewest digits that read back
as the same number, always without an exponent; `Binary64.fixed` has a given
number of places, and a tie of the exact value goes to the even digit.  The
sign of zero is kept by both.
-/

namespace Leasehold

namespace Binary64

/-- The texts of what is not finite. -/
def specialText : Binary64 → String
  | .nan => "NaN"
  | .infinite true => "-inf"
  | _ => "inf"

/-- A minus sign for a negative number. -/
def signText (negative : Bool) : String := if negative then "-" else ""

/-- `n / 10 ^ places` with all its places. -/
def placesText (n places : Nat) : String :=
  let digits := Nat.toDigits 10 n
  let full := List.replicate (places + 1 - digits.length) '0' ++ digits
  let whole := full.take (full.length - places)
  let fraction := full.drop (full.length - places)
  String.ofList (if places = 0 then whole else whole ++ '.' :: fraction)

/-- The number with exactly `places` digits behind the point. -/
def fixed (x : Binary64) (places : Nat) : String :=
  match x with
  | .finite negative m u =>
    signText negative ++ placesText (nearestEven (m * twoTo u * tenTo places) (twoTo 1074)) places
  | x => x.specialText

/-- The reals that round to a positive number, in units of `2 ^ -1076`, and whether the ends
belong to them. -/
structure Interval where
  low : Nat
  value : Nat
  high : Nat
  closed : Bool

/-- The interval of a positive finite number.  Below a power of two the next smaller number
is only half as far away. -/
def interval (significand unit : Nat) : Interval :=
  { low := if significand = twoTo 52 ∧ 0 < unit then (4 * significand - 1) * twoTo unit
      else (4 * significand - 2) * twoTo unit
    value := 4 * significand * twoTo unit
    high := (4 * significand + 2) * twoTo unit
    closed := significand % 2 = 0 }

/-- `n · 10 ^ e` lies in the interval, both sides brought to whole numbers. -/
def Interval.contains (i : Interval) (n : Nat) (e : Int) : Bool :=
  let up := tenTo e.toNat * twoTo 1076
  let down := tenTo (-e).toNat
  let v := n * up
  if i.closed then i.low * down ≤ v && v ≤ i.high * down else i.low * down < v && v < i.high * down

/-- The multiple of `10 ^ e` that lies in the interval, of two the nearer, of two equally near
the even one. -/
def Interval.onGrid? (i : Interval) (e : Int) : Option Nat :=
  let up := tenTo e.toNat * twoTo 1076
  let down := tenTo (-e).toNat
  let floor := i.value * down / up
  let nearest := nearestEven (i.value * down) up
  let other := if nearest = floor then floor + 1 else floor
  if i.contains nearest e then some nearest
  else if i.contains other e then some other
  else none

/-- Tries grids from coarse to fine, beginning with `10 ^ e`. -/
def Interval.firstGrid (i : Interval) : Nat → Int → Nat × Int
  | 0, e => (nearestEven (i.value * tenTo (-e).toNat) (tenTo e.toNat * twoTo 1076), e)
  | tries + 1, e =>
    match i.onGrid? e with
    | some n => (n, e)
    | none => i.firstGrid tries (e - 1)

/-- A power of ten above the value and not far from it, from the number of its binary
digits. -/
def leadingPower (i : Interval) : Int :=
  ((i.value.log2 : Int) - 1076) * 30103 / 100000 + 2

/-- Fewest digits and power of ten of a positive finite number. -/
def shortestDigits (significand unit : Nat) : Nat × Int :=
  let i := interval significand unit
  i.firstGrid 21 (leadingPower i)

/-- `n · 10 ^ e` without an exponent. -/
def positional (n : Nat) (e : Int) : String :=
  if 0 ≤ e then toString (n * tenTo e.toNat) else placesText n e.natAbs

/-- A text without the zeros that end its fraction. -/
def trimZeros (n : Nat) (e : Int) : Nat → Nat × Int
  | 0 => (n, e)
  | tries + 1 => if e < 0 ∧ n % 10 = 0 then trimZeros (n / 10) (e + 1) tries else (n, e)

/-- The fewest digits that read back as the number, without an exponent. -/
def shortest : Binary64 → String
  | .finite negative 0 _ => signText negative ++ "0"
  | .finite negative m u =>
    let (n, e) := shortestDigits m u
    let (n, e) := trimZeros n e 20
    signText negative ++ positional n e
  | x => x.specialText

example : (roundQuotient false 1 10).shortest = "0.1" := by decide +kernel
example : (ofNat 123456789012345680000).shortest = "123456789012345680000" := by decide +kernel
example : shortestDigits 1 0 = (5, -324) := by decide +kernel
example : (roundQuotient false 1 4).fixed 1 = "0.2" := by decide +kernel

end Binary64

/-- The seconds of a span as a double: whole seconds and rest are rounded, then their sum. -/
def Span.toBinary64 (s : Span) : Binary64 :=
  Binary64.addMagnitudes (Binary64.ofNat s.seconds)
    (Binary64.roundQuotient false s.subsecNanos 1000000000)

/-- The seconds of a span with `places` digits behind the point. -/
def Span.secondsText (s : Span) (places : Nat) : String := s.toBinary64.fixed places

example : Span.longest.secondsText 3 = "18446744073709551616.000" := by decide +kernel

end Leasehold

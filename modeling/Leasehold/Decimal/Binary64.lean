import Leasehold.Decimal.Power

/-!
# Binary floating point, exactly

Numbers of the IEEE 754 double format, held as what they mean: a finite number
is `significand · 2 ^ unit / 2 ^ 1074` with a sign.  `roundQuotient` takes a
quotient of natural numbers to the nearest such number, a tie to the one with
the even significand; `nearestEven_within` says that its rule on integers is
never more than half a unit off.  No machine arithmetic is used, so every value
can be computed in a proof.
-/

namespace Leasehold

/-- A double-precision number. -/
inductive Binary64 where
  | nan
  | infinite (negative : Bool)
  | finite (negative : Bool) (significand unit : Nat)
  deriving DecidableEq, Repr, Inhabited

namespace Binary64

/-- The integer nearest to `a / d`, of two nearest ones the even one. -/
def nearestEven (a d : Nat) : Nat :=
  let below := a / d
  let excess := 2 * (a % d)
  if d < excess ∨ excess = d ∧ below % 2 = 1 then below + 1 else below

/-- The integer nearest to `a / d`, of two nearest ones the larger one. -/
def nearestUp (a d : Nat) : Nat := (2 * a + d) / (2 * d)

/-- The exponent of the unit in which `a / d` has 53 binary digits, or 0 where the smallest
unit leaves fewer. -/
def unitOf (a d : Nat) : Nat :=
  let guess := a.log2 - (d.log2 + 52)
  if 0 < guess ∧ a < d * twoTo (guess + 52) then guess - 1 else guess

/-- A significand and unit in range, with the significand's overflow carried into the unit. -/
def pack (negative : Bool) (significand unit : Nat) : Binary64 :=
  let (m, u) := if significand = twoTo 53 then (twoTo 52, unit + 1) else (significand, unit)
  if 2045 < u then .infinite negative else .finite negative m u

/-- The number nearest to `a / (d · 2 ^ 1074)`. -/
def roundScaled (negative : Bool) (a d : Nat) : Binary64 :=
  let u := unitOf a d
  pack negative (nearestEven a (d * twoTo u)) u

/-- The number nearest to `a / d`. -/
def roundQuotient (negative : Bool) (a d : Nat) : Binary64 :=
  roundScaled negative (a * twoTo 1074) d

/-- The number nearest to a natural number. -/
def ofNat (n : Nat) : Binary64 := roundQuotient false n 1

/-- The magnitude of a finite number, in units of `2 ^ -1074`. -/
def scaled : Binary64 → Nat
  | .finite _ m u => m * twoTo u
  | _ => 0

/-- The sum of two numbers that are not negative. -/
def addMagnitudes (a b : Binary64) : Binary64 := roundScaled false (a.scaled + b.scaled) 1

/-- The nearest whole number of 64 unsigned bits, halves away from zero; what lies outside
goes to the nearer end, and what is no number to 0. -/
def toUnsigned : Binary64 → UInt64
  | .nan => 0
  | .infinite true => 0
  | .infinite false => 18446744073709551615
  | .finite true _ _ => 0
  | .finite false m u => (min (nearestUp (m * twoTo u) (twoTo 1074)) 18446744073709551615).toUInt64

/-- Neither of the two zeros. -/
def isNonzero : Binary64 → Bool
  | .finite _ m _ => m != 0
  | _ => true

/-- The whole number that a finite number is, if it is one. -/
def toInt? : Binary64 → Option Int
  | .finite negative m u =>
    let n := m * twoTo u
    if n % twoTo 1074 = 0 then
      some (if negative then -((n / twoTo 1074 : Nat) : Int) else (n / twoTo 1074 : Nat))
    else none
  | _ => none

/-- The number lies strictly below an integer. -/
def below (x : Binary64) (n : Int) : Bool :=
  match x with
  | .nan => false
  | .infinite negative => negative
  | .finite negative m u =>
    let v : Int := (m * twoTo u : Nat)
    (if negative then -v else v) < n * twoTo 1074

theorem nearestEven_within {a d : Nat} (h : 0 < d) :
    2 * (d * nearestEven a d) ≤ 2 * a + d ∧ 2 * a ≤ 2 * (d * nearestEven a d) + d := by
  have whole := Nat.div_add_mod a d
  have rest := Nat.mod_lt a h
  rw [nearestEven]
  split
  · rw [Nat.mul_succ]
    omega
  · omega

example : ofNat (twoTo 53 + 1) = ofNat (twoTo 53) := by decide +kernel
example : roundQuotient false 1 (twoTo 1074) = .finite false 1 0 := by decide +kernel
example : roundQuotient true (twoTo 1024) 1 = .infinite true := by decide +kernel

end Binary64

end Leasehold

import Leasehold.Decimal.Binary64
import Leasehold.Text.Digits

/-!
# Reading decimal numbers

The double nearest to a decimal text: a sign, digits with a point among or
beside them, and an exponent; or the words for infinity and for what is no
number, in any case.  `Decimal.unsigned?` takes a text without its sign apart,
and `Decimal.value` is the number that the parts stand for.
-/

namespace Leasehold

/-- A decimal number as written: the digits without their point, and the power of ten that
belongs to them. -/
structure Decimal where
  negative : Bool
  digits : List Char
  exponent : Int
  deriving DecidableEq

namespace Decimal

open Text.Digits (isDigit accumulate value?)

/-- Splits an optional sign off a text. -/
def splitSign : List Char → Bool × List Char
  | '-' :: cs => (true, cs)
  | '+' :: cs => (false, cs)
  | cs => (false, cs)

/-- An exponent mark with its number, or nothing at all. -/
def exponent? : List Char → Option Int
  | [] => some 0
  | c :: cs =>
    if c = 'e' ∨ c = 'E' then
      let (negative, ds) := splitSign cs
      (value? ds).map fun n => if negative then -(n : Int) else n
    else none

/-- The digits behind a point, if there is one, and the rest. -/
def splitFraction : List Char → List Char × List Char
  | '.' :: cs => (cs.takeWhile isDigit, cs.dropWhile isDigit)
  | cs => ([], cs)

/-- Reads an unsigned number: one digit or more, at most one point, an optional exponent. -/
def unsigned? (negative : Bool) (cs : List Char) : Option Decimal :=
  let whole := cs.takeWhile isDigit
  let (fraction, rest) := splitFraction (cs.dropWhile isDigit)
  if whole.isEmpty && fraction.isEmpty then none
  else
    (exponent? rest).map fun e =>
      { negative, digits := whole ++ fraction, exponent := e - fraction.length }

/-- The double nearest to the number.  Beyond 400 places the answer is known without it. -/
def value (d : Decimal) : Binary64 :=
  let ds := d.digits.dropWhile (· = '0')
  let n := accumulate 0 ds
  let places := d.exponent + ds.length
  if n = 0 then .finite d.negative 0 0
  else if 400 < places then .infinite d.negative
  else if places < -400 then .finite d.negative 0 0
  else if 0 ≤ d.exponent then Binary64.roundQuotient d.negative (n * tenTo d.exponent.toNat) 1
  else Binary64.roundQuotient d.negative n (tenTo d.exponent.natAbs)

/-- The word of a text, without regard to the case of ASCII letters. -/
def lower (cs : List Char) : List Char := cs.map Char.toLower

/-- Reads a text as a number, infinite and undefined ones included. -/
def read? (s : String) : Option Binary64 :=
  let (negative, cs) := splitSign s.toList
  let word := String.ofList (lower cs)
  if word = "inf" ∨ word = "infinity" then some (.infinite negative)
  else if word = "nan" then some .nan
  else (unsigned? negative cs).map value

example : read? ".5" = some (Binary64.roundQuotient false 1 2) := by decide +kernel
example : read? "-Infinity" = some (.infinite true) ∧ read? "NaN" = some .nan := by decide +kernel
example : read? "1e999999999" = some (.infinite false) := by decide +kernel

end Decimal

end Leasehold

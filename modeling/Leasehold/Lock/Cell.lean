import Leasehold.Decimal.Writer
import Leasehold.Text.Blank
import Leasehold.Text.Bytes

/-!
# Cells of the lock table

A cell holds a value of any kind, whatever its column is meant for: other
programs may write rows too.  Columns convert what is written to them where that
loses nothing (`storedAsText`, `storedAsNumber`), and values of different kinds
are ordered nulls first, then numbers, texts, and bytes.  Nothing compares with a
null.
-/

namespace Leasehold

/-- A value in a row of the table. -/
inductive Cell where
  | null
  | integer (value : Int)
  | real (value : Binary64)
  | text (value : String)
  | bytes (value : List UInt8)
  deriving DecidableEq, Inhabited

namespace Cell

/-- The text of a real number: at least one place behind the point. -/
def realText (x : Binary64) : String :=
  let t := x.shortest
  if t.toList.contains '.' then t else t ++ ".0"

/-- What a text column keeps of a value: numbers become their texts. -/
def storedAsText : Cell → Cell
  | integer n => text (toString n)
  | real x => text (realText x)
  | c => c

/-- A real number as a number column keeps it: a whole number where it is one. -/
def ofReal (x : Binary64) : Cell :=
  match x.toInt? with
  | some n => if Text.Digits.signedMin ≤ n ∧ n ≤ Text.Digits.signedMax then integer n else real x
  | none => real x

/-- What a number column keeps of a value: texts that are numbers become numbers. -/
def storedAsNumber : Cell → Cell
  | text s =>
    let trimmed := Text.trimString s
    match Text.Digits.signed? trimmed with
    | some n => integer n
    | none =>
      let (negative, digits) := Decimal.splitSign trimmed.toList
      match Decimal.unsigned? negative digits with
      | some d => ofReal d.value
      | none => text s
  | real x => ofReal x
  | c => c

/-- The cell is a number strictly below `n`. -/
def below : Cell → Int → Bool
  | integer m, n => m < n
  | real x, n => x.below n
  | _, _ => false

/-- The cell is a number not below `n`, or of a kind that comes behind all numbers. -/
def atLeast : Cell → Int → Bool
  | integer m, n => n ≤ m
  | real .nan, _ => false
  | real x, n => !x.below n
  | text _, _ => true
  | bytes _, _ => true
  | null, _ => false

/-- The place of a kind in the order of keys. -/
def rank : Cell → Nat
  | null => 0
  | integer _ => 1
  | real _ => 1
  | text _ => 2
  | bytes _ => 3

/-- The order of keys, for the kinds that a key column keeps. -/
def keyBefore (a b : Cell) : Bool :=
  match a, b with
  | text s, text t => Text.before s t
  | bytes s, bytes t => Text.bytesBefore s t
  | a, b => a.rank < b.rank

/-- The name of a kind in messages. -/
def kind : Cell → String
  | null => "Null"
  | integer _ => "Integer"
  | real _ => "Real"
  | text _ => "Text"
  | bytes _ => "Blob"

@[simp] theorem below_integer (m n : Int) : (integer m).below n = decide (m < n) := rfl

@[simp] theorem atLeast_integer (m n : Int) : (integer m).atLeast n = decide (n ≤ m) := rfl

@[simp] theorem below_null (n : Int) : null.below n = false := rfl

@[simp] theorem keyBefore_text (s t : String) : keyBefore (text s) (text t) = Text.before s t := rfl

example : storedAsNumber (text " 123 ") = integer 123 := by decide +kernel
example : storedAsNumber (text "soon") = text "soon" := by decide +kernel
example : storedAsText (integer 7) = text "7" := by decide +kernel

end Cell

end Leasehold

import Leasehold.Proofs.Decimal.Texts
import Leasehold.Settings.Field

/-!
# Texts that are read and written again

The text of a variable is read as a truth value, a whole number or a real one before it is taken as
a text (`Setting.Reading`), and a field of text writes what was read.  So a text arrives as it is
if it is read as none of these, or if it is the text that its value is written as
(`Setting.arrival_eq_iff`).

That the text of a value is read as this value is what `Binary64.read?_shortest` and
`Binary64.signed?_toString` say.  The one number whose text is read as another is the negative zero.
-/

namespace Leasehold

open Text (lowerString)
open Text.Digits (signed? signedMin signedMax)

namespace Setting

/-! ## Readings -/

/-- The text is a word for a truth value, in any case. -/
def TruthWord (v : String) : Prop := lowerString v = "true" ∨ lowerString v = "false"

/-- What the text of a variable is read as, in the order in which the readings are tried. -/
inductive Reading (v : String) : Setting → Prop where
  | truth (b : Bool) (word : lowerString v = if b then "true" else "false") : Reading v (.bool b)
  | integer (n : Int) (no_word : ¬TruthWord v) (number : signed? v = some n) :
    Reading v (.integer n)
  | real (x : Binary64) (no_word : ¬TruthWord v) (no_integer : signed? v = none)
    (number : Decimal.read? v = some x) : Reading v (.real x)
  | text (no_word : ¬TruthWord v) (no_integer : signed? v = none)
    (no_real : Decimal.read? v = none) : Reading v (.text v)

variable {v : String} {s : Setting}

theorem reading_ofVariable (v : String) : Reading v (ofVariable v) := by
  unfold ofVariable
  dsimp only
  by_cases yes : lowerString v = "true"
  · rw [if_pos yes]
    exact .truth true yes
  by_cases no : lowerString v = "false"
  · rw [if_neg yes, if_pos no]
    exact .truth false no
  have no_word : ¬TruthWord v := not_or.mpr ⟨yes, no⟩
  rw [if_neg yes, if_neg no]
  cases integer : signed? v with
  | some n => exact .integer n no_word integer
  | none =>
    cases real : Decimal.read? v with
    | some x => exact .real x no_word integer real
    | none => exact .text no_word integer real

/-- A text has one reading. -/
theorem Reading.eq (reading : Reading v s) : ofVariable v = s := by
  unfold ofVariable
  cases reading with
  | truth b word => cases b <;> simp [word]
  | integer n no_word number =>
    obtain ⟨yes, no⟩ := not_or.mp no_word
    simp [yes, no, number]
  | real x no_word no_integer number =>
    obtain ⟨yes, no⟩ := not_or.mp no_word
    simp [yes, no, no_integer, number]
  | text no_word no_integer no_real =>
    obtain ⟨yes, no⟩ := not_or.mp no_word
    simp [yes, no, no_integer, no_real]

/-! ## What a field of text makes of them -/

/-- What a field of text makes of the text of a variable. -/
def arrival (v : String) : String := (ofVariable v).toText?.getD v

theorem toText?_ofVariable (v : String) : (ofVariable v).toText? = some (arrival v) := by
  have reading := reading_ofVariable v
  unfold arrival
  generalize ofVariable v = s at reading ⊢
  cases reading <;> rfl

theorem Reading.arrival_eq {t : String} (reading : Reading v s) (text : s.toText? = some t) :
    arrival v = t := by
  rw [arrival, reading.eq, text, Option.getD_some]

/-- The texts that arrive as they are. -/
inductive Kept : String → Prop where
  /-- A word for a truth value in small letters. -/
  | truth (b : Bool) : Kept (if b then "true" else "false")
  /-- A whole number of 64 bits as it is written. -/
  | integer (n : Int) (low : signedMin ≤ n) (high : n ≤ signedMax) : Kept (toString n)
  /-- A double as it is written, but for the negative zero. -/
  | real (x : Binary64) (proper : x.Proper) (some_zero : x ≠ .finite true 0 0) : Kept x.shortest
  /-- A text that is read as nothing else. -/
  | text {v : String} (reading : Reading v (.text v)) : Kept v

theorem signed?_bounds {n : Int} (number : signed? v = some n) : signedMin ≤ n ∧ n ≤ signedMax := by
  unfold signed? at number
  split at number
  · obtain ⟨bounds, same⟩ := Option.ite_none_right_eq_some.mp number
    exact Option.some.inj same ▸ bounds
  · cases number

/-- A text of a number is no word. -/
theorem not_truthWord_number (negative : Bool) (n places : Nat) :
    ¬TruthWord (Binary64.signText negative ++ Binary64.placesText n places) := by
  obtain ⟨c, rest, text, low⟩ := Binary64.opening_number negative n places
  have other : c ≠ '\u212a' := by
    rintro rfl
    exact absurd low (by decide)
  have lower : lowerString (Binary64.signText negative ++ Binary64.placesText n places) =
      String.ofList (c :: rest.map Text.lowerLetter) := by
    rw [lowerString, text, List.map_cons, Text.lowerLetter, if_neg other,
      toLower_of_lt low]
  rw [TruthWord, lower, not_or]
  exact ⟨ofList_ne_of_lt low (by simp), ofList_ne_of_lt low (by simp)⟩

theorem arrival_toString {n : Int} (low : signedMin ≤ n) (high : n ≤ signedMax) :
    arrival (toString n) = toString n := by
  have no_word : ¬TruthWord (toString n) := by
    rw [Binary64.toString_eq]
    exact not_truthWord_number _ _ _
  exact (Reading.integer n no_word (Binary64.signed?_toString low high)).arrival_eq rfl

theorem arrival_shortest {x : Binary64} (proper : x.Proper) (some_zero : x ≠ .finite true 0 0) :
    arrival x.shortest = x.shortest := by
  cases proper with
  | nan => decide +kernel
  | @infinite negative => cases negative <;> decide +kernel
  | @finite negative m u digits normal range =>
    have proper := @Binary64.Proper.finite negative m u digits normal range
    rcases Nat.eq_zero_or_pos m with rfl | some_m
    · obtain rfl := normal.resolve_right (by decide +kernel)
      cases negative with
      | true => exact absurd rfl some_zero
      | false => decide +kernel
    · obtain ⟨n, places, text, holds⟩ := Binary64.exists_shortest proper some_m
      obtain ⟨some_n, -, -⟩ := Binary64.places_of_holds proper some_m holds
      have no_word := not_truthWord_number negative n places
      have number := Binary64.read?_shortest proper
      rw [← text] at no_word
      cases integer : signed? (Binary64.finite negative m u).shortest with
      | none => exact (Reading.real _ no_word integer number).arrival_eq rfl
      | some k =>
        have same := Binary64.toString_of_signed? some_n (text ▸ integer)
        exact (Reading.integer k no_word integer).arrival_eq (congrArg some (same.trans text.symm))

/-- What has arrived would arrive again as it is, but for the negative zero. -/
theorem kept_arrival (v : String) : Kept (arrival v) ∨ arrival v = "-0" := by
  obtain ⟨s, reading⟩ : ∃ s, Reading v s := ⟨_, reading_ofVariable v⟩
  cases reading with
  | truth b word =>
    rw [(Reading.truth b word).arrival_eq rfl]
    exact .inl (.truth b)
  | integer n no_word number =>
    obtain ⟨low, high⟩ := signed?_bounds number
    rw [(Reading.integer n no_word number).arrival_eq rfl]
    exact .inl (.integer n low high)
  | real x no_word no_integer number =>
    rw [(Reading.real x no_word no_integer number).arrival_eq rfl]
    by_cases zero : x = .finite true 0 0
    · exact .inr (zero ▸ rfl)
    · exact .inl (.real x (Binary64.proper_read? number) zero)
  | text no_word no_integer no_real =>
    have reading := Reading.text no_word no_integer no_real
    rw [reading.arrival_eq rfl]
    exact .inl (.text reading)

/-- A text arrives as it is if it is the text of what it is read as. -/
theorem arrival_eq_iff (v : String) : arrival v = v ↔ Kept v := by
  constructor
  · intro same
    rcases kept_arrival v with kept | zero
    · exact same ▸ kept
    · -- the text of the negative zero is read as a whole number
      obtain rfl := same.symm.trans zero
      exact absurd same (by decide +kernel)
  · intro kept
    cases kept with
    | truth b => cases b <;> decide +kernel
    | integer n low high => exact arrival_toString low high
    | real x proper some_zero => exact arrival_shortest proper some_zero
    | text reading => exact reading.arrival_eq rfl

end Setting

end Leasehold

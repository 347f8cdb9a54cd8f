/-!
# Blank characters

The characters with the Unicode property `White_Space`, and trimming by them.
Core's `Char.isWhitespace` knows four of the twenty-five.  Trimming at one end
leaves nothing exactly of a text of blanks (`trimEnd_eq_nil_iff`).
-/

namespace Leasehold.Text

/-- The Unicode property `White_Space`. -/
def isBlank (c : Char) : Bool :=
  let n := c.toNat
  (0x09 ≤ n && n ≤ 0x0d) || n == 0x20 || n == 0x85 || n == 0xa0 || n == 0x1680 ||
    (0x2000 ≤ n && n ≤ 0x200a) || n == 0x2028 || n == 0x2029 || n == 0x202f ||
    n == 0x205f || n == 0x3000

/-- The text without the blanks at its start. -/
def trimStart (cs : List Char) : List Char := cs.dropWhile isBlank

/-- The text without the blanks at its end. -/
def trimEnd (cs : List Char) : List Char := (trimStart cs.reverse).reverse

/-- The text without the blanks at either end. -/
def trim (cs : List Char) : List Char := trimEnd (trimStart cs)

/-- The string without the blanks at either end. -/
def trimString (s : String) : String := String.ofList (trim s.toList)

/-- A string of blanks only, the empty one included. -/
def isBlankString (s : String) : Bool := s.toList.all isBlank

theorem trimStart_eq_nil_iff (cs : List Char) : trimStart cs = [] ↔ ∀ c ∈ cs, isBlank c = true := by
  induction cs with
  | nil => simp [trimStart]
  | cons c r ih =>
    cases h : isBlank c with
    | false => simp [trimStart, h]
    | true =>
      rw [List.forall_mem_cons, ← ih, trimStart, List.dropWhile_cons_of_pos h]
      simp [h, trimStart]

theorem trimEnd_eq_nil_iff (cs : List Char) : trimEnd cs = [] ↔ ∀ c ∈ cs, isBlank c = true := by
  simp [trimEnd, trimStart_eq_nil_iff]

example : ((List.range 0x21).filter fun n => isBlank (Char.ofNat n)) = [9, 10, 11, 12, 13, 32] := by
  decide +kernel
example : trimString " \u3000a b\u0085" = "a b" := by decide +kernel
example : isBlank '\u200b' = false := by decide

end Leasehold.Text

import Leasehold.Text.Blank
import Mathlib.Data.List.TakeWhile

/-!
# What trimming leaves

A text is trimmed when it neither starts nor ends with a blank, and it is the trimmed one of
another text when that one has blanks around it and nothing else.  `Trims` says so without a word
about how the blanks are found, and `trim_eq_iff` that trimming does exactly this.  Which
characters are blanks is a list here (`whiteSpace`), and `isBlank_iff` says that the ranges of
`isBlank` are this list.
-/

namespace Leasehold.Text

variable {cs core blanks : List Char}

/-- The characters with the property `White_Space`, by their numbers. -/
def whiteSpace : List Nat :=
  [0x9, 0xa, 0xb, 0xc, 0xd, 0x20, 0x85, 0xa0, 0x1680, 0x2000, 0x2001, 0x2002, 0x2003, 0x2004,
    0x2005, 0x2006, 0x2007, 0x2008, 0x2009, 0x200a, 0x2028, 0x2029, 0x202f, 0x205f, 0x3000]

/-- `core` is the text `cs` without the blanks at its two ends. -/
structure Trims (cs core : List Char) : Prop where
  ends : ∃ before after, cs = before ++ core ++ after ∧
    (∀ c ∈ before, c.toNat ∈ whiteSpace) ∧ ∀ c ∈ after, c.toNat ∈ whiteSpace
  head : ∀ c ∈ core.head?, c.toNat ∉ whiteSpace
  last : ∀ c ∈ core.getLast?, c.toNat ∉ whiteSpace

theorem isBlank_iff (c : Char) : isBlank c = true ↔ c.toNat ∈ whiteSpace := by
  simp only [isBlank, whiteSpace, Bool.or_eq_true, Bool.and_eq_true, decide_eq_true_eq,
    beq_iff_eq, List.mem_cons, List.not_mem_nil, or_false]
  omega

theorem isBlank_eq_false_iff (c : Char) : isBlank c = false ↔ c.toNat ∉ whiteSpace := by
  rw [← isBlank_iff, Bool.not_eq_true]

/-! ## The start of a text -/

theorem trimStart_of_head (h : ∀ c ∈ cs.head?, isBlank c = false) : trimStart cs = cs := by
  cases cs with
  | nil => rfl
  | cons c rest => exact List.dropWhile_cons_of_neg (by simp [h c rfl])

theorem trimStart_blanks (h : ∀ c ∈ blanks, isBlank c = true) :
    trimStart (blanks ++ cs) = trimStart cs :=
  List.dropWhile_append_of_pos h

theorem exists_trimStart (cs : List Char) :
    ∃ before, cs = before ++ trimStart cs ∧ ∀ c ∈ before, isBlank c = true :=
  ⟨cs.takeWhile isBlank, List.takeWhile_append_dropWhile.symm, fun _ => List.mem_takeWhile_imp⟩

theorem head_trimStart (cs : List Char) : ∀ c ∈ (trimStart cs).head?, isBlank c = false := by
  intro c hc
  have h := List.head?_dropWhile_not isBlank cs
  rwa [← trimStart, Option.mem_def.mp hc] at h

/-! ## The end of a text -/

theorem trimEnd_of_last (h : ∀ c ∈ cs.getLast?, isBlank c = false) : trimEnd cs = cs := by
  rw [trimEnd, trimStart_of_head, List.reverse_reverse]
  rwa [List.head?_reverse]

theorem trimEnd_blanks (h : ∀ c ∈ blanks, isBlank c = true) :
    trimEnd (cs ++ blanks) = trimEnd cs := by
  rw [trimEnd, List.reverse_append, trimStart_blanks, trimEnd]
  exact fun c hc => h c (List.mem_reverse.mp hc)

theorem exists_trimEnd (cs : List Char) :
    ∃ after, cs = trimEnd cs ++ after ∧ ∀ c ∈ after, isBlank c = true := by
  obtain ⟨before, split, blank⟩ := exists_trimStart cs.reverse
  refine ⟨before.reverse, ?_, fun c hc => blank c (List.mem_reverse.mp hc)⟩
  rw [trimEnd, ← List.reverse_append, ← split, List.reverse_reverse]

theorem last_trimEnd (cs : List Char) : ∀ c ∈ (trimEnd cs).getLast?, isBlank c = false := by
  rw [trimEnd, List.getLast?_reverse]
  exact head_trimStart cs.reverse

/-! ## Both ends -/

theorem trims_trim (cs : List Char) : Trims cs (trim cs) := by
  obtain ⟨before, start, blank⟩ := exists_trimStart cs
  obtain ⟨after, rest, blank'⟩ := exists_trimEnd (trimStart cs)
  simp only [isBlank_iff] at blank blank'
  refine ⟨⟨before, after, ?_, blank, blank'⟩, fun c hc => ?_, fun c hc => ?_⟩
  · rw [List.append_assoc, trim, ← rest, ← start]
  · refine (isBlank_eq_false_iff c).mp (head_trimStart cs c ?_)
    rw [Option.mem_def] at hc ⊢
    rw [rest, List.head?_append, ← trim, hc, Option.some_or]
  · exact (isBlank_eq_false_iff c).mp (last_trimEnd _ c hc)

/-- Trimming takes away the blanks at both ends, and nothing else. -/
theorem trim_eq_iff : trim cs = core ↔ Trims cs core := by
  constructor
  · rintro rfl
    exact trims_trim cs
  · rintro ⟨⟨before, after, rfl, blank, blank'⟩, head, last⟩
    simp only [← isBlank_iff] at blank blank'
    simp only [← isBlank_eq_false_iff] at head last
    rw [List.append_assoc, trim, trimStart_blanks blank]
    cases core with
    | nil =>
      rw [List.nil_append, trimEnd_eq_nil_iff]
      exact fun c hc => blank' c (List.dropWhile_subset _ hc)
    | cons c rest =>
      have start : trimStart (c :: rest ++ after) = c :: rest ++ after := trimStart_of_head head
      rw [start, trimEnd_blanks blank', trimEnd_of_last last]

end Leasehold.Text

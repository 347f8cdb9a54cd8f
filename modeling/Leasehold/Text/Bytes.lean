/-!
# Texts in the order of their bytes

Keys are compared by their UTF-8 bytes, first difference first.  `Text.before`
is that strict order; `before_trans`, `before_irrefl` and `before_or_eq_or_before`
say that it is a total one.
-/

namespace Leasehold.Text

/-- The UTF-8 bytes of a text. -/
def utf8 (s : String) : List UInt8 := s.toByteArray.data.toList

/-- Lexicographic order of byte lists. -/
def bytesBefore : List UInt8 → List UInt8 → Bool
  | _, [] => false
  | [], _ :: _ => true
  | a :: as, b :: bs => a < b || (a == b && bytesBefore as bs)

/-- The first text comes strictly before the second in the order of bytes. -/
def before (s t : String) : Bool := bytesBefore (utf8 s) (utf8 t)

theorem utf8_inj {s t : String} (h : utf8 s = utf8 t) : s = t := by
  apply String.toByteArray_inj.1
  apply ByteArray.ext
  exact Array.toList_inj.1 h

@[simp] theorem bytesBefore_irrefl (as : List UInt8) : bytesBefore as as = false := by
  induction as with
  | nil => rfl
  | cons a r ih => simp [bytesBefore, ih]

theorem bytesBefore_trans {as bs cs : List UInt8} (h₁ : bytesBefore as bs = true)
    (h₂ : bytesBefore bs cs = true) : bytesBefore as cs = true := by
  induction as generalizing bs cs with
  | nil => cases cs with
    | nil => cases bs <;> simp [bytesBefore] at h₂
    | cons => rfl
  | cons a r ih =>
    cases bs with
    | nil => simp [bytesBefore] at h₁
    | cons b s =>
      cases cs with
      | nil => simp [bytesBefore] at h₂
      | cons c t =>
        simp only [bytesBefore, Bool.or_eq_true, decide_eq_true_eq, Bool.and_eq_true,
          beq_iff_eq] at *
        rcases h₁ with h₁ | ⟨rfl, h₁⟩ <;> rcases h₂ with h₂ | ⟨rfl, h₂⟩
        · exact .inl (UInt8.lt_trans h₁ h₂)
        · exact .inl h₁
        · exact .inl h₂
        · exact .inr ⟨rfl, ih h₁ h₂⟩

theorem bytesBefore_total (as bs : List UInt8) :
    bytesBefore as bs = true ∨ as = bs ∨ bytesBefore bs as = true := by
  induction as generalizing bs with
  | nil => cases bs <;> simp [bytesBefore]
  | cons a r ih =>
    cases bs with
    | nil => simp [bytesBefore]
    | cons b s =>
      rcases Classical.em (a = b) with rfl | hne
      · rcases ih s with h | h | h <;> simp [bytesBefore, h]
      · rcases UInt8.lt_or_lt_of_ne hne with h | h <;> simp [bytesBefore, h]

@[simp] theorem before_irrefl (s : String) : before s s = false := bytesBefore_irrefl _

theorem before_trans {s t u : String} (h₁ : before s t = true) (h₂ : before t u = true) :
    before s u = true :=
  bytesBefore_trans h₁ h₂

/-- Of two texts one comes first, unless they are equal. -/
theorem before_or_eq_or_before (s t : String) :
    before s t = true ∨ s = t ∨ before t s = true := by
  rcases bytesBefore_total (utf8 s) (utf8 t) with h | h | h
  · exact .inl h
  · exact .inr (.inl (utf8_inj h))
  · exact .inr (.inr h)

example : before "Z" "a" = true := by decide +kernel
example : before "\uffff" "😀" = true := by decide +kernel

end Leasehold.Text

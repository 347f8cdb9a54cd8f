import Leasehold.Proofs.Toml.Strings

/-!
# Scalars are read back

Numbers, truth values and strings at the end of a line are read back from the texts that a
document has for them (`Written`).  Every reader of scalars is tried in its turn, so of a number
it has to be known that no other reader takes it: a date or a time needs a mark behind its first
digits, and a number with a fraction or an exponent one behind all of them.
-/

namespace Leasehold

namespace Toml

open Text.Digits (isDigit)

/-! ## Decimal digits -/

theorem accumulate_toDigits (n : Nat) : Text.Digits.accumulate 0 (Nat.toDigits 10 n) = n := by
  have h := @Nat.ofDigitChars_toDigits 10 n (by decide) (by decide)
  rw [Nat.ofDigitChars_eq_foldl] at h
  simpa only [Text.Digits.accumulate, Text.Digits.digitValue, Nat.mul_comm] using h

theorem head?_toDigits {n : Nat} (h : 0 < n) : (Nat.toDigits 10 n).head? ≠ some '0' := by
  induction n using Nat.strongRecOn with
  | ind n ih =>
    by_cases small : n < 10
    · rw [Nat.toDigits_of_lt_base small]
      have nonzero : ∀ k < 10, 0 < k → k.digitChar ≠ '0' := by decide
      simpa using nonzero n small h
    · have more := ih (n / 10) (by omega) (by omega)
      rw [Nat.toDigits_of_base_le (by decide) (by omega), List.head?_append]
      cases hd : (Nat.toDigits 10 (n / 10)).head? with
      | none => exact absurd (List.head?_eq_none_iff.mp hd) Nat.toDigits_ne_nil
      | some d => rwa [hd] at more

/-- Digits without needless zeros in front, one digit at least. -/
structure Numeral (ds : List Char) : Prop where
  digits : ∀ c ∈ ds, isDigit c = true
  nonempty : ds ≠ []
  zeros : ds.length = 1 ∨ ds.head? ≠ some '0'

theorem numeral_toDigits (n : Nat) : Numeral (Nat.toDigits 10 n) where
  digits c hc := Nat.isDigit_of_mem_toDigits (by decide) (by decide) hc
  nonempty := Nat.toDigits_ne_nil
  zeros := by
    by_cases h : 0 < n
    · exact .inr (head?_toDigits h)
    · obtain rfl : n = 0 := by omega
      exact .inl rfl

/-! ## Numbers -/

namespace Numeral

variable {ds : List Char} (h : Numeral ds) (rest : List Char)

include h

/-- A numeral begins with a digit, and with nothing that marks another kind of scalar. -/
theorem opening : ∃ d r, ds = d :: r ∧ isDigit d = true ∧
    d ∉ ['"', '\'', 't', 'f', '+', '-', 'i', 'n', ' ', '\t', '[', '\x7b'] := by
  match ds, h.nonempty with
  | d :: r, _ =>
    have hd := h.digits d List.mem_cons_self
    refine ⟨d, r, rfl, hd, fun mem => ?_⟩
    simp only [List.mem_cons, List.not_mem_nil, or_false] at mem
    rcases mem with rfl | rfl | rfl | rfl | rfl | rfl | rfl | rfl | rfl | rfl | rfl | rfl <;>
      cases hd

theorem string? : Toml.string? (ds ++ rest) = none := by
  obtain ⟨d, r, rfl, -, other⟩ := h.opening
  simp at other
  simp [Toml.string?, other]

theorem truth? : Toml.truth? (ds ++ rest) = none := by
  obtain ⟨d, r, rfl, -, other⟩ := h.opening
  simp at other
  simp [Toml.truth?, other]

theorem splitSign : Decimal.splitSign (ds ++ rest) = (false, ds ++ rest) := by
  obtain ⟨d, r, rfl, -, other⟩ := h.opening
  simp at other
  simp [Decimal.splitSign, other]

theorem specialReal? : Toml.specialReal? (ds ++ rest) = none := by
  obtain ⟨d, r, hds, -, other⟩ := h.opening
  rw [Toml.specialReal?, h.splitSign, hds]
  simp at other
  simp [other]

theorem run? : Toml.run? isDigit (ds ++ '\n' :: rest) = some (ds, '\n' :: rest) := by
  obtain ⟨digits, nonempty, -⟩ := h
  induction ds with
  | nil => exact absurd rfl nonempty
  | cons d ds ih =>
    rw [List.forall_mem_cons] at digits
    cases ds with
    | nil => simp [Toml.run?, digits.1, show isDigit '\n' = false from rfl]
    | cons e ds =>
      have he := digits.2 e List.mem_cons_self
      have noMark : e ≠ '_' := by rintro rfl; cases he
      have more := ih digits.2 (List.cons_ne_nil _ _)
      rw [List.cons_append] at more
      simp [Toml.run?, digits.1, he, more]

theorem wholeDigits? : Toml.wholeDigits? (ds ++ '\n' :: rest) = some (false, ds, '\n' :: rest) := by
  simp only [Toml.wholeDigits?, h.splitSign, h.run?, Option.bind_eq_bind, Option.bind_some]
  exact if_pos h.zeros

theorem finiteReal? : Toml.finiteReal? (ds ++ '\n' :: rest) = none := by
  simp [Toml.finiteReal?, h.wholeDigits?, fractionPart?, exponentPart?]

/-- No letter stands behind the first digit, as one does in another base. -/
theorem second {c d : Char} {t : List Char} (text : ds ++ '\n' :: rest = c :: d :: t) :
    isDigit d = true ∨ d = '\n' := by
  match ds, h.nonempty with
  | [_], _ =>
    simp only [List.cons_append, List.nil_append, List.cons.injEq] at text
    exact .inr text.2.1.symm
  | _ :: e :: _, _ =>
    simp only [List.cons_append, List.cons.injEq] at text
    exact .inl (text.2.1 ▸ h.digits e (List.mem_cons_of_mem _ List.mem_cons_self))

theorem integer? (bound : (Text.Digits.accumulate 0 ds : Int) ≤ Text.Digits.signedMax) :
    Toml.integer? (ds ++ '\n' :: rest) =
      some ((Text.Digits.accumulate 0 ds : Int), '\n' :: rest) := by
  have low : Text.Digits.signedMin ≤ (Text.Digits.accumulate 0 ds : Int) := by
    unfold Text.Digits.signedMin
    omega
  rw [Toml.integer?]
  · simp [h.wholeDigits?, low, bound]
  all_goals
    intro t text
    exact absurd (h.second rest text) (by decide)

end Numeral

/-! ## Dates and times -/

namespace Moment

variable {ds : List Char} (rest : List Char)

/-- Behind some of the digits of a line stands another one, or the end of the line. -/
theorem digits?_rest {n : Nat} {x y : List Char} (digits : ∀ c ∈ ds, isDigit c = true)
    (h : digits? n (ds ++ '\n' :: rest) = some (x, y)) :
    ∃ c cs, y = c :: cs ∧ (isDigit c = true ∨ c = '\n') := by
  induction n generalizing ds x with
  | zero =>
    cases h
    cases ds with
    | nil => exact ⟨'\n', rest, rfl, .inr rfl⟩
    | cons d ds => exact ⟨d, _, rfl, .inl (digits d List.mem_cons_self)⟩
  | succ n ih =>
    cases ds with
    | nil => cases h
    | cons d ds =>
      rw [List.forall_mem_cons] at digits
      simp only [List.cons_append, digits?, digits.1, ↓reduceIte, Option.map_eq_some_iff] at h
      obtain ⟨⟨x', y'⟩, more, ⟨⟩⟩ := h
      exact ih digits.2 more

theorem number?_rest {n low high v : Nat} {y : List Char} (digits : ∀ c ∈ ds, isDigit c = true)
    (h : number? n low high (ds ++ '\n' :: rest) = some (v, y)) :
    ∃ c cs, y = c :: cs ∧ (isDigit c = true ∨ c = '\n') := by
  simp only [number?, Option.bind_eq_bind, Option.bind_eq_some_iff] at h
  obtain ⟨⟨x, y'⟩, read, h⟩ := h
  split at h
  · cases h
    exact digits?_rest rest digits read
  · cases h

/-- A mark of dates and times does not stand behind a number. -/
theorem expect?_none {mark : Char} {y : List Char} (other : isDigit mark = false ∧ mark ≠ '\n')
    (h : ∃ c cs, y = c :: cs ∧ (isDigit c = true ∨ c = '\n')) : expect? mark y = none := by
  obtain ⟨c, cs, rfl, hc⟩ := h
  refine if_neg ?_
  rintro rfl
  rcases hc with hc | hc
  · exact absurd hc (Bool.eq_false_iff.mp other.1)
  · exact other.2 hc

theorem read?_digits (digits : ∀ c ∈ ds, isDigit c = true) :
    read? (ds ++ '\n' :: rest) = none := by
  have noDate : date? (ds ++ '\n' :: rest) = none := by
    unfold date?
    cases year : number? 4 0 9999 (ds ++ '\n' :: rest) with
    | none => rfl
    | some r =>
      have noMark : expect? '-' r.2 = none :=
        expect?_none (by decide) (number?_rest rest digits year)
      simp [noMark]
  have noTime : time? (ds ++ '\n' :: rest) = none := by
    unfold time?
    cases hour : number? 2 0 23 (ds ++ '\n' :: rest) with
    | none => rfl
    | some r =>
      have noMark : expect? ':' r.2 = none :=
        expect?_none (by decide) (number?_rest rest digits hour)
      simp [noMark]
  rw [read?, noDate, noTime]

end Moment

/-! ## Scalars -/

/-- A text that no blank and no bracket begins, and that is read as a value where it ends a
line. -/
structure Written (text : String) (v : Toml) : Prop where
  opening : ∃ c cs, text.toList = c :: cs ∧ c ∉ [' ', '\t', '[', '\x7b']
  read : ∀ rest, scalar? (text.toList ++ '\n' :: rest) = some (v, '\n' :: rest)

theorem StringForm.write_opening (f : StringForm) (cs : List Char) :
    ∃ q t, (f.write cs).toList = q :: t ∧ (q = '"' ∨ q = '\'') := by
  cases f <;> simp [StringForm.write]

theorem written_string (s : String) : Written (writeString s) (.text s) where
  opening := by
    obtain ⟨q, t, hq, quote⟩ := (StringTraits.of s.toList).form.write_opening s.toList
    refine ⟨q, t, hq, ?_⟩
    rcases quote with rfl | rfl <;> decide
  read rest := by simp [scalar?, string?_writeString]

theorem written_number {n : Nat} (bound : (n : Int) ≤ Text.Digits.signedMax) :
    Written (toString n) (.integer n) where
  opening := by
    obtain ⟨d, r, hd, -, other⟩ := (numeral_toDigits n).opening
    simp only [List.mem_cons, not_or] at other
    exact ⟨d, r, by simp [hd], by simp [other]⟩
  read rest := by
    have h := numeral_toDigits n
    have value := accumulate_toDigits n
    have text : (toString n).toList = Nat.toDigits 10 n := by simp
    rw [text]
    simp [scalar?, h.string?, h.truth?, Moment.read?_digits rest h.digits, h.specialReal?,
      h.finiteReal?, h.integer? rest (value.symm ▸ bound), value]

theorem written_bool (b : Bool) : Written (if b then "true" else "false") (.bool b) where
  opening := by cases b <;> simp
  read rest := by cases b <;> simp [scalar?, string?, truth?]

end Toml

end Leasehold

import Leasehold.Proofs.Decimal.Shortest
import Leasehold.Proofs.Toml.Scalars
import Leasehold.Proofs.Waiting.Bounds

/-!
# Texts of numbers are read back

The text of a finite number is a sign and digits, among them a point if there are places
(`Binary64.toList_placesText`).  It is read as the quotient that these digits write
(`read?_placesText`), and since its digits lie in the interval of the number, as this number
(`read?_shortest`).  Without a point it may be read as a whole number before that, which has the
same text (`toString_of_signed?`).
-/

namespace Leasehold

open Text.Digits (isDigit accumulate value? signed?)

/-! ## What is no word -/

/-- Signs, digits and the point stand before the letters. -/
theorem toLower_of_lt {c : Char} (h : c.toNat < 65) : c.toLower = c := by
  rw [← Char.toNat_inj, toNat_toLower, if_neg (by omega)]

theorem toNat_lt_of_isDigit {c : Char} (digit : isDigit c = true) : c.toNat < 65 := by
  have high : c.toNat ≤ 57 := ((Text.Digits.isDigit_iff c).mp digit).2
  omega

theorem not_sign_of_isDigit {c : Char} (digit : isDigit c = true) : c ≠ '-' ∧ c ≠ '+' := by
  constructor <;> (rintro rfl; cases digit)

/-- What begins with a sign or a digit is no word of letters. -/
theorem ofList_ne_of_lt {c : Char} {rest : List Char} {word : String} (h : c.toNat < 65)
    (letters : ∀ l ∈ word.toList.head?, 65 ≤ l.toNat) : String.ofList (c :: rest) ≠ word := by
  rintro rfl
  rw [String.toList_ofList] at letters
  exact absurd (letters c rfl) (Nat.not_le.mpr h)

theorem twoTo_add_two (k : Nat) : twoTo (k + 2) = 4 * twoTo k := by
  rw [twoTo_succ, twoTo_succ]
  omega

namespace Binary64

variable {m u n places : Nat} {negative : Bool}

/-! ## Digits and places -/

/-- The digits of `n / 10 ^ places`, with zeros in front up to the one before the point. -/
def placesDigits (n places : Nat) : List Char :=
  List.replicate (places + 1 - (Nat.toDigits 10 n).length) '0' ++ Nat.toDigits 10 n

theorem isDigit_placesDigits (n places : Nat) : ∀ c ∈ placesDigits n places, isDigit c = true := by
  intro c hc
  rcases List.mem_append.mp hc with zero | digit
  · rw [List.eq_of_mem_replicate zero]
    rfl
  · exact (Toml.numeral_toDigits n).digits c digit

theorem length_placesDigits (n places : Nat) : places < (placesDigits n places).length := by
  rw [placesDigits, List.length_append, List.length_replicate]
  omega

/-- A point parts the digits, unless there are no places. -/
theorem toList_placesText (n places : Nat) : ∃ whole fraction,
    whole ++ fraction = placesDigits n places ∧ whole ≠ [] ∧ fraction.length = places ∧
      (placesText n places).toList = whole ++ if places = 0 then [] else '.' :: fraction := by
  have long := length_placesDigits n places
  refine ⟨(placesDigits n places).take ((placesDigits n places).length - places),
    (placesDigits n places).drop ((placesDigits n places).length - places),
    List.take_append_drop _ _, ?_, ?_, ?_⟩
  · exact List.ne_nil_of_length_pos (by rw [List.length_take]; omega)
  · rw [List.length_drop]
    omega
  · unfold placesText
    rw [String.toList_ofList]
    show (if places = 0 then _ else _) = _
    split
    · rw [List.append_nil]
      rfl
    · rfl

theorem placesText_zero (n : Nat) : placesText n 0 = toString n := by
  obtain ⟨whole, fraction, digits, -, empty, text⟩ := toList_placesText n 0
  have all : placesDigits n 0 = Nat.toDigits 10 n := by
    have some_digit := @Nat.length_toDigits_pos 10 n
    rw [placesDigits, Nat.sub_eq_zero_of_le some_digit]
    rfl
  rw [List.length_eq_zero_iff.mp empty, List.append_nil, all] at digits
  rw [← String.toList_inj, text, digits]
  simp

/-- Every text without an exponent is one of digits and places. -/
theorem positional_eq (n : Nat) (e : Int) :
    positional n e = placesText (n * tenTo e.toNat) (-e).toNat := by
  unfold positional
  split
  · rename_i whole
    rw [show (-e).toNat = 0 by omega, placesText_zero]
  · rename_i fraction
    rw [show (-e).toNat = e.natAbs by omega, show e.toNat = 0 by omega, tenTo_zero, Nat.mul_one]

/-- The shortest text of a number has digits that lie in its interval. -/
theorem exists_shortest (proper : (finite negative m u).Proper) (some_m : 0 < m) :
    ∃ n places, (finite negative m u).shortest = signText negative ++ placesText n places ∧
      (interval m u).Holds (n * twoTo 1076) (tenTo places) := by
  obtain ⟨digits, hdigits⟩ : ∃ digits, shortestDigits m u = digits := ⟨_, rfl⟩
  have held := Interval.contains_trimZeros (contains_shortestDigits proper some_m) 20
  rw [hdigits, Interval.contains_iff, ← Nat.mul_assoc] at held
  refine ⟨_, _, ?_, held⟩
  rw [← positional_eq, shortest, hdigits]
  exact Nat.ne_of_gt some_m

/-! ## Reading digits -/

/-- A text of digits begins with none but a digit. -/
theorem opening_placesText (n places : Nat) :
    ∃ c rest, (placesText n places).toList = c :: rest ∧ isDigit c = true := by
  obtain ⟨whole, fraction, digits, nonempty, -, text⟩ := toList_placesText n places
  obtain ⟨c, whole, rfl⟩ := List.exists_cons_of_ne_nil nonempty
  refine ⟨c, _, text, isDigit_placesDigits n places c ?_⟩
  rw [← digits]
  exact List.mem_cons_self

/-- The parts that are read from a text of digits. -/
theorem unsigned?_placesText (negative : Bool) (n places : Nat) :
    Decimal.unsigned? negative (placesText n places).toList =
      some ⟨negative, placesDigits n places, -places⟩ := by
  obtain ⟨whole, fraction, digits, nonempty, few, text⟩ := toList_placesText n places
  have decimal := isDigit_placesDigits n places
  rw [← digits] at decimal ⊢
  have front : ∀ c ∈ whole, isDigit c = true := fun c hc => decimal c (List.mem_append_left _ hc)
  have back : ∀ c ∈ fraction, isDigit c = true := fun c hc => decimal c (List.mem_append_right _ hc)
  have some_whole : whole.isEmpty = false := List.isEmpty_eq_false_iff.mpr nonempty
  rw [text, Decimal.unsigned?, List.takeWhile_append_of_pos front,
    List.dropWhile_append_of_pos front]
  by_cases point : places = 0
  · obtain rfl : fraction = [] := List.length_eq_zero_iff.mp (few.trans point)
    simp [point, Decimal.splitFraction, Decimal.exponent?, some_whole]
  · have dot : isDigit '.' = false := rfl
    rw [if_neg point, List.takeWhile_cons_of_neg (by simp [dot]),
      List.dropWhile_cons_of_neg (by simp [dot])]
    simp [Decimal.splitFraction, Decimal.exponent?, some_whole, few,
      List.takeWhile_eq_self_iff.mpr back, List.dropWhile_eq_nil_iff.mpr back]

theorem dropWhile_placesDigits (some_n : 0 < n) (places : Nat) :
    (placesDigits n places).dropWhile (· = '0') = Nat.toDigits 10 n := by
  have zeros (k : Nat) : ∀ c ∈ List.replicate k '0', decide (c = '0') = true := by
    intro c hc
    exact decide_eq_true (List.eq_of_mem_replicate hc)
  rw [placesDigits, List.dropWhile_append_of_pos (zeros _)]
  have nonzero := Toml.head?_toDigits some_n
  obtain ⟨d, ds, text⟩ := List.exists_cons_of_ne_nil (Toml.numeral_toDigits n).nonempty
  rw [text] at nonzero ⊢
  exact List.dropWhile_cons_of_neg (by simpa using nonzero)

/-- The value of digits whose places are not beyond what is looked at. -/
theorem value_placesDigits (some_n : 0 < n)
    (large : (Nat.toDigits 10 n).length ≤ places + 400)
    (small : places ≤ (Nat.toDigits 10 n).length + 400) :
    Decimal.value ⟨negative, placesDigits n places, -places⟩ =
      roundQuotient negative n (tenTo places) := by
  unfold Decimal.value
  dsimp only
  rw [dropWhile_placesDigits some_n, Toml.accumulate_toDigits, if_neg (by omega), if_neg (by omega),
    if_neg (by omega)]
  split
  · rename_i whole
    obtain rfl : places = 0 := by omega
    rw [show (-((0 : Nat) : Int)).toNat = 0 from rfl, tenTo_zero, Nat.mul_one]
  · rw [show (-(places : Int)).natAbs = places by omega]

theorem tenTo_400 : twoTo 1024 ≤ tenTo 400 ∧ twoTo 1076 ≤ tenTo 400 := by decide +kernel

/-- A number in range has no more than 400 digits on either side of its point. -/
theorem places_of_holds (proper : (finite negative m u).Proper) (some_m : 0 < m)
    (holds : (interval m u).Holds (n * twoTo 1076) (tenTo places)) :
    0 < n ∧ (Nat.toDigits 10 n).length ≤ places + 400 ∧
      places ≤ (Nat.toDigits 10 n).length + 400 := by
  obtain ⟨low, high, -⟩ := (Interval.holds_iff _).mp holds
  have some_low := low_interval_pos some_m u
  have least : tenTo places ≤ n * twoTo 1076 :=
    Nat.le_trans (Nat.le_mul_of_pos_left _ some_low) low
  have some_n : 0 < n := Nat.pos_of_mul_pos_right (Nat.lt_of_lt_of_le (tenTo_pos _) least)
  have short : n < tenTo (Nat.toDigits 10 n).length :=
    (Nat.length_toDigits_le_iff (by decide) Nat.length_toDigits_pos).mp (Nat.le_refl _)
  refine ⟨some_n, (Nat.length_toDigits_le_iff (by decide) (by omega)).mpr ?_, ?_⟩
  · refine Nat.lt_of_mul_lt_mul_right (a := twoTo 1076) ?_
    calc n * twoTo 1076
        ≤ (interval m u).high * tenTo places := high
      _ < twoTo 2100 * tenTo places :=
        Nat.mul_lt_mul_of_pos_right (high_interval_lt proper).2 (tenTo_pos _)
      _ = twoTo 1024 * tenTo places * twoTo 1076 := by
        rw [twoTo_add 1024 1076, Nat.mul_right_comm]
      _ ≤ tenTo 400 * tenTo places * twoTo 1076 :=
        Nat.mul_le_mul_right _ (Nat.mul_le_mul_right _ tenTo_400.1)
      _ = tenTo (places + 400) * twoTo 1076 := by rw [tenTo_add, Nat.mul_comm (tenTo 400)]
  · refine Nat.le_of_not_lt fun far => Nat.lt_irrefl (tenTo places) ?_
    calc tenTo places
        ≤ n * twoTo 1076 := least
      _ < tenTo (Nat.toDigits 10 n).length * twoTo 1076 :=
        Nat.mul_lt_mul_of_pos_right short (twoTo_pos _)
      _ ≤ tenTo (Nat.toDigits 10 n).length * tenTo 400 := Nat.mul_le_mul_left _ tenTo_400.2
      _ = tenTo ((Nat.toDigits 10 n).length + 400) := (tenTo_add _ _).symm
      _ ≤ tenTo places := tenTo_mono (Nat.le_of_lt far)

/-! ## Reading texts -/

/-- The text of a number begins with a sign or a digit. -/
theorem opening_number (negative : Bool) (n places : Nat) : ∃ c rest,
    (signText negative ++ placesText n places).toList = c :: rest ∧ c.toNat < 65 := by
  obtain ⟨c, rest, text, digit⟩ := opening_placesText n places
  cases negative with
  | true => exact ⟨'-', c :: rest, by simp [signText, text], by decide⟩
  | false => exact ⟨c, rest, by simp [signText, text], toNat_lt_of_isDigit digit⟩

theorem splitSign_placesText (negative : Bool) (n places : Nat) :
    Decimal.splitSign (signText negative ++ placesText n places).toList =
      (negative, (placesText n places).toList) := by
  obtain ⟨c, rest, text, digit⟩ := opening_placesText n places
  rw [String.toList_append, text]
  cases negative with
  | true => rfl
  | false =>
    have sign := not_sign_of_isDigit digit
    simp [signText, Decimal.splitSign, sign]

theorem read?_placesText (negative : Bool) (n places : Nat) :
    Decimal.read? (signText negative ++ placesText n places) =
      some (Decimal.value ⟨negative, placesDigits n places, -places⟩) := by
  obtain ⟨c, rest, text, digit⟩ := opening_placesText n places
  have low := toNat_lt_of_isDigit digit
  have word : Decimal.lower (placesText n places).toList = c :: Decimal.lower rest := by
    rw [text, Decimal.lower, List.map_cons, toLower_of_lt low]
    rfl
  unfold Decimal.read?
  rw [splitSign_placesText]
  dsimp only
  rw [word, if_neg (not_or.mpr ⟨ofList_ne_of_lt low (by simp), ofList_ne_of_lt low (by simp)⟩),
    if_neg (ofList_ne_of_lt low (by simp)), unsigned?_placesText, Option.map_some]

theorem value?_placesText (n places : Nat) :
    value? (placesText n places).toList = if places = 0 then some n else none := by
  by_cases point : places = 0
  · have numeral := Toml.numeral_toDigits n
    rw [if_pos point, point, placesText_zero, Text.Digits.value?_eq_some_iff]
    rw [Nat.toString_eq_ofList_toDigits, String.toList_ofList]
    exact ⟨numeral.nonempty, numeral.digits, Toml.accumulate_toDigits n⟩
  · obtain ⟨whole, fraction, -, -, -, text⟩ := toList_placesText n places
    rw [if_neg point] at text ⊢
    refine Option.eq_none_iff_forall_ne_some.mpr fun k read => ?_
    obtain ⟨-, digits, -⟩ := Text.Digits.value?_eq_some_iff.mp read
    have dot : isDigit '.' = true := digits '.' (by simp [text])
    cases dot

theorem integer?_placesText (negative : Bool) (n places : Nat) :
    Text.Digits.integer? (signText negative ++ placesText n places).toList =
      if places = 0 then some (if negative then -(n : Int) else n) else none := by
  obtain ⟨c, rest, text, digit⟩ := opening_placesText n places
  have number := value?_placesText n places
  cases negative with
  | true =>
    have minus : (signText true ++ placesText n places).toList =
        '-' :: (placesText n places).toList := by simp [signText]
    rw [minus, Text.Digits.integer?, number]
    split <;> rfl
  | false =>
    have plain : (signText false ++ placesText n places).toList = c :: rest := by
      simp [signText, text]
    have sign := not_sign_of_isDigit digit
    have unsigned : Text.Digits.integer? (c :: rest) = (value? (c :: rest)).map Int.ofNat := by
      simp [Text.Digits.integer?, sign]
    rw [plain, unsigned, ← text, number]
    split <;> rfl

/-- The text of an integer is a sign and digits. -/
theorem toString_eq (k : Int) : toString k = signText (k < 0) ++ placesText k.natAbs 0 := by
  rw [placesText_zero, Int.toString_eq_repr, Int.repr_eq_if, Nat.toString_eq_repr, signText]
  by_cases negative : k < 0
  · rw [if_neg (by omega), if_pos (decide_eq_true negative), show (-k).toNat = k.natAbs by omega]
  · rw [if_pos (by omega), if_neg (by simpa using negative), show k.toNat = k.natAbs by omega,
      String.empty_append]

theorem toString_signed (negative : Bool) (some_n : 0 < n) :
    toString (if negative then -(n : Int) else n) = signText negative ++ placesText n 0 := by
  rw [toString_eq]
  cases negative with
  | true =>
    simp [some_n]
  | false =>
    have positive : ¬(n : Int) < 0 := by omega
    simp [positive]

/-- Whole numbers of 64 bits are read from their texts. -/
theorem signed?_toString {n : Int} (low : Text.Digits.signedMin ≤ n)
    (high : n ≤ Text.Digits.signedMax) : signed? (toString n) = some n := by
  have value : (if decide (n < 0) = true then -(n.natAbs : Int) else n.natAbs) = n := by
    simp only [decide_eq_true_eq]
    split <;> omega
  rw [toString_eq, signed?, integer?_placesText, if_pos rfl, value]
  exact if_pos ⟨low, high⟩

/-- A text of a number that is read as a whole one is that of this whole number. -/
theorem toString_of_signed? {k : Int} (some_n : 0 < n)
    (read : signed? (signText negative ++ placesText n places) = some k) :
    toString k = signText negative ++ placesText n places := by
  unfold signed? at read
  rw [integer?_placesText] at read
  by_cases point : places = 0
  · rw [if_pos point] at read
    obtain ⟨-, same⟩ := Option.ite_none_right_eq_some.mp read
    rw [← Option.some.inj same, toString_signed negative some_n, point]
  · rw [if_neg point] at read
    cases read

/-- A number is read from its text. -/
theorem read?_shortest {x : Binary64} (proper : x.Proper) :
    Decimal.read? x.shortest = some x := by
  match x with
  | .nan => decide +kernel
  | .infinite negative => cases negative <;> decide +kernel
  | .finite negative 0 u =>
    cases proper with | finite _ normal _
    obtain rfl := normal.resolve_right (by decide +kernel)
    cases negative <;> decide +kernel
  | .finite negative (m + 1) u =>
    obtain ⟨n, places, text, holds⟩ := exists_shortest proper (Nat.succ_pos m)
    obtain ⟨some_n, large, small⟩ := places_of_holds proper (Nat.succ_pos m) holds
    rw [twoTo_add_two, Nat.mul_left_comm] at holds
    rw [text, read?_placesText, value_placesDigits some_n large small, roundQuotient,
      roundScaled_of_holds proper (Nat.succ_pos m) (tenTo_pos places) holds]

theorem proper_zero (negative : Bool) : (finite negative 0 0).Proper :=
  .finite (twoTo_pos 53) (.inl rfl) (Nat.zero_le _)

/-- What is read is a number of the format. -/
theorem proper_read? {s : String} {x : Binary64} (read : Decimal.read? s = some x) : x.Proper := by
  have proper_value (d : Decimal) : d.value.Proper := by
    unfold Decimal.value
    dsimp only
    split_ifs
    · exact proper_zero _
    · exact .infinite
    · exact proper_zero _
    · exact proper_roundQuotient _ _ Nat.one_pos
    · exact proper_roundQuotient _ _ (tenTo_pos _)
  unfold Decimal.read? at read
  dsimp only at read
  split_ifs at read
  · exact Option.some.inj read ▸ .infinite
  · exact Option.some.inj read ▸ .nan
  · obtain ⟨d, -, rfl⟩ := Option.map_eq_some_iff.mp read
    exact proper_value d

end Binary64

end Leasehold

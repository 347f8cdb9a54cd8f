import Leasehold.Decimal.Writer

/-!
# What rounds to a number

A double is proper if its significand and unit are those of the format (`Binary64.Proper`).  Every
rounding gives a proper one (`proper_roundScaled`), and a proper one is what everything in its
interval rounds to (`roundScaled_of_holds`): the unit is the one that leaves 53 binary digits
(`unitOf_eq`), in this unit the significand is the nearest integer (`nearestEven_eq`), and the
ends of an interval, which are ties, go to the even significand.  Just below a power of two the
unit is the half of it, and the significand is carried back.
-/

namespace Leasehold

namespace Binary64

/-- The significand and the unit of a finite number are in range, and the significand has 53
binary digits unless the unit is the smallest one. -/
inductive Proper : Binary64 → Prop where
  | nan : Proper .nan
  | infinite {negative : Bool} : Proper (.infinite negative)
  | finite {negative : Bool} {significand unit : Nat} (digits : significand < twoTo 53)
    (normal : unit = 0 ∨ twoTo 52 ≤ significand) (range : unit ≤ 2045) :
    Proper (.finite negative significand unit)

/-- The quotient `a / d`, in units of `2 ^ -1076`, lies in the interval. -/
def Interval.Holds (i : Interval) (a d : Nat) : Prop :=
  if i.closed then i.low * d ≤ a ∧ a ≤ i.high * d else i.low * d < a ∧ a < i.high * d

/-! ## The unit of a quotient -/

variable {a d : Nat}

/-- The unit leaves at most 53 binary digits, and no fewer unless it is the smallest one. -/
theorem unitOf_spec (hd : 0 < d) :
    a < d * twoTo (unitOf a d + 53) ∧ (unitOf a d = 0 ∨ d * twoTo (unitOf a d + 52) ≤ a) := by
  have above : a < twoTo (a.log2 + 1) := Nat.lt_log2_self
  have above' : d < twoTo (d.log2 + 1) := Nat.lt_log2_self
  have below' : twoTo d.log2 ≤ d := Nat.log2_self_le (Nat.ne_of_gt hd)
  -- a quotient has as many digits as the numerator has beyond the denominator, or one fewer
  have wide {k : Nat} (h : a.log2 + 1 ≤ d.log2 + k) : a < d * twoTo k :=
    calc a < twoTo (a.log2 + 1) := above
      _ ≤ twoTo (d.log2 + k) := twoTo_mono h
      _ = twoTo d.log2 * twoTo k := twoTo_add _ _
      _ ≤ d * twoTo k := Nat.mul_le_mul_right _ below'
  have narrow {k : Nat} (ha : a ≠ 0) (h : d.log2 + 1 + k ≤ a.log2) : d * twoTo k ≤ a :=
    calc d * twoTo k
        ≤ twoTo (d.log2 + 1) * twoTo k := Nat.mul_le_mul_right _ (Nat.le_of_lt above')
      _ = twoTo (d.log2 + 1 + k) := (twoTo_add _ _).symm
      _ ≤ twoTo a.log2 := twoTo_mono h
      _ ≤ a := Nat.log2_self_le ha
  have log_zero : a = 0 → a.log2 = 0 := fun h => h ▸ Nat.log2_zero
  unfold unitOf
  dsimp only
  split
  · rename_i less
    obtain ⟨some_guess, less⟩ := less
    refine ⟨?_, ?_⟩
    · rwa [show a.log2 - (d.log2 + 52) - 1 + 53 = a.log2 - (d.log2 + 52) + 52 by omega]
    · rcases Nat.eq_zero_or_pos (a.log2 - (d.log2 + 52) - 1) with zero | pos
      · exact .inl zero
      · exact .inr (narrow (fun h => by have := log_zero h; omega) (by omega))
  · rename_i enough
    refine ⟨wide (by omega), ?_⟩
    rcases Nat.eq_zero_or_pos (a.log2 - (d.log2 + 52)) with zero | pos
    · exact .inl zero
    · exact .inr (Nat.le_of_not_lt fun less => enough ⟨pos, less⟩)

/-- No other unit does. -/
theorem unitOf_eq {u : Nat} (hd : 0 < d) (above : a < d * twoTo (u + 53))
    (below : u = 0 ∨ d * twoTo (u + 52) ≤ a) : unitOf a d = u := by
  obtain ⟨above', below'⟩ := unitOf_spec (a := a) hd
  have disjoint {v w : Nat} (less : v < w) (above : a < d * twoTo (v + 53)) :
      ¬d * twoTo (w + 52) ≤ a := by
    have step : d * twoTo (v + 53) ≤ d * twoTo (w + 52) :=
      Nat.mul_le_mul_left d (twoTo_mono (by omega))
    omega
  rcases Nat.lt_trichotomy (unitOf a d) u with less | same | more
  · exact absurd (below.resolve_left (Nat.ne_zero_of_lt less)) (disjoint less above')
  · exact same
  · exact absurd (below'.resolve_left (Nat.ne_zero_of_lt more)) (disjoint more above)

/-! ## The nearest integer -/

/-- An integer is the nearest one if the quotient is no more than a half away from it, and less if
it is odd. -/
theorem nearestEven_eq {m : Nat} (low : 2 * (d * m) ≤ 2 * a + d) (high : 2 * a ≤ 2 * (d * m) + d)
    (odd : m % 2 = 1 → 2 * (d * m) < 2 * a + d ∧ 2 * a < 2 * (d * m) + d) (hd : 0 < d) :
    nearestEven a d = m := by
  have whole := Nat.div_add_mod a d
  have rest := Nat.mod_lt a hd
  have below : m ≤ a / d + 1 := by
    refine Nat.le_of_not_lt fun far => ?_
    have far := Nat.mul_le_mul_left d (Nat.succ_le_of_lt far)
    simp only [Nat.mul_succ] at far
    omega
  have above : a / d ≤ m := by
    refine Nat.le_of_not_lt fun far => ?_
    have far := Nat.mul_le_mul_left d (Nat.succ_le_of_lt far)
    simp only [Nat.mul_succ] at far
    omega
  have cases : m = a / d ∨ m = a / d + 1 := by omega
  rw [nearestEven]
  rcases cases with here | next
  · rw [here] at high odd ⊢
    exact if_neg (by omega)
  · rw [next] at low odd ⊢
    simp only [Nat.mul_succ] at low odd
    exact if_pos (by omega)

/-! ## Proper numbers -/

theorem pack_eq {m u : Nat} (negative : Bool) (hm : m < twoTo 53) (hu : u ≤ 2045) :
    pack negative m u = .finite negative m u := by
  rw [pack, if_neg (Nat.ne_of_lt hm)]
  exact if_neg (Nat.not_lt.mpr hu)

/-- A significand that is one too large is carried into the unit. -/
theorem pack_carry {u : Nat} (negative : Bool) (hu : u < 2045) :
    pack negative (twoTo 53) u = .finite negative (twoTo 52) (u + 1) := by
  rw [pack, if_pos rfl]
  exact if_neg (Nat.not_lt.mpr hu)

theorem proper_pack {m u : Nat} (negative : Bool) (high : m ≤ twoTo 53)
    (low : u = 0 ∨ twoTo 52 ≤ m) : (pack negative m u).Proper := by
  have power : twoTo 53 = 2 * twoTo 52 := twoTo_succ 52
  have pos := twoTo_pos 52
  unfold pack
  by_cases carried : m = twoTo 53
  · rw [if_pos carried]
    dsimp only
    split
    · exact .infinite
    · exact .finite (by omega) (.inr (Nat.le_refl _)) (by omega)
  · rw [if_neg carried]
    dsimp only
    split
    · exact .infinite
    · exact .finite (by omega) low (by omega)

/-- What is rounded is a number of the format. -/
theorem proper_roundScaled (negative : Bool) (a : Nat) (hd : 0 < d) :
    (roundScaled negative a d).Proper := by
  obtain ⟨above, below⟩ := unitOf_spec (a := a) hd
  have pos := Nat.mul_pos hd (twoTo_pos (unitOf a d))
  obtain ⟨low, high⟩ := nearestEven_within (a := a) pos
  have power (k : Nat) : d * twoTo (unitOf a d + k) = d * twoTo (unitOf a d) * twoTo k := by
    rw [twoTo_add, Nat.mul_assoc]
  rw [power] at above below
  refine proper_pack negative ?_ (below.imp_right fun below => ?_)
  · refine Nat.le_of_not_lt fun far => ?_
    have far := Nat.mul_le_mul_left (d * twoTo (unitOf a d)) (Nat.succ_le_of_lt far)
    rw [Nat.mul_succ] at far
    omega
  · refine Nat.le_of_not_lt fun far => ?_
    have far := Nat.mul_le_mul_left (d * twoTo (unitOf a d)) (Nat.succ_le_of_lt far)
    rw [Nat.mul_succ] at far
    omega

theorem proper_roundQuotient (negative : Bool) (a : Nat) (hd : 0 < d) :
    (roundQuotient negative a d).Proper :=
  proper_roundScaled negative (a * twoTo 1074) hd

/-! ## What a number stands for -/

section Interval

variable {m u : Nat} {negative : Bool}

theorem Interval.holds_iff (i : Interval) : i.Holds a d ↔
    i.low * d ≤ a ∧ a ≤ i.high * d ∧ (i.closed = false → i.low * d < a ∧ a < i.high * d) := by
  unfold Interval.Holds
  cases i.closed
  · simp only [Bool.false_eq_true, if_false, true_implies]
    exact ⟨fun h => ⟨Nat.le_of_lt h.1, Nat.le_of_lt h.2, h⟩, fun h => h.2.2⟩
  · simp

theorem Interval.closed_interval : (interval m u).closed = false ↔ m % 2 = 1 := by
  simp only [interval, decide_eq_false_iff_not]
  omega

/-- Below a power of two, the end of its interval is half as far away as the one above. -/
theorem Interval.low_interval_of_edge (edge : m = twoTo 52 ∧ 0 < u) :
    (interval m u).low = (4 * m - 1) * twoTo u := if_pos edge

theorem Interval.low_interval (inner : ¬(m = twoTo 52 ∧ 0 < u)) :
    (interval m u).low = (4 * m - 2) * twoTo u := if_neg inner

/-- A quotient that has 53 binary digits in a unit is rounded to the integer nearest in it. -/
theorem roundScaled_eq_pack {D : Nat} (hd : 0 < d) (hD : d * twoTo u = D)
    (low : 2 * (D * m) ≤ 2 * a + D) (high : 2 * a ≤ 2 * (D * m) + D)
    (odd : m % 2 = 1 → 2 * (D * m) < 2 * a + D ∧ 2 * a < 2 * (D * m) + D)
    (above : a < D * twoTo 53) (below : u = 0 ∨ D * twoTo 52 ≤ a) :
    roundScaled negative a d = pack negative m u := by
  subst hD
  have unit : unitOf a d = u := by
    rw [Nat.mul_assoc, ← twoTo_add] at above below
    exact unitOf_eq hd above below
  rw [roundScaled, unit, nearestEven_eq low high odd (Nat.mul_pos hd (twoTo_pos u))]

/-- Within half a unit, but just below a power of two. -/
theorem roundScaled_inner {D : Nat} (hd : 0 < d) (hD : d * twoTo u = D) (hm : m < twoTo 53)
    (hu : u ≤ 2045) (inner : u = 0 ∨ twoTo 52 < m) (low : 4 * (D * m) ≤ 4 * a + 2 * D)
    (high : 4 * a ≤ 4 * (D * m) + 2 * D)
    (odd : m % 2 = 1 → 4 * (D * m) < 4 * a + 2 * D ∧ 4 * a < 4 * (D * m) + 2 * D) :
    roundScaled negative a d = .finite negative m u := by
  have pos : 0 < D := hD ▸ Nat.mul_pos hd (twoTo_pos u)
  rw [← pack_eq negative hm hu]
  refine roundScaled_eq_pack hd hD (by omega) (by omega) (fun h => ?_) ?_ ?_
  · have odd := odd h
    omega
  · have least := Nat.mul_le_mul_left D (Nat.succ_le_of_lt hm)
    rw [Nat.mul_succ] at least
    omega
  · refine inner.imp_right fun inner => ?_
    have far := Nat.mul_le_mul_left D (Nat.succ_le_of_lt inner)
    rw [Nat.mul_succ] at far
    omega

/-- A power of two is the nearest number already from a quarter of its unit below it. -/
theorem roundScaled_edge {D : Nat} (hd : 0 < d) (hD : d * twoTo (u + 1) = D) (hu : u < 2045)
    (low : 4 * (D * twoTo 52) ≤ 4 * a + D) (high : 4 * a ≤ 4 * (D * twoTo 52) + 2 * D) :
    roundScaled negative a d = .finite negative (twoTo 52) (u + 1) := by
  have digits : twoTo 53 = 2 * twoTo 52 := twoTo_succ 52
  have some_digit := twoTo_pos 52
  have even : twoTo 52 % 2 = 0 := by decide +kernel
  have wide : D ≤ D * twoTo 52 := Nat.le_mul_of_pos_right D some_digit
  have pos : 0 < D := hD ▸ Nat.mul_pos hd (twoTo_pos (u + 1))
  by_cases full : D * twoTo 52 ≤ a
  · rw [← pack_eq negative (by omega) hu]
    refine roundScaled_eq_pack hd hD (by omega) (by omega) (by omega) ?_ (.inr full)
    rw [digits, Nat.mul_left_comm]
    omega
  · -- below it the unit is half as large, and the significand is carried into the next one
    obtain ⟨half, hhalf⟩ : ∃ half, d * twoTo u = half := ⟨_, rfl⟩
    have double : D = 2 * half := by
      rw [← hD, ← hhalf, twoTo_succ, Nat.mul_left_comm]
    have same : half * twoTo 53 = D * twoTo 52 := by
      rw [digits, double, Nat.mul_left_comm, Nat.mul_assoc]
    have fewer : 2 * (half * twoTo 52) = D * twoTo 52 := by
      rw [double, Nat.mul_assoc]
    rw [← pack_carry negative hu]
    exact roundScaled_eq_pack hd hhalf (by omega) (by omega) (by omega) (by omega)
      (.inr (by omega))

/-- What lies in the interval of a proper number rounds to this number. -/
theorem roundScaled_of_holds (proper : (finite negative m u).Proper) (some_m : 0 < m) (hd : 0 < d)
    (holds : (interval m u).Holds (4 * a) d) : roundScaled negative a d = .finite negative m u := by
  cases proper with | finite hm normal hu
  obtain ⟨low, high, odd⟩ := (Interval.holds_iff _).mp holds
  rw [Interval.closed_interval] at odd
  obtain ⟨D, hD⟩ : ∃ D, d * twoTo u = D := ⟨_, rfl⟩
  have units (c : Nat) : c * twoTo u * d = D * c := by
    rw [← hD, Nat.mul_assoc, Nat.mul_comm, Nat.mul_comm (twoTo u)]
  have wide : D ≤ D * m := Nat.le_mul_of_pos_right D some_m
  have top : (interval m u).high * d = 4 * (D * m) + 2 * D := by
    rw [show (interval m u).high = (4 * m + 2) * twoTo u from rfl, units, Nat.mul_add,
      Nat.mul_left_comm, Nat.mul_comm D 2]
  rw [top] at high odd
  by_cases edge : m = twoTo 52 ∧ 0 < u
  · rw [Interval.low_interval_of_edge edge, units, Nat.mul_sub, Nat.mul_left_comm,
      Nat.mul_one] at low
    obtain ⟨rfl, some_u⟩ := edge
    obtain ⟨u, rfl⟩ := Nat.exists_eq_add_one.mpr some_u
    exact roundScaled_edge hd hD hu (by omega) high
  · rw [Interval.low_interval edge, units, Nat.mul_sub, Nat.mul_left_comm,
      Nat.mul_comm D 2] at low odd
    refine roundScaled_inner hd hD hm hu ?_ (by omega) high fun h => ?_
    · omega
    · have odd := odd h
      omega

end Interval

end Binary64

end Leasehold

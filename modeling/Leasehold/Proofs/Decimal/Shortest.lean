import Leasehold.Proofs.Decimal.Rounding

/-!
# The digits of a number read back

The shortest digits of a number lie in its interval (`contains_shortestDigits`), so that they round
to it.  A grid that is taken was tested for that.  The finest one, which is not, has more than 54
binary digits of the value (`finest_fine`), and its nearest multiple is nearer to the value than the
ends of the interval (`contains_finest`).  Zeros that are cut off the fraction change nothing
(`contains_trimZeros`).
-/

namespace Leasehold

namespace Binary64

namespace Interval

variable {i : Interval} {n : Nat} {e : Int}

theorem contains_iff (i : Interval) (n : Nat) (e : Int) : i.contains n e = true ↔
    i.Holds (n * (tenTo e.toNat * twoTo 1076)) (tenTo (-e).toNat) := by
  unfold contains Holds
  cases i.closed <;> simp

/-- An interval is about quotients, not about how they are written. -/
theorem holds_mul_iff {c : Nat} (hc : 0 < c) (i : Interval) (a d : Nat) :
    i.Holds (c * a) (c * d) ↔ i.Holds a d := by
  unfold Holds
  rw [Nat.mul_left_comm i.low, Nat.mul_left_comm i.high]
  simp only [Nat.mul_le_mul_left_iff hc, Nat.mul_lt_mul_left hc]

/-! ## Grids -/

/-- The multiple of a grid that is taken was tested. -/
theorem contains_of_onGrid? (taken : i.onGrid? e = some n) : i.contains n e = true := by
  unfold onGrid? at taken
  extract_lets up down floor nearest other at taken
  by_cases held : i.contains nearest e = true
  · rw [if_pos held] at taken
    exact Option.some.inj taken ▸ held
  · rw [if_neg held] at taken
    obtain ⟨held, taken⟩ := Option.ite_none_right_eq_some.mp taken
    exact Option.some.inj taken ▸ held

/-- The multiple of `10 ^ e` nearest to the value. -/
def nearestOn (i : Interval) (e : Int) : Nat :=
  nearestEven (i.value * tenTo (-e).toNat) (tenTo e.toNat * twoTo 1076)

/-- If the finest grid has a multiple in the interval, then one is found. -/
theorem contains_firstGrid (tries : Nat)
    (finest : i.contains (i.nearestOn (e - tries)) (e - tries) = true) :
    i.contains (i.firstGrid tries e).1 (i.firstGrid tries e).2 = true := by
  induction tries generalizing e with
  | zero =>
    rw [Int.natCast_zero, Int.sub_zero] at finest
    exact finest
  | succ tries ih =>
    rw [firstGrid]
    cases taken : i.onGrid? e with
    | some n => exact contains_of_onGrid? taken
    | none =>
      refine ih ?_
      rwa [show e - 1 - tries = e - (tries + 1 : Nat) by omega]

/-- Zeros at the end of a fraction say nothing. -/
theorem contains_trimZeros (held : i.contains n e = true) (tries : Nat) :
    i.contains (trimZeros n e tries).1 (trimZeros n e tries).2 = true := by
  induction tries generalizing n e with
  | zero => exact held
  | succ tries ih =>
    rw [trimZeros]
    split
    · rename_i zero
      obtain ⟨fraction, zero⟩ := zero
      refine ih ((contains_iff i _ _).mpr ?_)
      have number : n * (tenTo e.toNat * twoTo 1076) =
          10 * (n / 10 * (tenTo (e + 1).toNat * twoTo 1076)) := by
        rw [show e.toNat = (e + 1).toNat by omega, ← Nat.mul_assoc 10,
          Nat.mul_div_cancel' (Nat.dvd_of_mod_eq_zero zero)]
      have power : tenTo (-e).toNat = 10 * tenTo (-(e + 1)).toNat := by
        rw [show (-e).toNat = (-(e + 1)).toNat + 1 by omega, tenTo_succ]
      have held := (contains_iff i n e).mp held
      rwa [number, power, holds_mul_iff (by decide)] at held
    · exact held

end Interval

/-! ## The finest grid -/

/-- The finest power of ten that is tried for a value of that many binary digits. -/
def finestPower (digits : Nat) : Int := ((digits : Int) - 1076) * 30103 / 100000 + 2 - 21

/-- The finest grid has more than 54 binary digits of the value.  The power of ten that begins the
search is made with 0.30103 for the logarithm of two, which is near enough for every number. -/
theorem finest_fine : ∀ digits : Nat, digits < 2100 →
    tenTo (finestPower digits).toNat * twoTo 1076 * twoTo 54 <
      twoTo digits * tenTo (-finestPower digits).toNat := by
  decide +kernel

variable {m u : Nat} {negative : Bool}

theorem low_interval_pos (some_m : 0 < m) (u : Nat) : 0 < (interval m u).low := by
  by_cases edge : m = twoTo 52 ∧ 0 < u
  · rw [Interval.low_interval_of_edge edge]
    exact Nat.mul_pos (by omega) (twoTo_pos u)
  · rw [Interval.low_interval edge]
    exact Nat.mul_pos (by omega) (twoTo_pos u)

theorem low_interval_le (some_m : 0 < m) (u : Nat) :
    (interval m u).low + twoTo u ≤ (interval m u).value := by
  show _ ≤ 4 * m * twoTo u
  by_cases edge : m = twoTo 52 ∧ 0 < u
  · rw [Interval.low_interval_of_edge edge, ← Nat.succ_mul]
    exact Nat.mul_le_mul_right _ (by omega)
  · rw [Interval.low_interval edge, ← Nat.succ_mul]
    exact Nat.mul_le_mul_right _ (by omega)

theorem high_interval (m u : Nat) :
    (interval m u).high = (interval m u).value + 2 * twoTo u := Nat.add_mul _ _ _

theorem high_interval_lt (proper : (finite negative m u).Proper) :
    (interval m u).high < twoTo 55 * twoTo u ∧ (interval m u).high < twoTo 2100 := by
  cases proper with | finite hm _ hu
  have digits : twoTo 55 = 4 * twoTo 53 := rfl
  have first : (interval m u).high < twoTo 55 * twoTo u :=
    Nat.mul_lt_mul_of_pos_right (by omega) (twoTo_pos u)
  refine ⟨first, ?_⟩
  calc (interval m u).high
      < twoTo 55 * twoTo u := first
    _ = twoTo (55 + u) := (twoTo_add _ _).symm
    _ ≤ twoTo 2100 := twoTo_mono (by omega)

theorem log2_lt_of_lt_twoTo {n k : Nat} (some_n : n ≠ 0) (h : n < twoTo k) : n.log2 < k :=
  (Nat.log2_lt some_n).mpr h

/-- The nearest multiple on the finest grid is nearer than a quarter of a unit. -/
theorem contains_finest (proper : (finite negative m u).Proper) (some_m : 0 < m) :
    (interval m u).contains ((interval m u).nearestOn (finestPower (interval m u).value.log2))
      (finestPower (interval m u).value.log2) = true := by
  obtain ⟨few, bounded⟩ := high_interval_lt proper
  have low := low_interval_le some_m u
  have high := high_interval m u
  have some_unit := twoTo_pos u
  have some_value : (interval m u).value ≠ 0 := by omega
  have fine := finest_fine _ (log2_lt_of_lt_twoTo some_value (by omega : _ < twoTo 2100))
  have digits : twoTo (interval m u).value.log2 ≤ (interval m u).value :=
    Nat.log2_self_le some_value
  rw [Interval.contains_iff, Interval.nearestOn]
  generalize finestPower (interval m u).value.log2 = e at fine ⊢
  have some_up : 0 < tenTo e.toNat * twoTo 1076 := Nat.mul_pos (tenTo_pos _) (twoTo_pos _)
  generalize tenTo e.toNat * twoTo 1076 = up at fine some_up ⊢
  generalize tenTo (-e).toNat = down at fine ⊢
  -- a step of the grid is less than half a unit
  have step : up < 2 * (twoTo u * down) := by
    refine Nat.lt_of_mul_lt_mul_right (a := twoTo 54) ?_
    calc up * twoTo 54
        < twoTo (interval m u).value.log2 * down := fine
      _ ≤ (interval m u).value * down := Nat.mul_le_mul_right _ digits
      _ ≤ twoTo 55 * twoTo u * down := Nat.mul_le_mul_right _ (by omega)
      _ = 2 * (twoTo u * down) * twoTo 54 := by
        rw [twoTo_succ 54]
        ac_rfl
  have low := Nat.mul_le_mul_right down low
  have high := congrArg (· * down) high
  simp only [Nat.add_mul, Nat.mul_assoc 2] at low high
  obtain ⟨below, above⟩ := nearestEven_within (a := (interval m u).value * down) some_up
  rw [Nat.mul_comm up] at below above
  refine (Interval.holds_iff _).mpr ⟨by omega, by omega, fun _ => ⟨by omega, by omega⟩⟩

/-- The shortest digits of a number lie in its interval. -/
theorem contains_shortestDigits (proper : (finite negative m u).Proper) (some_m : 0 < m) :
    (interval m u).contains (shortestDigits m u).1 (shortestDigits m u).2 = true :=
  Interval.contains_firstGrid 21 (contains_finest proper some_m)

end Binary64

end Leasehold

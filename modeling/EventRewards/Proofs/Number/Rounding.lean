import EventRewards.Number.Double
import Mathlib.Algebra.Order.Group.Nat
import Mathlib.Tactic.Ring

/-!
# Rounding to doubles

Rounding leaves at most 53 significant bits: the significand that is nearest has 53 bits, or is the
next power of two.  So a number that is not too large is rounded to a finite double, and each integer
of 64 bits is.
-/

namespace EventRewards

theorem spacing_eq (units : Nat) : spacing units = 2 ^ (units.log2 - 52) := by
  rw [spacing, Nat.pow_eq]

-- with the exponents set apart, nothing computes the powers
theorem unitsPerOne_eq : ∃ power, power = 1074 ∧ unitsPerOne = 2 ^ power := by
  unfold unitsPerOne
  generalize 1074 = n
  exact ⟨n, rfl, Nat.pow_eq⟩

theorem unitsLimit_eq : ∃ power, power = 2098 ∧ unitsLimit = 2 ^ power := by
  unfold unitsLimit
  generalize 2098 = n
  exact ⟨n, rfl, Nat.pow_eq⟩

/-- A significand of 53 bits, or the next power of two, makes units that a double can have. -/
theorem significand_mod_spacing {significand power : Nat} (bits : significand ≤ 2 ^ 53) :
    significand * 2 ^ power % spacing (significand * 2 ^ power) = 0 := by
  apply Nat.mod_eq_zero_of_dvd
  rw [spacing_eq]
  rcases Nat.eq_zero_or_pos significand with rfl | hpos
  · rw [Nat.zero_mul]
    exact dvd_zero _
  · have hunits : significand * 2 ^ power ≠ 0 :=
      Nat.mul_ne_zero (Nat.pos_iff_ne_zero.1 hpos) (Nat.two_pow_pos power).ne'
    rcases Nat.lt_or_eq_of_le bits with hlt | rfl
    · -- with 53 bits or less, the spacing is at most the power that the significand is taken times
      have hlog : (significand * 2 ^ power).log2 < 53 + power := by
        rw [Nat.log2_lt hunits, Nat.pow_add]
        exact Nat.mul_lt_mul_of_pos_right hlt (Nat.two_pow_pos power)
      calc
        2 ^ ((significand * 2 ^ power).log2 - 52) ∣ 2 ^ power := Nat.pow_dvd_pow 2 (by omega)
        _ ∣ significand * 2 ^ power := Nat.dvd_mul_left _ _
    · -- all is one power of two, and the spacing a smaller one
      rw [← Nat.pow_add, Nat.log2_two_pow]
      exact Nat.pow_dvd_pow 2 (by omega)

namespace Double

theorem nearestEven_le (num den : Nat) : nearestEven num den ≤ num / den + 1 := by
  rw [nearestEven]
  split
  · exact Nat.le_succ _
  · split
    · exact le_rfl
    · split
      · exact Nat.le_succ _
      · exact le_rfl

/-- What is rounded has a significand of 53 bits, and so has what it is rounded to, unless this is the
next power of two. -/
theorem nearestEven_spacing_le (num den : Nat) :
    nearestEven num (den * spacing (num / den)) ≤ 2 ^ 53 := by
  have hbits : num / den / spacing (num / den) < 2 ^ 53 := by
    have hspan : 2 ^ ((num / den).log2 + 1) ≤ 2 ^ 53 * 2 ^ ((num / den).log2 - 52) := by
      rw [← Nat.pow_add]
      exact Nat.pow_le_pow_right (by omega) (by omega)
    rw [spacing_eq]
    apply Nat.div_lt_of_lt_mul
    rw [Nat.mul_comm]
    exact Nat.lt_of_lt_of_le Nat.lt_log2_self hspan
  calc
    nearestEven num (den * spacing (num / den)) ≤ num / (den * spacing (num / den)) + 1 :=
      nearestEven_le _ _
    _ = num / den / spacing (num / den) + 1 := by rw [Nat.div_div_eq_div_mul]
    _ ≤ 2 ^ 53 := hbits

/-- Rounding does not go beyond a power of two. -/
theorem nearestUnits_le {num den power : Nat} (large : 53 ≤ power) (h : num / den < 2 ^ power) :
    nearestUnits num den ≤ 2 ^ power := by
  have hlog : (num / den).log2 < power := by
    rcases Nat.eq_zero_or_pos (num / den) with hzero | hpos
    · rw [hzero, Nat.log2_zero]
      omega
    · exact (Nat.log2_lt (Nat.pos_iff_ne_zero.1 hpos)).2 h
  calc
    nearestUnits num den = nearestEven num (den * spacing (num / den)) * spacing (num / den) := rfl
    _ ≤ 2 ^ 53 * spacing (num / den) := Nat.mul_le_mul_right _ (nearestEven_spacing_le num den)
    _ = 2 ^ (53 + ((num / den).log2 - 52)) := by rw [spacing_eq, Nat.pow_add]
    _ ≤ 2 ^ power := Nat.pow_le_pow_right (by omega) (by omega)

theorem nearestUnits_mod_spacing (num den : Nat) :
    nearestUnits num den % spacing (nearestUnits num den) = 0 := by
  have hunits : nearestUnits num den =
      nearestEven num (den * spacing (num / den)) * 2 ^ ((num / den).log2 - 52) := by
    rw [nearestUnits, spacing_eq]
  rw [hunits]
  exact significand_mod_spacing (nearestEven_spacing_le num den)

/-- What is well below the limit of doubles is rounded to a finite one. -/
theorem ofRatio_isFinite (negative : Bool) {num den power : Nat} (large : 53 ≤ power)
    (small : power < 2098) (h : num * unitsPerOne / den < 2 ^ power) :
    (ofRatio negative num den).isFinite = true := by
  have hfits : Fits (nearestUnits (num * unitsPerOne) den) := by
    refine ⟨?_, nearestUnits_mod_spacing _ _⟩
    rcases unitsLimit_eq with ⟨limit, hlimit, heq⟩
    calc
      nearestUnits (num * unitsPerOne) den ≤ 2 ^ power := nearestUnits_le large h
      _ < 2 ^ limit := Nat.pow_lt_pow_right (by omega) (by omega)
      _ = unitsLimit := heq.symm
  rw [ofRatio, ofUnits, dif_pos hfits]
  rfl

/-- An integer of 64 bits, with or without a sign, is rounded to a finite double. -/
theorem ofInt_isFinite {n : Int} (h : n.natAbs < 2 ^ 64) : (ofInt n).isFinite = true := by
  rcases unitsPerOne_eq with ⟨power, hpower, heq⟩
  have hunits : n.natAbs * unitsPerOne / 1 < 2 ^ (64 + power) := by
    rw [Nat.div_one, heq, Nat.pow_add]
    exact Nat.mul_lt_mul_of_pos_right h (Nat.two_pow_pos power)
  exact ofRatio_isFinite _ (by omega) (by omega) hunits

/-! ## Integers -/

/-- Whether a double is an integer, to the last unit.  Zero is so with either sign. -/
def IsInt (x : Double) (n : Int) : Prop :=
  ∃ negative units fits, x = .finite negative units fits ∧
    signedUnits negative units = n * unitsPerOne

theorem unitsPerOne_pos : 0 < unitsPerOne := by
  rcases unitsPerOne_eq with ⟨power, _, heq⟩
  rw [heq]
  exact Nat.two_pow_pos power

theorem signedUnits_mul (negative : Bool) (units factor : Nat) :
    signedUnits negative (units * factor) = signedUnits negative units * factor := by
  cases negative with
  | false => simp [signedUnits]
  | true => simp [signedUnits]

theorem signedUnits_natAbs (n : Int) : signedUnits (n < 0) n.natAbs = n := by
  by_cases hneg : n < 0
  · simp only [signedUnits, hneg, decide_true, if_true]
    omega
  · simp only [signedUnits, hneg, decide_false, Bool.false_eq_true, if_false]
    omega

/-- What divides without a rest is not rounded. -/
theorem nearestEven_of_dvd {num den : Nat} (pos : 0 < den) (exact : den ∣ num) :
    nearestEven num den = num / den := by
  have hrest : num % den = 0 := Nat.mod_eq_zero_of_dvd exact
  rw [nearestEven, hrest, if_pos pos]

/-- Units that a double can have are rounded to themselves. -/
theorem nearestUnits_of_exact {units : Nat} (exact : units % spacing units = 0) :
    nearestUnits units 1 = units := by
  have hdvd : spacing units ∣ units := Nat.dvd_of_mod_eq_zero exact
  have hpos : 0 < spacing units := by
    rw [spacing_eq]
    exact Nat.two_pow_pos _
  calc
    nearestUnits units 1 = nearestEven units (spacing units) * spacing units := by
      rw [nearestUnits, Nat.div_one, Nat.one_mul]
    _ = units / spacing units * spacing units := by rw [nearestEven_of_dvd hpos hdvd]
    _ = units := Nat.div_mul_cancel hdvd

/-- An integer of no more than 53 bits is a double, and is taken for that one. -/
theorem ofInt_isInt {n : Int} (h : n.natAbs < 2 ^ 53) : (ofInt n).IsInt n := by
  rcases unitsPerOne_eq with ⟨power, hpower, heq⟩
  have hexact : n.natAbs * unitsPerOne % spacing (n.natAbs * unitsPerOne) = 0 := by
    rw [heq]
    exact significand_mod_spacing h.le
  have hfits : Fits (n.natAbs * unitsPerOne) := by
    refine ⟨?_, hexact⟩
    rcases unitsLimit_eq with ⟨limit, hlimit, heq'⟩
    calc
      n.natAbs * unitsPerOne < 2 ^ 53 * 2 ^ power := by
        rw [heq]
        exact Nat.mul_lt_mul_of_pos_right h (Nat.two_pow_pos power)
      _ = 2 ^ (53 + power) := (Nat.pow_add 2 53 power).symm
      _ < 2 ^ limit := Nat.pow_lt_pow_right (by omega) (by omega)
      _ = unitsLimit := heq'.symm
  have hvalue : ofInt n = .finite (n < 0) (n.natAbs * unitsPerOne) hfits := by
    rw [ofInt, ofRatio, nearestUnits_of_exact hexact, ofUnits, dif_pos hfits]
  refine ⟨_, _, _, hvalue, ?_⟩
  rw [signedUnits_mul, signedUnits_natAbs]

/-- The fraction is dropped toward zero, whichever the sign, before the range is looked at. -/
theorem toInt64_finite (negative : Bool) (units : Nat) (fits : Fits units) :
    (finite negative units fits).toInt64 =
      Int64.ofIntClamp ((signedUnits negative units).tdiv unitsPerOne) := by
  rw [toInt64]
  cases negative with
  | false => simp only [signedUnits, Bool.false_eq_true, if_false, Int.ofNat_tdiv]
  | true => simp only [signedUnits, if_true, Int.neg_tdiv, Int.ofNat_tdiv]

end Double
end EventRewards

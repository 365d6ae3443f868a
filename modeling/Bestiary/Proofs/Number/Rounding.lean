import Mathlib.Algebra.Order.Field.Power
import Mathlib.Data.Rat.Cast.Order
import Mathlib.Tactic.FieldSimp
import Mathlib.Tactic.Linarith
import Mathlib.Tactic.Positivity
import Mathlib.Tactic.Ring
import Bestiary.Number.Shortest
/-!
# Rounding — a number near a double rounds to it

A double that is read as `± mantissa * 2 ^ exponent` is assembled from what was read (`assemble_of_read`), and every
fraction within the interval of reals that round to it is rounded to it (`ofRatio_of_near`, `ofDecimal_of_near`).
-/
namespace Bestiary.Number.Double

/-- **A mantissa and an exponent that a positive double is read as.** -/
structure Fitting (mantissa : Nat) (exponent : Int) : Prop where
  positive : 0 < mantissa
  short : mantissa < 2 ^ 53
  least : -1074 ≤ exponent
  whole : 2 ^ 52 ≤ mantissa ∨ exponent = -1074
  greatest : exponent ≤ 971

theorem read_fitting {x : Double} {negative : Bool} {mantissa : Nat} {exponent : Int}
    (read : x.read = .finite negative mantissa exponent) (positive : 0 < mantissa) : Fitting mantissa exponent := by
  unfold Double.read at read
  dsimp only at read
  have small := x.bits.toNat_lt
  simp only [Nat.pow_eq] at read
  split at read
  · split at read <;> cases read
  · split at read
    · cases read
      exact ⟨positive, by omega, by omega, .inr rfl, by omega⟩
    · cases read
      exact ⟨positive, by omega, by omega, .inl (by omega), by omega⟩

/-- **A double is put together again from what it is read as.** -/
theorem assemble_of_read {x : Double} {negative : Bool} {mantissa : Nat} {exponent : Int}
    (read : x.read = .finite negative mantissa exponent) : assemble negative mantissa exponent = x := by
  have small := x.bits.toNat_lt
  have bits (n : Nat) (same : n = x.bits.toNat) : Double.mk (.ofNat n) = x := by
    rw [same, UInt64.ofNat_toNat]
  have sign : signBits (x.bits.toNat / 2 ^ 63 == 1) = x.bits.toNat / 2 ^ 63 * 2 ^ 63 := by
    by_cases set : x.bits.toNat / 2 ^ 63 = 1
    · rw [set]
      rfl
    · have clear : x.bits.toNat / 2 ^ 63 = 0 := by omega
      rw [clear]
      rfl
  unfold Double.read at read
  unfold assemble
  simp only [Nat.pow_eq] at read ⊢
  split at read
  · split at read <;> cases read
  · split at read
    · cases read
      rw [if_pos (by omega), sign]
      exact bits _ (by omega)
    · cases read
      rw [if_neg (by omega), sign, if_neg (by omega), if_neg (by omega), if_neg (by omega)]
      exact bits _ (by omega)

/-! ## Rounding a quotient -/

/-- What is within half a unit of a whole number rounds to it, at half a unit only if it is even. -/
theorem roundQuotient_eq {num den m : Nat} (positive : 0 < den) (low : 2 * (m * den) ≤ 2 * num + den)
    (high : 2 * num ≤ 2 * (m * den) + den)
    (odd : m % 2 = 1 → 2 * (m * den) < 2 * num + den ∧ 2 * num < 2 * (m * den) + den) :
    roundQuotient num den = m := by
  have parts := Nat.div_add_mod num den
  have rest := Nat.mod_lt num positive
  have upper : m ≤ num / den + 1 := by
    by_contra beyond
    have := Nat.mul_le_mul_right den (show num / den + 2 ≤ m by omega)
    rw [Nat.add_mul, Nat.mul_comm (num / den)] at this
    omega
  have lower : num / den ≤ m := by
    by_contra under
    have := Nat.mul_le_mul_right den (show m + 1 ≤ num / den by omega)
    rw [Nat.add_mul, Nat.mul_comm (num / den)] at this
    omega
  unfold roundQuotient
  dsimp only
  rcases Nat.lt_or_ge (num / den) m with less | same
  · have next : m = num / den + 1 := by omega
    subst next
    rw [Nat.add_mul, Nat.mul_comm (num / den)] at low odd
    split
    · omega
    · split
      · rfl
      · omega
  · have next : m = num / den := by omega
    subst next
    rw [Nat.mul_comm (num / den)] at high odd
    split
    · rfl
    · split
      · omega
      · omega

/-! ## Fractions -/

theorem scale_den_pos {num den : Nat} (positive : 0 < den) (e : Int) : 0 < (scale num den e).2 := by
  unfold scale
  split
  · exact positive
  · exact Nat.mul_pos positive (Nat.pow_pos (by decide))

theorem scale_value (num den : Nat) (e : Int) :
    ((scale num den e).1 : ℚ) / (scale num den e).2 = num / den * 2 ^ e := by
  unfold scale
  split
  · rename_i forward
    obtain ⟨k, rfl⟩ := Int.eq_ofNat_of_zero_le forward
    simp [Nat.pow_eq]
    ring
  · rename_i backward
    obtain ⟨k, rfl⟩ : ∃ k : Nat, e = -k := ⟨(-e).toNat, by omega⟩
    simp [Nat.pow_eq, zpow_neg]
    field_simp

/-- **The binary order of a positive fraction**: it is at least that power of two and below the next one. -/
theorem binaryOrder_spec {num den : Nat} (hnum : 0 < num) (hden : 0 < den) :
    (2 : ℚ) ^ binaryOrder num den ≤ num / den ∧ (num : ℚ) / den < 2 ^ (binaryOrder num den + 1) := by
  have num_low : (2 : ℚ) ^ num.log2 ≤ num := by exact_mod_cast Nat.log2_self_le hnum.ne'
  have num_high : (num : ℚ) < 2 ^ (num.log2 + 1) := by exact_mod_cast Nat.lt_log2_self
  have den_low : (2 : ℚ) ^ den.log2 ≤ den := by exact_mod_cast Nat.log2_self_le hden.ne'
  have den_high : (den : ℚ) < 2 ^ (den.log2 + 1) := by exact_mod_cast Nat.lt_log2_self
  have positive : (0 : ℚ) < den := by exact_mod_cast hden
  have ratio := scale_value num den (-((num.log2 : Int) - den.log2))
  have den_pos : 0 < (scale num den (-((num.log2 : Int) - den.log2))).2 := scale_den_pos hden _
  unfold binaryOrder
  dsimp only
  generalize guess_eq : (num.log2 : Int) - den.log2 = guess at ratio den_pos ⊢
  generalize scale num den (-guess) = scaled at ratio den_pos ⊢
  have scaled_pos : (0 : ℚ) < scaled.2 := by exact_mod_cast den_pos
  have unit : (0 : ℚ) < 2 ^ guess := by positivity
  -- Whether the guess fits is read off the fraction over that power of two.
  have compare : scaled.1 < scaled.2 ↔ (num : ℚ) / den < 2 ^ guess := by
    have cast : scaled.1 < scaled.2 ↔ (scaled.1 : ℚ) / scaled.2 < 1 := by
      rw [div_lt_one scaled_pos]
      exact Nat.cast_lt.symm
    rw [cast, ratio, zpow_neg, ← div_eq_mul_inv, div_lt_one unit]
  have least : (2 : ℚ) ^ (guess - 1) ≤ num / den := by
    have split : (2 : ℚ) ^ (guess - 1) * 2 ^ (den.log2 + 1) = 2 ^ num.log2 := by
      rw [← zpow_natCast, ← zpow_natCast, ← zpow_add₀ (by norm_num)]
      congr 1
      omega
    rw [le_div_iff₀ positive]
    calc (2 : ℚ) ^ (guess - 1) * den ≤ 2 ^ (guess - 1) * 2 ^ (den.log2 + 1) := by gcongr
      _ = 2 ^ num.log2 := split
      _ ≤ num := num_low
  have greatest : (num : ℚ) / den < 2 ^ (guess + 1) := by
    have split : (2 : ℚ) ^ (guess + 1) * 2 ^ den.log2 = 2 ^ (num.log2 + 1) := by
      rw [← zpow_natCast, ← zpow_natCast, ← zpow_add₀ (by norm_num)]
      congr 1
      omega
    rw [div_lt_iff₀ positive]
    calc (num : ℚ) < 2 ^ (num.log2 + 1) := num_high
      _ = 2 ^ (guess + 1) * 2 ^ den.log2 := split.symm
      _ ≤ 2 ^ (guess + 1) * den := by gcongr
  split
  · rename_i less
    rw [sub_add_cancel]
    exact ⟨least, compare.1 less⟩
  · rename_i more
    exact ⟨not_lt.1 fun less => more (compare.2 less), greatest⟩

theorem lt_of_zpow_le_of_lt {d e : Int} {w : ℚ} (low : (2 : ℚ) ^ d ≤ w) (high : w < 2 ^ e) : d < e :=
  (zpow_lt_zpow_iff_right₀ (by norm_num)).1 (low.trans_lt high)

/-! ## Numbers near a double -/

/-- **A fraction is near a double**: within the interval of reals that round to it, at its ends only if the mantissa is
even. -/
structure Near (mantissa : Nat) (exponent : Int) (w : ℚ) : Prop where
  low : ((interval mantissa exponent).1 : ℚ) / 4 * 2 ^ exponent ≤ w
  high : w ≤ ((interval mantissa exponent).2.2 : ℚ) / 4 * 2 ^ exponent
  odd : mantissa % 2 = 1 → ((interval mantissa exponent).1 : ℚ) / 4 * 2 ^ exponent < w ∧
    w < ((interval mantissa exponent).2.2 : ℚ) / 4 * 2 ^ exponent

theorem roundQuotient_of_near {num den m : Nat} (positive : 0 < den) (low : (m : ℚ) - 1 / 2 ≤ num / den)
    (high : (num : ℚ) / den ≤ m + 1 / 2)
    (odd : m % 2 = 1 → (m : ℚ) - 1 / 2 < num / den ∧ (num : ℚ) / den < m + 1 / 2) : roundQuotient num den = m := by
  have unit : (0 : ℚ) < den := by exact_mod_cast positive
  rw [le_div_iff₀ unit] at low
  rw [div_le_iff₀ unit] at high
  rw [lt_div_iff₀ unit, div_lt_iff₀ unit] at odd
  refine roundQuotient_eq positive ?_ ?_ fun h => ⟨?_, ?_⟩
  · have : (2 : ℚ) * (m * den) ≤ 2 * num + den := by linarith
    exact_mod_cast this
  · have : (2 : ℚ) * num ≤ 2 * (m * den) + den := by linarith
    exact_mod_cast this
  · have : (2 : ℚ) * (m * den) < 2 * num + den := by linarith [(odd h).1]
    exact_mod_cast this
  · have : (2 : ℚ) * num < 2 * (m * den) + den := by linarith [(odd h).2]
    exact_mod_cast this

/-- The interval, in units of the mantissa. -/
theorem near_iff {mantissa : Nat} {exponent : Int} (positive : 0 < mantissa) (w : ℚ) :
    Near mantissa exponent w ↔
      ((mantissa : ℚ) - (if mantissa = 2 ^ 52 ∧ -1074 < exponent then 1 / 4 else 1 / 2) ≤ w * 2 ^ (-exponent) ∧
        w * 2 ^ (-exponent) ≤ mantissa + 1 / 2 ∧
        (mantissa % 2 = 1 →
          (mantissa : ℚ) - 1 / 2 < w * 2 ^ (-exponent) ∧ w * 2 ^ (-exponent) < mantissa + 1 / 2)) := by
  have unit : (0 : ℚ) < 2 ^ exponent := by positivity
  have le (q : ℚ) : q * 2 ^ exponent ≤ w ↔ q ≤ w * 2 ^ (-exponent) := by
    rw [zpow_neg, ← div_eq_mul_inv, le_div_iff₀ unit]
  have ge (q : ℚ) : w ≤ q * 2 ^ exponent ↔ w * 2 ^ (-exponent) ≤ q := by
    rw [zpow_neg, ← div_eq_mul_inv, div_le_iff₀ unit]
  have lt (q : ℚ) : q * 2 ^ exponent < w ↔ q < w * 2 ^ (-exponent) := by
    rw [zpow_neg, ← div_eq_mul_inv, lt_div_iff₀ unit]
  have gt (q : ℚ) : w < q * 2 ^ exponent ↔ w * 2 ^ (-exponent) < q := by
    rw [zpow_neg, ← div_eq_mul_inv, div_lt_iff₀ unit]
  have below : ((interval mantissa exponent).1 : ℚ) / 4 =
      mantissa - (if mantissa = 2 ^ 52 ∧ -1074 < exponent then 1 / 4 else 1 / 2) := by
    simp only [interval, Nat.pow_eq]
    split
    · rw [Nat.cast_sub (by omega)]
      push_cast
      ring
    · rw [Nat.cast_sub (by omega)]
      push_cast
      ring
  have above : ((interval mantissa exponent).2.2 : ℚ) / 4 = mantissa + 1 / 2 := by
    simp only [interval]
    push_cast
    ring
  constructor
  · rintro ⟨low, high, odd⟩
    rw [below, le] at low
    rw [above, ge] at high
    refine ⟨low, high, fun h => ?_⟩
    have ends := odd h
    rw [below, above, lt, gt, if_neg (by omega)] at ends
    exact ends
  · rintro ⟨low, high, odd⟩
    refine ⟨by rwa [below, le], by rwa [above, ge], fun h => ?_⟩
    rw [below, above, lt, gt, if_neg (by omega)]
    exact odd h

/-- What is near a double is at least half its unit and has no more bits than a mantissa. -/
theorem Near.bounds {mantissa : Nat} {exponent : Int} {w : ℚ} (fits : Fitting mantissa exponent)
    (near : Near mantissa exponent w) : 1 / 2 ≤ w * 2 ^ (-exponent) ∧ w * 2 ^ (-exponent) < 2 ^ 53 := by
  obtain ⟨low, high, -⟩ := (near_iff fits.positive w).1 near
  have positive : (1 : ℚ) ≤ mantissa := by exact_mod_cast fits.positive
  have short : (mantissa : ℚ) + 1 ≤ 2 ^ 53 := by exact_mod_cast fits.short
  refine ⟨le_trans ?_ low, lt_of_le_of_lt high (by linarith)⟩
  split <;> linarith

/-- A mantissa of one bit too many carries over. -/
theorem assemble_carry (negative : Bool) (exponent : Int) :
    assemble negative (2 ^ 53) exponent = assemble negative (2 ^ 52) (exponent + 1) := by
  simp [assemble]

/-- A fraction is rounded in the units of its exponent. -/
theorem ofRatio_of_exponent (negative : Bool) {num den m : Nat} {e : Int} (hnum : 0 < num) (hden : 0 < den)
    (same : max (binaryOrder num den - 52) (-1074) = e) (low : (m : ℚ) - 1 / 2 ≤ num / den * 2 ^ (-e))
    (high : (num : ℚ) / den * 2 ^ (-e) ≤ m + 1 / 2)
    (odd : m % 2 = 1 → (m : ℚ) - 1 / 2 < num / den * 2 ^ (-e) ∧ (num : ℚ) / den * 2 ^ (-e) < m + 1 / 2) :
    ofRatio negative num den = assemble negative m e := by
  rw [← scale_value] at low high odd
  simp only [ofRatio, if_neg hnum.ne', same, roundQuotient_of_near (scale_den_pos hden _) low high odd]

theorem mul_zpow_cancel (w : ℚ) (e : Int) : w * 2 ^ (-e) * 2 ^ e = w := by
  rw [mul_assoc, ← zpow_add₀ (by norm_num), neg_add_cancel, zpow_zero, mul_one]

theorem zpow_le_iff (w : ℚ) (e : Int) (n : Nat) : (2 : ℚ) ^ (e + n) ≤ w ↔ 2 ^ n ≤ w * 2 ^ (-e) := by
  have unit : (0 : ℚ) < 2 ^ e := by positivity
  rw [zpow_add₀ (by norm_num), zpow_natCast, zpow_neg, ← div_eq_mul_inv, le_div_iff₀ unit, mul_comm]

theorem lt_zpow_iff (w : ℚ) (e : Int) (n : Nat) : w < (2 : ℚ) ^ (e + n) ↔ w * 2 ^ (-e) < 2 ^ n := by
  rw [← not_le, ← not_le, zpow_le_iff]

section Ratio

variable (negative : Bool) {mantissa num den : Nat} {exponent : Int} (fits : Fitting mantissa exponent) (hden : 0 < den)
  (near : Near mantissa exponent (num / den))
include fits near

theorem Near.num_pos : 0 < num := by
  have half := (near.bounds fits).1
  rcases Nat.eq_zero_or_pos num with rfl | h
  · norm_num at half
  · exact h

include hden

theorem Near.order_lt {n : Nat} (under : (num : ℚ) / den * 2 ^ (-exponent) < 2 ^ n) :
    binaryOrder num den < exponent + n :=
  lt_of_zpow_le_of_lt (binaryOrder_spec (near.num_pos fits) hden).1 ((lt_zpow_iff _ _ _).2 under)

theorem Near.le_order {n : Nat} (beyond : 2 ^ n ≤ (num : ℚ) / den * 2 ^ (-exponent)) :
    exponent + n ≤ binaryOrder num den :=
  Int.lt_add_one_iff.1 <|
    lt_of_zpow_le_of_lt ((zpow_le_iff _ _ _).2 beyond) (binaryOrder_spec (near.num_pos fits) hden).2

/-- From a power of two on, and where there is no lesser exponent, a fraction is rounded in the units of the double. -/
theorem ofRatio_of_near_above
    (above : 2 ^ 52 ≤ (num : ℚ) / den * 2 ^ (-exponent) ∨ exponent = -1074) :
    ofRatio negative num den = assemble negative mantissa exponent := by
  obtain ⟨low, high, odd⟩ := (near_iff fits.positive _).1 near
  have small := near.order_lt fits hden (near.bounds fits).2
  have least := fits.least
  have same : max (binaryOrder num den - 52) (-1074) = exponent := by
    rcases above with normal | least
    · have := near.le_order fits hden normal
      omega
    · omega
  refine ofRatio_of_exponent negative (near.num_pos fits) hden same (le_trans ?_ low) high odd
  split <;> linarith

/-- Below a power of two the units are half as large, and the quotient carries over. -/
theorem ofRatio_of_near_below (below : (num : ℚ) / den * 2 ^ (-exponent) < 2 ^ 52) (more : exponent ≠ -1074) :
    ofRatio negative num den = assemble negative mantissa exponent := by
  obtain ⟨low, high, odd⟩ := (near_iff fits.positive _).1 near
  have least := fits.least
  have power : mantissa = 2 ^ 52 := by
    rcases Nat.eq_or_lt_of_le (fits.whole.resolve_right more) with same | larger
    · exact same.symm
    · have : (2 : ℚ) ^ 52 + 1 ≤ mantissa := by exact_mod_cast larger
      rw [if_neg (by omega)] at low
      linarith
  have cast : (mantissa : ℚ) = 2 ^ 52 := by exact_mod_cast power
  rw [if_pos ⟨power, by omega⟩, cast] at low
  have twice : (num : ℚ) / den * 2 ^ (-(exponent - 1)) = 2 * (num / den * 2 ^ (-exponent)) := by
    rw [show -(exponent - 1) = -exponent + 1 by ring, zpow_add₀ (by norm_num), zpow_one]
    ring
  have same : max (binaryOrder num den - 52) (-1074) = exponent - 1 := by
    have := near.order_lt fits hden below
    have beyond : 2 ^ 51 ≤ (num : ℚ) / den * 2 ^ (-exponent) := by linarith
    have := near.le_order fits hden beyond
    omega
  rw [power, show exponent = exponent - 1 + 1 by ring, ← assemble_carry]
  have double : ((2 ^ 53 : Nat) : ℚ) = 2 * 2 ^ 52 := by norm_num
  refine ofRatio_of_exponent negative (near.num_pos fits) hden same ?_ ?_ fun odd => absurd odd (by norm_num)
  · rw [twice, double]
    linarith
  · rw [twice, double]
    linarith

/-- **A fraction near a double rounds to it.** -/
theorem ofRatio_of_near : ofRatio negative num den = assemble negative mantissa exponent := by
  by_cases above : 2 ^ 52 ≤ (num : ℚ) / den * 2 ^ (-exponent) ∨ exponent = -1074
  · exact ofRatio_of_near_above negative fits hden near above
  · rw [not_or, not_le] at above
    exact ofRatio_of_near_below negative fits hden near above.1 above.2

end Ratio

section Decimal

variable (negative : Bool) {mantissa digits : Nat} {exponent power : Int} (fits : Fitting mantissa exponent)
  (near : Near mantissa exponent (digits * 10 ^ power))
include fits near

theorem Near.digits_pos : (1 : ℚ) ≤ digits := by
  have half := (near.bounds fits).1
  rcases Nat.eq_zero_or_pos digits with rfl | h
  · norm_num at half
  · exact_mod_cast h

/-- A decimal number near a double has no power of ten that is as large as an infinite one's. -/
theorem Near.power_le : power ≤ 400 := by
  by_contra many
  have small : (digits : ℚ) * 10 ^ power < 2 ^ (exponent + 53) := (lt_zpow_iff _ _ 53).2 (near.bounds fits).2
  have large : (2 : ℚ) ^ (3 * power) ≤ digits * 10 ^ power := by
    calc (2 : ℚ) ^ (3 * power) = 1 * 8 ^ power := by
          rw [zpow_mul]
          norm_num
      _ ≤ digits * 10 ^ power :=
        mul_le_mul (near.digits_pos fits) (zpow_le_zpow_left₀ (by omega) (by norm_num) (by norm_num)) (by positivity)
          (by positivity)
  have := lt_of_zpow_le_of_lt large small
  have := fits.greatest
  omega

/-- A decimal number near a double is not as small as one that counts as zero. -/
theorem Near.le_power : -1200 ≤ power + digits.log2 := by
  by_contra far
  have bit : (digits : ℚ) < 2 ^ ((digits.log2 : Int) + 1) := by exact_mod_cast Nat.lt_log2_self
  have ten : (10 : ℚ) ^ power ≤ 2 ^ power := by
    obtain ⟨k, rfl⟩ : ∃ k : Nat, power = -k := ⟨(-power).toNat, by omega⟩
    rw [zpow_neg, zpow_neg, zpow_natCast, zpow_natCast]
    gcongr
    norm_num
  have small : (digits : ℚ) * 10 ^ power < 2 ^ ((digits.log2 : Int) + 1 + power) := by
    calc (digits : ℚ) * 10 ^ power < 2 ^ ((digits.log2 : Int) + 1) * 10 ^ power :=
          mul_lt_mul_of_pos_right bit (by positivity)
      _ ≤ 2 ^ ((digits.log2 : Int) + 1) * 2 ^ power := mul_le_mul_of_nonneg_left ten (by positivity)
      _ = 2 ^ ((digits.log2 : Int) + 1 + power) := (zpow_add₀ (by norm_num) _ _).symm
  have large : (2 : ℚ) ^ (exponent - 1) ≤ digits * 10 ^ power := by
    calc (2 : ℚ) ^ (exponent - 1) = 1 / 2 * 2 ^ exponent := by
          rw [zpow_sub_one₀ (by norm_num)]
          ring
      _ ≤ digits * 10 ^ power * 2 ^ (-exponent) * 2 ^ exponent :=
        mul_le_mul_of_nonneg_right (near.bounds fits).1 (by positivity)
      _ = digits * 10 ^ power := mul_zpow_cancel _ _
  have := lt_of_zpow_le_of_lt large small
  have := fits.least
  omega

/-- **A decimal number near a double rounds to it**: none of those is beyond the exponents that are computed with. -/
theorem ofDecimal_of_near : ofDecimal negative digits power = assemble negative mantissa exponent := by
  have some := near.digits_pos fits
  have most := near.power_le fits
  have least := near.le_power fits
  rw [ofDecimal, if_neg (by rintro rfl; norm_num at some), if_neg (by omega), if_neg (by omega)]
  split
  · rename_i forward
    obtain ⟨k, rfl⟩ := Int.eq_ofNat_of_zero_le forward
    refine ofRatio_of_near negative fits Nat.one_pos ?_
    convert near using 1
    simp [Nat.pow_eq]
  · rename_i backward
    obtain ⟨k, rfl⟩ : ∃ k : Nat, power = -k := ⟨(-power).toNat, by omega⟩
    refine ofRatio_of_near negative fits (by simp [Nat.pow_eq]) ?_
    convert near using 1
    simp [Nat.pow_eq, zpow_neg, div_eq_mul_inv]

end Decimal

end Bestiary.Number.Double

import Bestiary.Proofs.Number.Rounding
/-!
# Shortest — the shortest digits of a double are near it

Digits are taken only from inside the interval of reals that round to the double (`gridPoint?_near`).  With seventeen
digits the grid is finer than the interval is wide, so there are always some (`gridPoint?_isSome`).
-/
namespace Bestiary.Number

open Double

/-! ## Decimal orders -/

/-- A power of ten is at most a power of two if its exponent is short of the other one's by the logarithm. -/
theorem ten_zpow_le {k b : Int} (short : 100000 * (k + 1) ≤ 30103 * b) (low : -1100 ≤ b) (high : b ≤ 1100) :
    (10 : ℚ) ^ k ≤ 2 ^ b := by
  rcases le_or_gt 0 k with up | down
  · obtain ⟨n, rfl⟩ := Int.eq_ofNat_of_zero_le up
    obtain ⟨m, rfl⟩ : ∃ m : Nat, b = m := ⟨b.toNat, by omega⟩
    have power : (10 ^ n) ^ 59 ≤ (2 ^ m) ^ 59 := by
      calc (10 ^ n) ^ 59 = (10 ^ 59) ^ n := pow_right_comm 10 n 59
        _ ≤ (2 ^ 196) ^ n := Nat.pow_le_pow_left (by norm_num) n
        _ = 2 ^ (196 * n) := (pow_mul 2 196 n).symm
        _ ≤ 2 ^ (m * 59) := Nat.pow_le_pow_right (by norm_num) (by omega)
        _ = (2 ^ m) ^ 59 := pow_mul 2 m 59
    exact_mod_cast (Nat.pow_le_pow_iff_left (by norm_num)).1 power
  · obtain ⟨n, rfl⟩ : ∃ n : Nat, k = -n := ⟨(-k).toNat, by omega⟩
    rcases le_or_gt 0 b with above | below
    · calc (10 : ℚ) ^ (-n : Int) ≤ 1 := zpow_le_one_of_nonpos₀ (by norm_num) (by omega)
        _ ≤ 2 ^ b := one_le_zpow₀ (by norm_num) above
    · obtain ⟨m, rfl⟩ : ∃ m : Nat, b = -m := ⟨(-b).toNat, by omega⟩
      have power : (2 ^ m) ^ 28 ≤ (10 ^ n) ^ 28 := by
        calc (2 ^ m) ^ 28 = 2 ^ (m * 28) := (pow_mul 2 m 28).symm
          _ ≤ 2 ^ (93 * n) := Nat.pow_le_pow_right (by norm_num) (by omega)
          _ = (2 ^ 93) ^ n := pow_mul 2 93 n
          _ ≤ (10 ^ 28) ^ n := Nat.pow_le_pow_left (by norm_num) n
          _ = (10 ^ n) ^ 28 := pow_right_comm 10 28 n
      have base : 2 ^ m ≤ 10 ^ n := (Nat.pow_le_pow_iff_left (by norm_num)).1 power
      rw [zpow_neg, zpow_neg, zpow_natCast, zpow_natCast]
      gcongr
      exact_mod_cast base

/-- **The power of ten of the decimal order is at most the number.** -/
theorem decimalOrder_le {num den : Nat} (hnum : 0 < num) (hden : 0 < den) (low : -1100 ≤ binaryOrder num den)
    (high : binaryOrder num den ≤ 1100) : (10 : ℚ) ^ decimalOrder num den ≤ num / den := by
  have positive : (0 : ℚ) < den := by exact_mod_cast hden
  unfold decimalOrder
  extract_lets guess atMost
  have tested (e : Int) (h : atMost e = true) : (10 : ℚ) ^ e ≤ num / den := by
    simp only [atMost] at h
    split at h <;> rename_i sign <;> rw [decide_eq_true_eq] at h
    · obtain ⟨k, rfl⟩ := Int.eq_ofNat_of_zero_le sign
      rw [le_div_iff₀ positive]
      exact_mod_cast h
    · obtain ⟨k, rfl⟩ : ∃ k : Nat, e = -k := ⟨(-e).toNat, by omega⟩
      rw [neg_neg, Int.toNat_natCast] at h
      have cast : (den : ℚ) ≤ num * 10 ^ k := by exact_mod_cast h
      rw [le_div_iff₀ positive, zpow_neg, zpow_natCast, inv_mul_le_iff₀ (by positivity), mul_comm]
      exact cast
  split
  · exact tested _ ‹_›
  · split
    · exact tested _ ‹_›
    · exact (ten_zpow_le (by omega) low high).trans (binaryOrder_spec hnum hden).1

namespace Double

/-! ## Points of a grid -/

/-- The multiple of a unit that is inside an interval and nearest to a number. -/
def neighbour? (even : Bool) (low mid high unit : Nat) : Option Nat :=
  let inside (n : Nat) : Bool :=
    if even then low ≤ n * unit && n * unit ≤ high else low < n * unit && n * unit < high
  match inside (mid / unit), inside (mid / unit + 1) with
  | true, true =>
    match compare (mid - mid / unit * unit) ((mid / unit + 1) * unit - mid) with
    | .lt => some (mid / unit)
    | .eq => some (if mid / unit % 2 = 0 then mid / unit else mid / unit + 1)
    | .gt => some (mid / unit + 1)
  | true, false => some (mid / unit)
  | false, true => some (mid / unit + 1)
  | false, false => none

theorem neighbour?_inside {even : Bool} {low mid high unit n : Nat}
    (found : neighbour? even low mid high unit = some n) :
    if even then low ≤ n * unit ∧ n * unit ≤ high else low < n * unit ∧ n * unit < high := by
  unfold neighbour? at found
  extract_lets inside at found
  have inside_iff : inside n = true ↔
      if even then low ≤ n * unit ∧ n * unit ≤ high else low < n * unit ∧ n * unit < high := by
    cases even <;> simp [inside]
  rw [← inside_iff]
  split at found
  · split at found
    · cases found
      assumption
    · split at found <;> cases found <;> assumption
    · cases found
      assumption
  · cases found
    assumption
  · cases found
    assumption
  · cases found

/-- An interval that is wider than the unit has a multiple of it next to the number. -/
theorem neighbour?_isSome {even : Bool} {low mid high unit : Nat} (below : low ≤ mid) (above : mid < high)
    (wide : low + unit < high) (positive : 0 < unit) : (neighbour? even low mid high unit).isSome := by
  have down : mid / unit * unit ≤ mid := Nat.div_mul_le_self mid unit
  have up : mid < mid / unit * unit + unit := Nat.lt_div_mul_add positive
  unfold neighbour?
  extract_lets inside
  have near : inside (mid / unit) = true ∨ inside (mid / unit + 1) = true := by
    cases even <;> simp only [inside, Nat.add_mul, Nat.one_mul, Bool.and_eq_true, decide_eq_true_eq, if_true, if_false,
      Bool.false_eq_true] <;> omega
  split
  · split <;> rfl
  · rfl
  · rfl
  · simp_all

/-- So many quarters of the unit of a mantissa, as a numerator over the unit of the grid. -/
def gridNum (exponent grid : Int) (quarters : Nat) : Nat :=
  quarters * (scale 1 1 (exponent - 2)).1 * (if grid < 0 then Nat.pow 10 (-grid).toNat else 1)

/-- The unit of a grid. -/
def gridUnit (exponent grid : Int) : Nat :=
  (scale 1 1 (exponent - 2)).2 * (if 0 ≤ grid then Nat.pow 10 grid.toNat else 1)

theorem gridPoint?_eq (mantissa : Nat) (exponent grid : Int) :
    gridPoint? mantissa exponent grid =
      neighbour? (mantissa % 2 == 0) (gridNum exponent grid (interval mantissa exponent).1)
        (gridNum exponent grid (interval mantissa exponent).2.1)
        (gridNum exponent grid (interval mantissa exponent).2.2) (gridUnit exponent grid) := by
  simp only [gridPoint?, neighbour?, beq_iff_eq]
  rfl

theorem gridUnit_pos (exponent grid : Int) : 0 < gridUnit exponent grid := by
  refine Nat.mul_pos (scale_den_pos Nat.one_pos _) ?_
  split
  · exact Nat.pow_pos (by decide)
  · exact Nat.one_pos

theorem gridNum_value (exponent grid : Int) (quarters : Nat) :
    (gridNum exponent grid quarters : ℚ) = quarters / 4 * 2 ^ exponent / 10 ^ grid * gridUnit exponent grid := by
  have positive : (0 : ℚ) < (scale 1 1 (exponent - 2)).2 := by exact_mod_cast scale_den_pos Nat.one_pos _
  have ratio := scale_value 1 1 (exponent - 2)
  rw [div_eq_iff positive.ne', zpow_sub₀ (by norm_num)] at ratio
  unfold gridNum gridUnit
  push_cast
  rw [ratio]
  rcases lt_or_ge grid 0 with neg | nonneg
  · obtain ⟨k, rfl⟩ : ∃ k : Nat, grid = -k := ⟨(-grid).toNat, by omega⟩
    rw [if_pos neg, if_neg (by omega)]
    simp [Nat.pow_eq]
    ring
  · obtain ⟨k, rfl⟩ := Int.eq_ofNat_of_zero_le nonneg
    rw [if_neg (by omega), if_pos nonneg]
    simp [Nat.pow_eq]
    field_simp
    norm_num

theorem gridNum_le_iff (exponent grid : Int) (quarters n : Nat) :
    gridNum exponent grid quarters ≤ n * gridUnit exponent grid ↔
      (quarters : ℚ) / 4 * 2 ^ exponent ≤ n * 10 ^ grid := by
  have positive : (0 : ℚ) < gridUnit exponent grid := by exact_mod_cast gridUnit_pos exponent grid
  rw [← Nat.cast_le (α := ℚ), gridNum_value, Nat.cast_mul, mul_le_mul_iff_left₀ positive, div_le_iff₀ (by positivity)]

theorem le_gridNum_iff (exponent grid : Int) (quarters n : Nat) :
    n * gridUnit exponent grid ≤ gridNum exponent grid quarters ↔
      (n : ℚ) * 10 ^ grid ≤ quarters / 4 * 2 ^ exponent := by
  have positive : (0 : ℚ) < gridUnit exponent grid := by exact_mod_cast gridUnit_pos exponent grid
  rw [← Nat.cast_le (α := ℚ), gridNum_value, Nat.cast_mul, mul_le_mul_iff_left₀ positive, le_div_iff₀ (by positivity)]

/-- **The digits that are taken from a grid are near the double.** -/
theorem gridPoint?_near {mantissa digits : Nat} {exponent grid : Int}
    (found : gridPoint? mantissa exponent grid = some digits) : Near mantissa exponent (digits * 10 ^ grid) := by
  rw [gridPoint?_eq] at found
  have inside := neighbour?_inside found
  split at inside <;> rename_i even <;> rw [beq_iff_eq] at even
  · rw [gridNum_le_iff, le_gridNum_iff] at inside
    exact ⟨inside.1, inside.2, fun odd => by omega⟩
  · rw [← not_le, ← not_le, gridNum_le_iff, le_gridNum_iff, not_le, not_le] at inside
    exact ⟨inside.1.le, inside.2.le, fun _ => inside⟩

theorem gridNum_mono (exponent grid : Int) {few more : Nat} (least : few ≤ more) :
    gridNum exponent grid few ≤ gridNum exponent grid more :=
  Nat.mul_le_mul_right _ (Nat.mul_le_mul_right _ least)

theorem gridNum_strictMono (exponent grid : Int) {few more : Nat} (less : few < more) :
    gridNum exponent grid few < gridNum exponent grid more := by
  have unit : (0 : ℚ) < gridUnit exponent grid := by exact_mod_cast gridUnit_pos exponent grid
  rw [← Nat.cast_lt (α := ℚ), gridNum_value, gridNum_value]
  gcongr

/-- The interval of a double is as wide as a unit of its mantissa, or by a quarter less above a power of two. -/
theorem interval_width {mantissa : Nat} (positive : 0 < mantissa) (exponent : Int) :
    ((interval mantissa exponent).2.2 / 4 - (interval mantissa exponent).1 / 4 : ℚ) =
      if mantissa = 2 ^ 52 ∧ -1074 < exponent then 3 / 4 else 1 := by
  simp only [interval, Nat.pow_eq]
  split <;> rw [Nat.cast_sub (by omega)] <;> push_cast <;> ring

/-- **A grid of seventeen digits has a point near the double.** -/
theorem gridPoint?_isSome {mantissa : Nat} {exponent grid : Int} (fits : Fitting mantissa exponent)
    (fine : (10 : ℚ) ^ (grid + 16) ≤ mantissa * 2 ^ exponent) : (gridPoint? mantissa exponent grid).isSome := by
  have unit : (0 : ℚ) < gridUnit exponent grid := by exact_mod_cast gridUnit_pos exponent grid
  have short : (mantissa : ℚ) + 1 ≤ 2 ^ 53 := by exact_mod_cast fits.short
  have positive := fits.positive
  have spacing : (10 : ℚ) ^ grid * 10 ^ 16 ≤ mantissa * 2 ^ exponent := by
    rwa [← zpow_natCast, ← zpow_add₀ (by norm_num)]
  have ordered : (interval mantissa exponent).1 ≤ (interval mantissa exponent).2.1 ∧
      (interval mantissa exponent).2.1 < (interval mantissa exponent).2.2 := by
    simp only [interval]
    omega
  -- A mantissa has fewer than seventeen digits, so the unit of the grid is less than that of the mantissa.
  have width : (10 : ℚ) ^ grid <
      ((interval mantissa exponent).2.2 / 4 - (interval mantissa exponent).1 / 4 : ℚ) * 2 ^ exponent := by
    have powers : (0 : ℚ) < 2 ^ exponent := by positivity
    rw [interval_width positive]
    split
    · rename_i power
      rw [power.1] at spacing
      push_cast at spacing
      nlinarith
    · nlinarith
  have wide : gridNum exponent grid (interval mantissa exponent).1 + gridUnit exponent grid <
      gridNum exponent grid (interval mantissa exponent).2.2 := by
    rw [← Nat.cast_lt (α := ℚ), Nat.cast_add, gridNum_value, gridNum_value, ← add_one_mul]
    refine mul_lt_mul_of_pos_right ?_ unit
    rw [← lt_sub_iff_add_lt', ← sub_div, ← sub_mul, one_lt_div (by positivity)]
    exact width
  rw [gridPoint?_eq]
  exact neighbour?_isSome (gridNum_mono exponent grid ordered.1) (gridNum_strictMono exponent grid ordered.2) wide
    (gridUnit_pos exponent grid)

/-- **The decimal order of a double is that of a power of ten it reaches.** -/
theorem decimalOrder_scale_le {mantissa : Nat} {exponent : Int} (fits : Fitting mantissa exponent) :
    (10 : ℚ) ^ decimalOrder (scale mantissa 1 exponent).1 (scale mantissa 1 exponent).2 ≤ mantissa * 2 ^ exponent := by
  have value : ((scale mantissa 1 exponent).1 : ℚ) / (scale mantissa 1 exponent).2 = mantissa * 2 ^ exponent := by
    simpa using scale_value mantissa 1 exponent
  have hden : 0 < (scale mantissa 1 exponent).2 := scale_den_pos Nat.one_pos exponent
  generalize scale mantissa 1 exponent = scaled at value hden ⊢
  have mantissa_pos : (1 : ℚ) ≤ mantissa := by exact_mod_cast fits.positive
  have hnum : 0 < scaled.1 := by
    have : (0 : ℚ) < scaled.1 / scaled.2 := by
      rw [value]
      positivity
    rcases Nat.eq_zero_or_pos scaled.1 with zero | h
    · rw [zero] at this
      norm_num at this
    · exact h
  obtain ⟨least, greatest⟩ := binaryOrder_spec hnum hden
  rw [value] at least greatest
  have low : exponent < binaryOrder scaled.1 scaled.2 + 1 :=
    lt_of_zpow_le_of_lt (le_mul_of_one_le_left (by positivity) mantissa_pos) greatest
  have high : binaryOrder scaled.1 scaled.2 < exponent + 53 := by
    refine lt_of_zpow_le_of_lt least ?_
    rw [zpow_add₀ (by norm_num), mul_comm]
    exact mul_lt_mul_of_pos_left (by exact_mod_cast fits.short) (by positivity)
  have bounds := fits.least
  have := fits.greatest
  exact value ▸ decimalOrder_le hnum hden (by omega) (by omega)

/-- **The shortest digits of a double are near it.** -/
theorem shortest_near {mantissa : Nat} {exponent : Int} (fits : Fitting mantissa exponent) :
    Near mantissa exponent ((shortest mantissa exponent).digits * 10 ^ (shortest mantissa exponent).exponent) := by
  unfold shortest
  extract_lets scaled order found
  have reached : (10 : ℚ) ^ order ≤ mantissa * 2 ^ exponent := decimalOrder_scale_le fits
  have shown : found.isSome := by
    have last : (gridPoint? mantissa exponent (order - (16 : Nat))).isSome :=
      gridPoint?_isSome fits (by rwa [Nat.cast_ofNat, sub_add_cancel])
    rw [List.findSome?_isSome_iff]
    exact ⟨16, by simp, by simpa using last⟩
  obtain ⟨decimal, eq⟩ := Option.isSome_iff_exists.1 shown
  rw [eq, Option.getD_some]
  obtain ⟨count, -, given⟩ := List.exists_of_findSome?_eq_some eq
  obtain ⟨digits, point, rfl⟩ := Option.map_eq_some_iff.1 given
  exact gridPoint?_near point

end Double

end Bestiary.Number

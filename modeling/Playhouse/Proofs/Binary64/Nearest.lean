import Mathlib
import Playhouse.Binary64.Basic

/-!
# The numbers that round to a magnitude

A magnitude is the nearest one for the numbers between half a step below its value and half a step
above it (`Rounds`). The ends of this interval belong to it if the significand is even, and the step
below a power of two is only half as long. `nearestMagnitude_eq` says that a quotient in the
interval is rounded to the magnitude, and `rounds_value` that the value itself lies in it.
-/

namespace Playhouse.Binary64

variable {bits num den : ℕ}

/-! ## Magnitudes -/

theorem scale_mul_add_significand (bits : ℕ) : scale bits * binade + significand bits = bits := by
  unfold scale significand binade
  split_ifs with small
  · omega
  · omega

theorem significand_lt (bits : ℕ) : significand bits < 2 * binade := by
  unfold significand binade
  split_ifs <;> omega

theorem binade_le_significand (normal : 0 < scale bits) : binade ≤ significand bits := by
  unfold scale significand binade at *
  split_ifs <;> omega

theorem significand_pos (positive : 0 < bits) : 0 < significand bits := by
  unfold significand binade
  split_ifs <;> omega

/-- The value of a finite magnitude. -/
def value (bits : ℕ) : ℚ :=
  significand bits * 2 ^ exponent bits

/-- A quarter of the step from a magnitude to the next one. -/
def quarter (bits : ℕ) : ℚ :=
  2 ^ (exponent bits - 2)

/-- How many quarters below a magnitude its rounding interval begins. -/
def below (bits : ℕ) : ℕ :=
  if significand bits = binade ∧ 0 < scale bits then 1 else 2

/-- The number lies in the rounding interval of a magnitude. -/
structure Rounds (q : ℚ) (bits : ℕ) : Prop where
  low : (4 * significand bits - below bits) * quarter bits ≤ q
  high : q ≤ (4 * significand bits + 2) * quarter bits
  odd : significand bits % 2 = 1 →
    (4 * significand bits - below bits) * quarter bits < q ∧
      q < (4 * significand bits + 2) * quarter bits

theorem quarter_pos (bits : ℕ) : 0 < quarter bits := by
  unfold quarter
  positivity

theorem one_le_below (bits : ℕ) : 1 ≤ below bits ∧ below bits ≤ 2 := by
  unfold below
  split_ifs <;> omega

theorem four_mul_quarter (bits : ℕ) : 4 * quarter bits = 2 ^ exponent bits := by
  unfold quarter
  rw [zpow_sub₀ two_ne_zero]
  norm_num
  ring

theorem two_mul_quarter (bits : ℕ) : 2 * quarter bits = 2 ^ (exponent bits - 1) := by
  rw [zpow_sub₀ two_ne_zero, ← four_mul_quarter]
  norm_num
  ring

theorem two_pow_add_exponent (k : ℤ) (bits : ℕ) :
    (2 : ℚ) ^ (k + exponent bits) = 2 ^ k * (4 * quarter bits) := by
  rw [zpow_add₀ two_ne_zero, four_mul_quarter]

theorem rounds_value (bits : ℕ) : Rounds (value bits) bits := by
  have step := quarter_pos bits
  obtain ⟨least, -⟩ := one_le_below bits
  have least : (1 : ℚ) ≤ below bits := by exact_mod_cast least
  have same : value bits = 4 * significand bits * quarter bits := by
    rw [value, ← four_mul_quarter]
    ring
  rw [same]
  constructor
  · nlinarith
  · nlinarith
  · intro _
    constructor <;> nlinarith

theorem Rounds.pos {q : ℚ} (rounds : Rounds q bits) (positive : 0 < bits) : 0 < q := by
  have some : (1 : ℚ) ≤ significand bits := by exact_mod_cast significand_pos positive
  have most : (below bits : ℚ) ≤ 2 := by exact_mod_cast (one_le_below bits).2
  refine lt_of_lt_of_le (mul_pos ?_ (quarter_pos bits)) rounds.low
  linarith

/-! ## Rounding -/

/-- The guess from the lengths of both numbers is right or one too high. -/
theorem floorLog2_eq_ite (hden : 0 < den) :
    floorLog2 num den =
      if (2 : ℚ) ^ ((num.log2 : ℤ) - den.log2) ≤ num / den then (num.log2 : ℤ) - den.log2
      else (num.log2 : ℤ) - den.log2 - 1 := by
  have d : (0 : ℚ) < den := by exact_mod_cast hden
  unfold floorLog2
  simp only [le_div_iff₀ d]
  generalize (num.log2 : ℤ) - den.log2 = g
  cases g with
  | ofNat up =>
    have reached : den <<< up ≤ num ↔ (2 : ℚ) ^ (Int.ofNat up) * den ≤ num := by
      rw [Nat.shiftLeft_eq, Int.ofNat_eq_natCast, zpow_natCast, mul_comm]
      exact_mod_cast Iff.rfl
    simp only [decide_eq_true_eq, reached]
  | negSucc down =>
    have reached : den ≤ num <<< (down + 1) ↔ (2 : ℚ) ^ (Int.negSucc down) * den ≤ num := by
      rw [Nat.shiftLeft_eq, zpow_negSucc, inv_mul_le_iff₀ (by positivity), mul_comm]
      exact_mod_cast Iff.rfl
    simp only [decide_eq_true_eq, reached]

/-- The exponent of the leading binary digit of a quotient. -/
theorem floorLog2_spec (hnum : 0 < num) (hden : 0 < den) :
    (2 : ℚ) ^ floorLog2 num den ≤ num / den ∧ (num / den : ℚ) < 2 ^ (floorLog2 num den + 1) := by
  have d : (0 : ℚ) < den := by exact_mod_cast hden
  have n₁ : (2 : ℚ) ^ (num.log2 : ℤ) ≤ num := by
    rw [zpow_natCast]
    exact_mod_cast Nat.log2_self_le hnum.ne'
  have n₂ : (num : ℚ) < 2 ^ (num.log2 + 1 : ℤ) := by
    exact_mod_cast Nat.lt_log2_self
  have d₁ : (2 : ℚ) ^ (den.log2 : ℤ) ≤ den := by
    rw [zpow_natCast]
    exact_mod_cast Nat.log2_self_le hden.ne'
  have d₂ : (den : ℚ) < 2 ^ (den.log2 + 1 : ℤ) := by
    exact_mod_cast Nat.lt_log2_self
  set g : ℤ := (num.log2 : ℤ) - den.log2 with hg
  have low : (2 : ℚ) ^ (g - 1) < num / den := by
    rw [lt_div_iff₀ d]
    calc (2 : ℚ) ^ (g - 1) * den < 2 ^ (g - 1) * 2 ^ (den.log2 + 1 : ℤ) := by gcongr
      _ = 2 ^ (num.log2 : ℤ) := by rw [← zpow_add₀ two_ne_zero]; congr 1; omega
      _ ≤ num := n₁
  have high : (num / den : ℚ) < 2 ^ (g + 1) := by
    rw [div_lt_iff₀ d]
    calc (num : ℚ) < 2 ^ (num.log2 + 1 : ℤ) := n₂
      _ = 2 ^ (g + 1) * 2 ^ (den.log2 : ℤ) := by rw [← zpow_add₀ two_ne_zero]; congr 1; omega
      _ ≤ 2 ^ (g + 1) * den := by gcongr
  rw [floorLog2_eq_ite hden, ← hg]
  split_ifs with hit
  · exact ⟨hit, high⟩
  · rw [sub_add_cancel]
    exact ⟨low.le, not_le.1 hit⟩

/-- Less than half a step away, or half a step away from an even number. -/
theorem roundHalfEven_eq_of_le {m : ℕ} (hden : 0 < den) (low : 2 * m * den ≤ 2 * num + den)
    (high : 2 * num ≤ 2 * m * den + den)
    (odd : m % 2 = 1 → 2 * m * den < 2 * num + den ∧ 2 * num < 2 * m * den + den) :
    roundHalfEven num den = m := by
  have parts := Nat.div_add_mod num den
  have rest := Nat.mod_lt num hden
  unfold roundHalfEven
  generalize num / den = quotient at parts
  generalize num % den = remainder at parts rest
  subst parts
  have most : quotient < m + 1 := by
    apply Nat.lt_of_mul_lt_mul_left (a := den)
    nlinarith
  have least : m < quotient + 2 := by
    apply Nat.lt_of_mul_lt_mul_left (a := den)
    nlinarith
  obtain rfl | rfl : m = quotient ∨ m = quotient + 1 := by omega
  · have half : 2 * remainder ≤ den := by nlinarith
    have tie : 2 * remainder = den → m % 2 = 0 := by
      intro half
      by_contra one
      have := (odd (by omega)).2
      nlinarith
    dsimp only
    split_ifs with less equal
    · rfl
    · have := tie equal
      omega
    · omega
  · have half : den ≤ 2 * remainder := by nlinarith
    have tie : 2 * remainder = den → (quotient + 1) % 2 = 0 := by
      intro half
      by_contra one
      have := (odd (by omega)).1
      nlinarith
    dsimp only
    split_ifs with less equal
    · omega
    · have := tie equal
      omega
    · rfl

theorem roundHalfEven_eq {m : ℕ} (hden : 0 < den) (low : (m - 1 / 2 : ℚ) ≤ num / den)
    (high : (num / den : ℚ) ≤ m + 1 / 2)
    (odd : m % 2 = 1 → (m - 1 / 2 : ℚ) < num / den ∧ (num / den : ℚ) < m + 1 / 2) :
    roundHalfEven num den = m := by
  have d : (0 : ℚ) < den := by exact_mod_cast hden
  rw [le_div_iff₀ d] at low
  rw [div_le_iff₀ d] at high
  rw [lt_div_iff₀ d, div_lt_iff₀ d] at odd
  refine roundHalfEven_eq_of_le hden ?_ ?_ fun one => ?_
  · have := (by linarith : (2 * m * den : ℚ) ≤ 2 * num + den)
    exact_mod_cast this
  · have := (by linarith : (2 * num : ℚ) ≤ 2 * m * den + den)
    exact_mod_cast this
  · obtain ⟨left, right⟩ := odd one
    have left := (by linarith : (2 * m * den : ℚ) < 2 * num + den)
    have right := (by linarith : (2 * num : ℚ) < 2 * m * den + den)
    exact ⟨by exact_mod_cast left, by exact_mod_cast right⟩

/-- The same for a quotient in steps of a power of two. -/
theorem rounded_eq {m : ℕ} (hden : 0 < den) (steps : ℤ)
    (low : (m - 1 / 2 : ℚ) * 2 ^ steps ≤ num / den)
    (high : (num / den : ℚ) ≤ (m + 1 / 2) * 2 ^ steps)
    (odd : m % 2 = 1 → (m - 1 / 2 : ℚ) * 2 ^ steps < num / den ∧
      (num / den : ℚ) < (m + 1 / 2) * 2 ^ steps) :
    (∀ up, steps = .ofNat up → roundHalfEven num (den <<< up) = m) ∧
      ∀ down, steps = .negSucc down → roundHalfEven (num <<< (down + 1)) den = m := by
  have step : (0 : ℚ) < 2 ^ steps := by positivity
  rw [← le_div_iff₀ step] at low
  rw [← div_le_iff₀ step] at high
  rw [← lt_div_iff₀ step, ← div_lt_iff₀ step] at odd
  constructor
  · rintro up rfl
    have same : (num / den / 2 ^ (Int.ofNat up) : ℚ) = num / (den <<< up : ℕ) := by
      rw [Int.ofNat_eq_natCast, zpow_natCast, div_div, Nat.shiftLeft_eq]
      push_cast
      rfl
    rw [same] at low high odd
    exact roundHalfEven_eq (by rw [Nat.shiftLeft_eq]; positivity) low high odd
  · rintro down rfl
    have same : (num / den / 2 ^ (Int.negSucc down) : ℚ) = (num <<< (down + 1) : ℕ) / den := by
      rw [zpow_negSucc, div_inv_eq_mul, Nat.shiftLeft_eq]
      push_cast
      ring
    rw [same] at low high odd
    exact roundHalfEven_eq hden low high odd

theorem nearestMagnitude_eq_of_step (step m : ℕ) (hnum : num ≠ 0)
    (found : (floorLog2 num den + 1022).toNat = step)
    (rounded : (∀ up, (step : ℤ) - 1074 = .ofNat up → roundHalfEven num (den <<< up) = m) ∧
      ∀ down, (step : ℤ) - 1074 = .negSucc down → roundHalfEven (num <<< (down + 1)) den = m)
    (sum : step * binade + m = bits) (finite : bits < infinite) :
    nearestMagnitude num den = bits := by
  unfold nearestMagnitude
  rw [if_neg hnum]
  dsimp only
  rw [found]
  cases steps : (step : ℤ) - 1074 with
  | ofNat up =>
    simp only [rounded.1 up steps, sum]
    exact Nat.min_eq_right finite.le
  | negSucc down =>
    simp only [rounded.2 down steps, sum]
    exact Nat.min_eq_right finite.le

theorem floorLog2_lt_of_rounds (hnum : 0 < num) (hden : 0 < den)
    (rounds : Rounds (num / den) bits) : floorLog2 num den < 53 + exponent bits := by
  have bound : (significand bits : ℚ) + 1 ≤ 2 ^ 53 := by
    have := significand_lt bits
    unfold binade at this
    exact_mod_cast this
  refine (zpow_lt_zpow_iff_right₀ (one_lt_two : (1 : ℚ) < 2)).1 ?_
  refine lt_of_le_of_lt ((floorLog2_spec hnum hden).1.trans rounds.high) ?_
  rw [two_pow_add_exponent]
  norm_num at bound ⊢
  nlinarith [quarter_pos bits]

/-- The rounding interval of a magnitude reaches below the power of two that its exponent stands for
only if the magnitude is that power. -/
theorem Rounds.significand_eq {q : ℚ} (rounds : Rounds q bits) (normal : 0 < scale bits)
    (under : q < 2 ^ (52 + exponent bits)) : significand bits = binade := by
  have most : (below bits : ℚ) ≤ 2 := by exact_mod_cast (one_le_below bits).2
  refine le_antisymm ?_ (binade_le_significand normal)
  rw [two_pow_add_exponent, ← mul_assoc] at under
  have less := lt_of_mul_lt_mul_right (rounds.low.trans_lt under) (quarter_pos bits).le
  norm_num at less
  have less : (significand bits : ℚ) < 4503599627370497 := by linarith
  exact Nat.lt_succ_iff.1 (by exact_mod_cast less)

/-- Just below a power of two the steps are half as long. -/
theorem nearestMagnitude_eq_of_lt_binade (hnum : 0 < num) (hden : 0 < den)
    (finite : bits < infinite) (rounds : Rounds (num / den) bits) (normal : 0 < scale bits)
    (under : (num / den : ℚ) < 2 ^ (52 + exponent bits)) : nearestMagnitude num den = bits := by
  obtain ⟨log, log'⟩ := floorLog2_spec hnum hden
  have exponent_eq : exponent bits = (scale bits : ℤ) - 1074 := rfl
  have even := rounds.significand_eq normal under
  have short : below bits = 1 := if_pos ⟨even, normal⟩
  have low := rounds.low
  rw [even, short] at low
  have found : floorLog2 num den = 51 + exponent bits := by
    apply le_antisymm
    · have := (zpow_lt_zpow_iff_right₀ one_lt_two).1 (log.trans_lt under)
      omega
    · have reached : (2 : ℚ) ^ (51 + exponent bits) < 2 ^ (floorLog2 num den + 1) := by
        refine lt_of_le_of_lt (le_trans ?_ low) log'
        rw [two_pow_add_exponent]
        unfold binade
        norm_num
        nlinarith [quarter_pos bits]
      have := (zpow_lt_zpow_iff_right₀ one_lt_two).1 reached
      omega
  have step : ((scale bits - 1 : ℕ) : ℤ) - 1074 = exponent bits - 1 := by omega
  refine nearestMagnitude_eq_of_step (scale bits - 1) (2 * binade) hnum.ne'
    (by omega) (rounded_eq hden _ ?_ ?_ (by unfold binade; omega)) ?_ finite
  · rw [step, ← two_mul_quarter]
    refine le_trans (le_of_eq ?_) low
    push_cast
    ring
  · rw [step, ← two_mul_quarter]
    rw [two_pow_add_exponent] at under
    unfold binade
    norm_num at under ⊢
    nlinarith [quarter_pos bits]
  · have sum := scale_mul_add_significand bits
    obtain ⟨s, hs⟩ := Nat.exists_eq_add_of_lt normal
    rw [hs] at sum ⊢
    rw [even] at sum
    unfold binade at *
    omega

theorem nearestMagnitude_eq_of_binade_le (hnum : 0 < num) (hden : 0 < den)
    (finite : bits < infinite) (rounds : Rounds (num / den) bits)
    (reached : 0 < scale bits → (2 : ℚ) ^ (52 + exponent bits) ≤ num / den) :
    nearestMagnitude num den = bits := by
  obtain ⟨-, log'⟩ := floorLog2_spec hnum hden
  have logs := floorLog2_lt_of_rounds hnum hden rounds
  have exponent_eq : exponent bits = (scale bits : ℤ) - 1074 := rfl
  have most : (below bits : ℚ) ≤ 2 := by exact_mod_cast (one_le_below bits).2
  obtain ⟨low, high, odd⟩ := rounds
  refine nearestMagnitude_eq_of_step (scale bits) (significand bits) hnum.ne' ?_
    (rounded_eq hden _ ?_ ?_ fun one => ?_) (scale_mul_add_significand bits) finite
  · by_cases normal : 0 < scale bits
    · have := (zpow_lt_zpow_iff_right₀ one_lt_two).1 ((reached normal).trans_lt log')
      omega
    · omega
  · rw [← exponent_eq, ← four_mul_quarter]
    refine le_trans ?_ low
    nlinarith [quarter_pos bits]
  · rw [← exponent_eq, ← four_mul_quarter]
    refine high.trans (le_of_eq ?_)
    ring
  · rw [← exponent_eq, ← four_mul_quarter]
    obtain ⟨left, right⟩ := odd one
    constructor
    · refine lt_of_le_of_lt ?_ left
      nlinarith [quarter_pos bits]
    · refine lt_of_lt_of_eq right ?_
      ring

/-- A quotient in the rounding interval of a magnitude is rounded to it. -/
theorem nearestMagnitude_eq (hden : 0 < den) (positive : 0 < bits) (finite : bits < infinite)
    (rounds : Rounds (num / den) bits) : nearestMagnitude num den = bits := by
  have hnum : 0 < num := by
    have pos := rounds.pos positive
    by_contra none
    simp [Nat.eq_zero_of_not_pos none] at pos
  by_cases under : 0 < scale bits ∧ (num / den : ℚ) < 2 ^ (52 + exponent bits)
  · exact nearestMagnitude_eq_of_lt_binade hnum hden finite rounds under.1 under.2
  · exact nearestMagnitude_eq_of_binade_le hnum hden finite rounds fun normal =>
      not_lt.1 (not_and.1 under normal)

end Playhouse.Binary64

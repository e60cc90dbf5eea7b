import Playhouse.Decimal.Value
import Playhouse.Proofs.Binary64.Nearest

/-!
# Decimals that read back

A decimal is read as the magnitude in whose rounding interval its value lies (`toMagnitude_eq`). So
it does not matter how a value is spread over digits and exponent. The search for the shortest
decimal answers only what lies in the interval (`Between.lies_search`), and where it finds nothing
all digits are taken. Either way the decimal is read back (`rounds_shortest`).
-/

namespace Playhouse

open Binary64

namespace Decimal

variable {bits : ℕ}

/-- The number that a decimal denotes. -/
def value (d : Decimal) : ℚ :=
  d.digits * 10 ^ d.exponent

theorem value_pos {d : Decimal} (positive : 0 < d.value) : 0 < d.digits := by
  by_contra none
  simp [value, Nat.eq_zero_of_not_pos none] at positive

/-! ## Reading -/

/-- Every finite magnitude is below this power of ten. -/
theorem two_pow_lt : (2 : ℚ) ^ (1024 : ℕ) < 10 ^ (401 : ℕ) :=
  calc (2 : ℚ) ^ (1024 : ℕ) = (2 ^ 8) ^ 128 := by rw [← pow_mul]
    _ < (10 ^ 3) ^ 128 := pow_lt_pow_left₀ (by norm_num) (by norm_num) (by norm_num)
    _ = 10 ^ (384 : ℕ) := by rw [← pow_mul]
    _ ≤ 10 ^ (401 : ℕ) := pow_le_pow_right₀ (by norm_num) (by norm_num)

/-- Half the least positive magnitude is above this one. -/
theorem two_pow_lt' : (2 : ℚ) ^ (1075 : ℕ) < 10 ^ (401 : ℕ) :=
  calc (2 : ℚ) ^ (1075 : ℕ) ≤ 2 ^ (1080 : ℕ) := pow_le_pow_right₀ (by norm_num) (by norm_num)
    _ = (2 ^ 9) ^ 120 := by rw [← pow_mul]
    _ < (10 ^ 3) ^ 120 := pow_lt_pow_left₀ (by norm_num) (by norm_num) (by norm_num)
    _ = 10 ^ (360 : ℕ) := by rw [← pow_mul]
    _ ≤ 10 ^ (401 : ℕ) := pow_le_pow_right₀ (by norm_num) (by norm_num)

theorem lt_of_rounds {q : ℚ} (finite : bits < infinite) (rounds : Rounds q bits) :
    q < 10 ^ (401 : ℤ) := by
  have scale_le : Binary64.exponent bits - 2 ≤ 969 := by
    unfold Binary64.exponent scale infinite binade at *
    omega
  have step : quarter bits ≤ 2 ^ (969 : ℤ) := zpow_le_zpow_right₀ one_le_two scale_le
  have bound : (4 * significand bits + 2 : ℚ) ≤ 2 ^ (55 : ℤ) := by
    have := significand_lt bits
    unfold binade at this
    exact_mod_cast (by omega : 4 * significand bits + 2 ≤ 2 ^ 55)
  calc q ≤ (4 * significand bits + 2) * quarter bits := rounds.high
    _ ≤ 2 ^ (55 : ℤ) * 2 ^ (969 : ℤ) :=
      mul_le_mul bound step (quarter_pos bits).le (zpow_nonneg zero_le_two _)
    _ = 2 ^ (1024 : ℤ) := (zpow_add₀ two_ne_zero _ _).symm
    _ < 10 ^ (401 : ℤ) := by exact_mod_cast two_pow_lt

theorem lt_rounds {q : ℚ} (positive : 0 < bits) (rounds : Rounds q bits) :
    10 ^ (-401 : ℤ) < q := by
  have step : (2 : ℚ) ^ (-1076 : ℤ) ≤ quarter bits := by
    refine zpow_le_zpow_right₀ one_le_two ?_
    unfold Binary64.exponent
    omega
  have some : (1 : ℚ) ≤ significand bits := by exact_mod_cast significand_pos positive
  have most : (below bits : ℚ) ≤ 2 := by exact_mod_cast (one_le_below bits).2
  have least : (2 : ℚ) ^ (1 : ℤ) ≤ 4 * significand bits - below bits := by
    norm_num
    linarith
  have inverse : (10 : ℚ) ^ (-401 : ℤ) < 2 ^ (-1075 : ℤ) := by
    rw [zpow_neg, zpow_neg]
    refine inv_strictAnti₀ (zpow_pos two_pos _) ?_
    exact_mod_cast two_pow_lt'
  calc (10 : ℚ) ^ (-401 : ℤ) < 2 ^ (-1075 : ℤ) := inverse
    _ = 2 ^ (1 : ℤ) * 2 ^ (-1076 : ℤ) := by rw [← zpow_add₀ two_ne_zero]; rfl
    _ ≤ (4 * significand bits - below bits) * quarter bits :=
      mul_le_mul least step (zpow_nonneg zero_le_two _) ((zpow_nonneg zero_le_two _).trans least)
    _ ≤ q := rounds.low

/-- A decimal is read as the magnitude whose rounding interval it lies in. -/
theorem toMagnitude_eq {d : Decimal} (positive : 0 < bits) (finite : bits < infinite)
    (rounds : Rounds d.value bits) : d.toMagnitude = bits := by
  have some := value_pos (rounds.pos positive)
  have large := lt_of_rounds finite rounds
  have small := lt_rounds positive rounds
  obtain ⟨digits, power⟩ := d
  unfold toMagnitude value at *
  dsimp only at *
  have least : (1 : ℚ) ≤ digits := by exact_mod_cast some
  have tens : (0 : ℚ) < 10 ^ power := zpow_pos (by norm_num) _
  have notLarge : ¬ 400 < power := by
    intro above
    have reached : (10 : ℚ) ^ (401 : ℤ) ≤ 10 ^ power := zpow_le_zpow_right₀ (by norm_num) above
    have more : (10 : ℚ) ^ power ≤ digits * 10 ^ power := le_mul_of_one_le_left tens.le least
    exact absurd large (not_lt.2 (reached.trans more))
  have notSmall : ¬ power + digits.log2 + 1 < -400 := by
    intro under
    have log : (digits : ℚ) ≤ 10 ^ (digits.log2 + 1 : ℤ) := by
      have := (Nat.lt_log2_self (n := digits)).le.trans
        (Nat.pow_le_pow_left (by norm_num : 2 ≤ 10) (digits.log2 + 1))
      exact_mod_cast this
    have less : (digits * 10 ^ power : ℚ) ≤ 10 ^ (-401 : ℤ) :=
      calc (digits * 10 ^ power : ℚ) ≤ 10 ^ (digits.log2 + 1 : ℤ) * 10 ^ power :=
            mul_le_mul_of_nonneg_right log tens.le
        _ = 10 ^ (digits.log2 + 1 + power : ℤ) := (zpow_add₀ (by norm_num) _ _).symm
        _ ≤ 10 ^ (-401 : ℤ) := zpow_le_zpow_right₀ (by norm_num) (by omega)
    exact absurd small (not_lt.2 less)
  rw [if_neg some.ne', if_neg notLarge, if_neg notSmall]
  cases power with
  | ofNat up =>
    refine nearestMagnitude_eq Nat.one_pos positive finite ?_
    simpa using rounds
  | negSucc down =>
    refine nearestMagnitude_eq (Nat.pow_pos (by norm_num)) positive finite ?_
    rw [zpow_negSucc, ← div_eq_mul_inv] at rounds
    simpa using rounds

theorem toMagnitude_zero (power : ℤ) : (⟨0, power⟩ : Decimal).toMagnitude = 0 :=
  if_pos rfl

/-! ## Searching -/

/-- The number lies between the two ends. -/
structure Between.Lies (b : Between) (q : ℚ) : Prop where
  low : (b.low : ℚ) ≤ q * b.denominator
  high : q * b.denominator ≤ b.high
  inner : b.closed = false → (b.low : ℚ) < q * b.denominator ∧ q * b.denominator < b.high

theorem Between.lies_of_contains {b : Between} {power : ℤ} {n : ℕ}
    (hit : (b.inUnits power).contains n = true) : b.Lies ((n : ℚ) * 10 ^ power) := by
  have ten : (0 : ℚ) < 10 ^ power := by positivity
  -- Both forms compare the ends with the same product.
  obtain ⟨low, high, inner⟩ : (b.low : ℚ) ≤ n * 10 ^ power * b.denominator ∧
      (n : ℚ) * 10 ^ power * b.denominator ≤ b.high ∧
        (b.closed = false → (b.low : ℚ) < n * 10 ^ power * b.denominator ∧
          (n : ℚ) * 10 ^ power * b.denominator < b.high) := by
    cases power with
    | ofNat up =>
      have same : (n * 10 ^ (Int.ofNat up) * b.denominator : ℚ) =
          (n * (b.denominator * Nat.pow 10 up) : ℕ) := by
        rw [Int.ofNat_eq_natCast, zpow_natCast]
        push_cast [Nat.pow_eq]
        ring
      rw [same]
      cases closed : b.closed <;>
        simp only [contains, inUnits, closed, if_true, if_false, Bool.false_eq_true,
          Bool.and_eq_true, decide_eq_true_eq] at hit
      · refine ⟨by exact_mod_cast hit.1.le, by exact_mod_cast hit.2.le, fun _ => ?_⟩
        exact ⟨by exact_mod_cast hit.1, by exact_mod_cast hit.2⟩
      · exact ⟨by exact_mod_cast hit.1, by exact_mod_cast hit.2, nofun⟩
    | negSucc down =>
      have factor : (0 : ℚ) < 10 ^ (down + 1) := by positivity
      simp only [zpow_negSucc]
      rw [← div_eq_mul_inv, div_mul_eq_mul_div, le_div_iff₀ factor, div_le_iff₀ factor,
        lt_div_iff₀ factor, div_lt_iff₀ factor]
      cases closed : b.closed <;>
        simp only [contains, inUnits, closed, if_true, if_false, Bool.false_eq_true,
          Bool.and_eq_true, decide_eq_true_eq, Nat.pow_eq] at hit
      · refine ⟨by exact_mod_cast hit.1.le, by exact_mod_cast hit.2.le, fun _ => ?_⟩
        exact ⟨by exact_mod_cast hit.1, by exact_mod_cast hit.2⟩
      · exact ⟨by exact_mod_cast hit.1, by exact_mod_cast hit.2, nofun⟩
  exact ⟨low, high, inner⟩

theorem Between.contains_nearest? {b : Between} {tie : Tie} {n : ℕ}
    (found : b.nearest? tie = some n) : b.contains n = true := by
  unfold nearest? at found
  dsimp only at found
  split at found
  · split at found <;> cases found <;> assumption
  · cases found
    assumption
  · cases found
    assumption
  · cases found

theorem value_trim (digits : ℕ) (power : ℤ) (limit : ℕ) :
    (trim digits power limit).value = (digits : ℚ) * 10 ^ power := by
  induction limit generalizing digits power with
  | zero => rfl
  | succ limit ih =>
    unfold trim
    split_ifs with zero
    · rw [ih, zpow_add_one₀ (by norm_num)]
      have whole : (digits / 10 : ℕ) * 10 = digits := by omega
      nth_rewrite 2 [← whole]
      push_cast
      ring
    · rfl

theorem Between.lies_search {b : Between} {tie : Tie} {power : ℤ} {tries : ℕ} {d : Decimal}
    (found : search b tie power tries = some d) : b.Lies d.value := by
  induction tries generalizing power with
  | zero => cases found
  | succ tries ih =>
    unfold search at found
    split at found
    · rename_i n hit
      cases found
      rw [value_trim]
      exact lies_of_contains (contains_nearest? hit)
    · exact ih found

theorem Between.closed_ofMagnitude (bits : ℕ) :
    (Between.ofMagnitude bits).closed = decide (significand bits % 2 = 0) := by
  unfold Between.ofMagnitude
  dsimp only
  split <;> rfl

/-- The ends that are searched between are those of the rounding interval, except that there is
nothing below zero. -/
theorem Between.ends_ofMagnitude (bits : ℕ) :
    (0 : ℚ) < (Between.ofMagnitude bits).denominator ∧
      (4 * significand bits - below bits) * quarter bits * (Between.ofMagnitude bits).denominator
        ≤ (Between.ofMagnitude bits).low ∧
      ((Between.ofMagnitude bits).high : ℚ) =
        (4 * significand bits + 2) * quarter bits * (Between.ofMagnitude bits).denominator := by
  have cast : (4 * significand bits - below bits : ℚ) ≤
      (4 * significand bits - below bits : ℕ) := by
    rw [sub_le_iff_le_add]
    exact_mod_cast Nat.sub_le_iff_le_add.1 le_rfl
  unfold Between.ofMagnitude quarter
  change _ ∧ _ ∧ _
  cases Binary64.exponent bits - 2 with
  | ofNat up =>
    refine ⟨one_pos, ?_, ?_⟩
    · simp only [Nat.shiftLeft_eq, Int.ofNat_eq_natCast, zpow_natCast, Nat.cast_one, mul_one]
      push_cast
      exact mul_le_mul_of_nonneg_right cast (by positivity)
    · simp only [Nat.shiftLeft_eq, Int.ofNat_eq_natCast, zpow_natCast, Nat.cast_one, mul_one]
      push_cast
      rfl
  | negSucc down =>
    have factor : (2 : ℚ) ^ (down + 1) ≠ 0 := by positivity
    simp only [Nat.shiftLeft_eq, zpow_negSucc, one_mul]
    push_cast
    rw [inv_mul_cancel_right₀ factor, inv_mul_cancel_right₀ factor]
    exact ⟨by positivity, cast, rfl⟩

/-- The interval that is searched is the rounding interval. -/
theorem Between.rounds_of_lies {q : ℚ} (lies : (Between.ofMagnitude bits).Lies q) :
    Rounds q bits := by
  obtain ⟨den, low, high⟩ := ends_ofMagnitude bits
  obtain ⟨least, greatest, inner⟩ := lies
  rw [high] at greatest inner
  constructor
  · exact le_of_mul_le_mul_right (low.trans least) den
  · exact le_of_mul_le_mul_right greatest den
  · intro one
    rw [closed_ofMagnitude] at inner
    obtain ⟨least, greatest⟩ := inner (by simp [one])
    exact ⟨lt_of_mul_lt_mul_right (low.trans_lt least) den.le,
      lt_of_mul_lt_mul_right greatest den.le⟩

theorem value_exact (bits : ℕ) : (exact bits).value = Binary64.value bits := by
  unfold exact value Binary64.value
  cases Binary64.exponent bits with
  | ofNat up =>
    simp only [Nat.shiftLeft_eq, Int.ofNat_eq_natCast, zpow_natCast, zpow_zero, mul_one]
    push_cast
    rfl
  | negSucc down =>
    have ten : (10 : ℚ) ^ (down + 1) = 2 ^ (down + 1) * 5 ^ (down + 1) := by
      rw [← mul_pow]
      norm_num
    simp only [zpow_negSucc, ten]
    push_cast [Nat.pow_eq]
    field_simp

/-- The shortest decimal lies in the rounding interval of its magnitude. -/
theorem rounds_shortest (tie : Tie) (bits : ℕ) : Rounds (shortest tie bits).value bits := by
  unfold shortest
  dsimp only
  cases found : search (.ofMagnitude bits) tie (Between.ofMagnitude bits).leadingExponent 17 with
  | none =>
    rw [Option.getD_none, value_exact]
    exact rounds_value bits
  | some d => exact Between.rounds_of_lies (Between.lies_search found)

end Decimal

end Playhouse

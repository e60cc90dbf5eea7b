import Playhouse.Proofs.Binary64.Magnitude
import Playhouse.Random

/-!
# Bounds of random draws

A value from zero to a bound is drawn with a factor that is at most the quotient of the bound by the
greatest fraction. That fraction is just below one, so the quotient is infinite if the bound is one
of the two greatest finite values, `tooLarge` and the one above it. For the smaller bounds a value
is drawn (`upTo_eq_none_iff`).
-/

namespace Playhouse.Random

open Binary64 Float.Model.UnpackedFloat
open Float.Model (UnpackedFloat Format totalExponent)

variable {x : Float}

/-- The second greatest of the finite values, `2 ^ 1024 - 2 ^ 972` or about `1.8e308`. -/
def tooLarge : Float :=
  ofMagnitude false (infinite - 2)

theorem unpack_tooLarge :
    tooLarge.toModel.unpack = .finite .positive (2 ^ 53 - 2) 971 (by decide) := by
  rw [tooLarge, unpack_ofMagnitude (by decide)]
  rfl

theorem unpack_greatestFraction :
    greatestFraction.toModel.unpack = .finite .positive (2 ^ 53 - 2) (-53) (by decide) := rfl

/-! ## The quotient -/

/-- What has 53 bits at most is not shifted, so it can only be rounded up by one. -/
theorem isFinite_round_top {m : Nat} {e : Int} (bits : m < 2 ^ 53 - 1) (top : e = 971) (s : Sign)
    (a : Accuracy) :
    (Float.Model.pack (roundWithAccuracy .binary64 s m e a)).unpack.isFinite = true := by
  have target : ∀ t, Format.binary64.targetExponent t = max (t - 53) (-1074) := fun _ => rfl
  have log : m.log2 ≤ 52 := log2_le_of_lt (by omega)
  refine isFinite_zero_or_finite s _ ?_
  simp only [totalExponent, target]
  generalize hk : (max ((m.log2 : Int) + 1 + e - 53) (-1074) - e).toNat = k
  obtain rfl : k = 0 := by omega
  have rounded : (ExtendedMantissa.ofMantissaAndAccuracy m a >>> 0).roundedMantissa ≤ _ :=
    roundedMantissa_le _
  rw [mantissa_shiftRight, mantissa_ofMantissaAndAccuracy, Nat.pow_zero, Nat.div_one] at rounded
  generalize (ExtendedMantissa.ofMantissaAndAccuracy m a >>> 0).roundedMantissa = r at rounded ⊢
  have again : r.log2 ≤ 52 := log2_le_of_lt (by omega)
  omega

/-- How often `2 ^ g` goes into a value that is not one of the two greatest. -/
theorem scaled_le {m : Nat} {e g : Int} (below : g ≤ 970)
    (small : e < 971 ∧ m < 2 ^ 53 ∨ e = 971 ∧ m < 2 ^ 53 - 2) :
    m * 2 ^ (e - -53 - g).toNat ≤ (2 ^ 53 - 3) * 2 ^ 54 * 2 ^ (970 - g).toNat := by
  rcases small with ⟨lower, bits⟩ | ⟨rfl, bits⟩
  · calc m * 2 ^ (e - -53 - g).toNat
        ≤ (2 ^ 53 - 1) * 2 ^ (53 + (970 - g).toNat) :=
          Nat.mul_le_mul (by omega) (Nat.pow_le_pow_right Nat.zero_lt_two (by omega))
      _ = (2 ^ 53 - 1) * 2 ^ 53 * 2 ^ (970 - g).toNat := by rw [Nat.pow_add, Nat.mul_assoc]
      _ ≤ (2 ^ 53 - 3) * 2 ^ 54 * 2 ^ (970 - g).toNat := Nat.mul_le_mul_right _ (by decide)
  · have power : (971 - -53 - g).toNat = 54 + (970 - g).toNat := by omega
    calc m * 2 ^ (971 - -53 - g).toNat
        = m * 2 ^ 54 * 2 ^ (970 - g).toNat := by rw [power, Nat.pow_add, Nat.mul_assoc]
      _ ≤ (2 ^ 53 - 3) * 2 ^ 54 * 2 ^ (970 - g).toNat :=
        Nat.mul_le_mul_right _ (Nat.mul_le_mul_right _ (by omega))

/-- The quotient of such a value is not rounded to infinity. -/
theorem isFinite_div_greatestFraction {m : Nat} {e : Int} (s : Sign)
    (small : e < 971 ∧ m < 2 ^ 53 ∨ e = 971 ∧ m < 2 ^ 53 - 2) :
    (Float.Model.pack (roundWithAccuracy .binary64 s (divCore .binary64 m e (2 ^ 53 - 2) (-53)).1
      (divCore .binary64 m e (2 ^ 53 - 2) (-53)).2.1
      (divCore .binary64 m e (2 ^ 53 - 2) (-53)).2.2)).unpack.isFinite = true := by
  have target : ∀ t, Format.binary64.targetExponent t = max (t - 53) (-1074) := fun _ => rfl
  have log : m.log2 ≤ 52 := log2_le_of_lt (by omega)
  have log_divisor : (2 ^ 53 - 2).log2 = 52 := by decide
  unfold divCore
  simp only [totalExponent, target, log_divisor]
  generalize hg : min (e - -53) (max ((m.log2 : Int) + 1 + e - ((52 : Nat) + 1 + -53) - 53) (-1074))
    = g
  -- `g` is the exponent of the quotient before it is rounded.
  rcases Int.lt_or_le 970 g with top | below
  · obtain rfl : g = 971 := by omega
    obtain rfl : e = 971 := by omega
    refine isFinite_round_top ?_ rfl s _
    rw [Nat.shiftLeft_eq, Nat.div_lt_iff_lt_mul (by decide)]
    change m * 2 ^ 53 < _
    omega
  · refine isFinite_round ⟨below, ?_⟩ s _
    rw [Nat.shiftLeft_eq, Nat.div_lt_iff_lt_mul (by decide)]
    calc m * 2 ^ (e - -53 - g).toNat
        ≤ (2 ^ 53 - 3) * 2 ^ 54 * 2 ^ (970 - g).toNat := scaled_le below small
      _ < (2 ^ 54 - 1) * (2 ^ 53 - 2) * 2 ^ (970 - g).toNat :=
        Nat.mul_lt_mul_of_pos_right (by decide) (Nat.two_pow_pos _)
      _ = (2 ^ 54 - 1) * 2 ^ (970 - g).toNat * (2 ^ 53 - 2) := Nat.mul_right_comm _ _ _

theorem isFinite_div_greatestFraction_iff (nonneg : 0.0 ≤ x) :
    (x / greatestFraction).isFinite = true ↔ x < tooLarge := by
  change (Float.Model.pack
    (div .binary64 x.toModel.unpack greatestFraction.toModel.unpack)).unpack.isFinite = true ↔ _
  rw [lt_iff, unpack_tooLarge, unpack_greatestFraction]
  rcases unpack_of_nonneg nonneg with ⟨s, unpacked⟩ | unpacked | ⟨m, e, positive, unpacked⟩
  · rw [unpacked, div_zero_finite]
    exact iff_of_true (isFinite_unpack_zero _) (by cases s <;> rfl)
  · rw [unpacked]
    exact iff_of_false (by decide) (by decide)
  · obtain ⟨bits, top⟩ := bounds_of_unpack unpacked
    rw [unpacked, lt_finite_iff, div_finite]
    constructor
    · intro finite
      -- Only the two greatest values are left, and their quotients are infinite.
      refine Decidable.byContradiction fun large => ?_
      obtain rfl : e = 971 := by omega
      obtain rfl | rfl : m = 2 ^ 53 - 2 ∨ m = 2 ^ 53 - 1 := by omega
      · revert finite
        decide +kernel
      · revert finite
        decide +kernel
    · intro less
      exact isFinite_div_greatestFraction _ (by omega)

/-! ## Draws -/

theorem upTo_eq_none_iff {r : Random} (nonneg : 0.0 ≤ x) : r.upTo x = none ↔ ¬ x < tooLarge := by
  rw [← isFinite_div_greatestFraction_iff nonneg, upTo, Option.map_eq_none_iff, scaleFor]
  by_cases finite : (x / greatestFraction).isFinite = true
  · simp [finite]
  · simp [finite]

theorem exists_upTo (r : Random) (nonneg : 0.0 ≤ x) (small : x < tooLarge) :
    ∃ y after, r.upTo x = some (y, after) := by
  cases drawn : r.upTo x with
  | none => exact absurd small ((upTo_eq_none_iff nonneg).1 drawn)
  | some p => exact ⟨p.1, p.2, rfl⟩

end Playhouse.Random

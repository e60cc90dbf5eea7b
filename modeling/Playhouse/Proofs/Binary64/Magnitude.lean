import Playhouse.Proofs.Binary64.Finite

/-!
# Values by their magnitude

`ofMagnitude` puts together the value that has a bit pattern (`unpack_ofMagnitude`). All patterns
below `infinite` are those of finite values (`isFinite_ofMagnitude`), and finite values have no
others (`magnitude_lt_infinite`). A quotient below one is rounded to a finite value
(`nearestMagnitude_lt_infinite`).

`ofMagnitude_lt_turn` compares with a full turn.
-/

namespace Playhouse.Binary64

open Float.Model.UnpackedFloat
open Float.Model (UnpackedFloat Format)

theorem toNat_ofParts (s : Sign) (e : BitVec 11) (m : BitVec 52) :
    (ofParts s e m).toNat = s.toBitVec.toNat * signBit + e.toNat * binade + m.toNat := by
  have hm := m.isLt
  have he := e.isLt
  unfold ofParts
  rw [BitVec.toNat_append, ← Nat.shiftLeft_add_eq_or_of_lt hm, BitVec.toNat_append,
    ← Nat.shiftLeft_add_eq_or_of_lt he, Nat.shiftLeft_eq, Nat.shiftLeft_eq]
  unfold signBit binade
  omega

/-- The sign that a value is put together with. -/
def signOf (negative : Bool) : Sign :=
  if negative then .negative else .positive

theorem ofNat_eq_ofParts {bits : Nat} (fits : bits < signBit) (negative : Bool) :
    BitVec.ofNat 64 (if negative then signBit + bits else bits) =
      ofParts (signOf negative) (BitVec.ofNat 11 (bits / binade))
        (BitVec.ofNat 52 (bits % binade)) := by
  apply BitVec.eq_of_toNat_eq
  rw [toNat_ofParts]
  unfold signBit binade at *
  cases negative <;>
    simp [BitVec.toNat_ofNat, Sign.toBitVec, signOf] <;> omega

theorem exponent_ne_top {bits : Nat} (below : bits < infinite) :
    BitVec.ofNat 11 (bits / binade) ≠ -1#11 := by
  intro top
  have top := congrArg BitVec.toNat top
  rw [BitVec.toNat_ofNat] at top
  change _ = 2047 at top
  unfold infinite binade at *
  omega

/-- The value with a bit pattern below that of infinity. -/
theorem unpack_ofMagnitude {bits : Nat} (below : bits < infinite) (negative : Bool) :
    (ofMagnitude negative bits).toModel.unpack =
      ofFields (signOf negative) (BitVec.ofNat 11 (bits / binade))
        (BitVec.ofNat 52 (bits % binade)) := by
  change unpack .binary64 (pack .binary64 (unpack .binary64
    (BitVec.ofNat 64 (if negative then signBit + bits else bits)))) = _
  have fits : bits < signBit := Nat.lt_trans below (by decide)
  rw [ofNat_eq_ofParts fits, unpack_ofParts, pack_ofFields _ _ _ (.inl (exponent_ne_top below)),
    unpack_ofParts]

theorem isFinite_ofMagnitude {bits : Nat} (below : bits < infinite) {negative : Bool} :
    (ofMagnitude negative bits).isFinite = true := by
  change (ofMagnitude negative bits).toModel.unpack.isFinite = true
  rw [unpack_ofMagnitude below]
  exact isFinite_ofFields (exponent_ne_top below)

theorem magnitude_lt_infinite {x : Float} (finite : x.isFinite = true) :
    magnitude x < infinite := by
  obtain ⟨s, e, m, parts⟩ := exists_ofParts x.toModel.toBits.toBitVec
  have below : e.toNat ≠ 2047 := by
    intro top
    obtain rfl : e = -1#11 := BitVec.eq_of_toNat_eq top
    change (unpack .binary64 x.toModel.toBits.toBitVec).isFinite = true at finite
    rw [parts, unpack_ofParts, ofFields, if_pos rfl] at finite
    split at finite <;> cases finite
  have bits : x.toBits.toNat = (ofParts s e m).toNat := congrArg BitVec.toNat parts
  have hm := m.isLt
  have he := e.isLt
  have hs := s.toBitVec.isLt
  rw [magnitude, bits, toNat_ofParts]
  unfold signBit infinite binade
  omega

/-! ## Below a full turn -/

theorem ofMagnitude_lt_turn {bits : Nat} (below : bits < magnitude 360.0) :
    0.0 ≤ ofMagnitude false bits ∧ ofMagnitude false bits < 360.0 := by
  have zero : (0.0 : Float).toModel.unpack = .zero .positive := rfl
  have turn : (360.0 : Float).toModel.unpack =
      .finite .positive 6333186975989760 (-44) (by decide) := rfl
  have pattern : magnitude 360.0 = 0x4076800000000000 := rfl
  rw [pattern] at below
  have finite : bits < infinite := Nat.lt_trans below (by decide)
  rw [le_iff, lt_iff, zero, turn, unpack_ofMagnitude finite, signOf, ofFields,
    if_neg (exponent_ne_top finite)]
  unfold binade at *
  by_cases bottom : BitVec.ofNat 11 (bits / 4503599627370496) = 0#11
  · rw [if_pos bottom]
    by_cases none : BitVec.ofNat 52 (bits % 4503599627370496) = 0#52
    · rw [dif_pos none]
      decide
    · rw [dif_neg none]
      exact ⟨rfl, lt_finite_iff.2 (.inl (by decide))⟩
  · rw [if_neg bottom]
    refine ⟨rfl, lt_finite_iff.2 ?_⟩
    simp only [BitVec.toNat_ofNat]
    omega

/-! ## Rounding quotients -/

section Quotient

variable {num den : Nat}

theorem floorLog2_bounds (num den : Nat) :
    (num.log2 : Int) - den.log2 - 1 ≤ floorLog2 num den ∧
      floorLog2 num den ≤ (num.log2 : Int) - den.log2 := by
  unfold floorLog2
  dsimp only
  split <;> omega

theorem roundHalfEven_le (num den : Nat) : roundHalfEven num den ≤ num / den + 1 := by
  unfold roundHalfEven
  dsimp only
  split
  · omega
  · split <;> omega

/-- The significand that is rounded has at most two bits too many. -/
theorem shiftLeft_div_lt {k : Nat} (positive : 0 < den)
    (bits : num.log2 + 1 + k ≤ 54 + den.log2) : (num <<< k) / den < 2 ^ 54 := by
  rw [Nat.div_lt_iff_lt_mul positive, Nat.shiftLeft_eq]
  calc num * 2 ^ k
      < 2 ^ (num.log2 + 1) * 2 ^ k :=
        Nat.mul_lt_mul_of_pos_right Nat.lt_log2_self (Nat.two_pow_pos k)
    _ = 2 ^ (num.log2 + 1 + k) := (Nat.pow_add ..).symm
    _ ≤ 2 ^ (54 + den.log2) := Nat.pow_le_pow_right Nat.zero_lt_two bits
    _ = 2 ^ 54 * 2 ^ den.log2 := Nat.pow_add ..
    _ ≤ 2 ^ 54 * den := Nat.mul_le_mul_left _ (Nat.log2_self_le (Nat.ne_of_gt positive))

theorem nearestMagnitude_le_infinite (num den : Nat) : nearestMagnitude num den ≤ infinite := by
  unfold nearestMagnitude
  split
  · exact Nat.zero_le _
  · exact Nat.min_le_left _ _

/-- A quotient with at most 52 bits before the point is not rounded up to infinity. -/
theorem nearestMagnitude_lt_infinite_of_log2 (positive : 0 < den)
    (bits : num.log2 < den.log2 + 52) : nearestMagnitude num den < infinite := by
  unfold nearestMagnitude
  split
  · decide
  · obtain ⟨least, greatest⟩ := floorLog2_bounds num den
    generalize floorLog2 num den = f at least greatest
    dsimp only
    obtain ⟨down, steps⟩ := Int.eq_negSucc_of_lt_zero
      (show ((f + 1022).toNat : Int) - 1074 < 0 by omega)
    have quotient : (num <<< (down + 1)) / den < 2 ^ 54 := shiftLeft_div_lt positive (by omega)
    have rounded := roundHalfEven_le (num <<< (down + 1)) den
    rw [steps]
    refine Nat.lt_of_le_of_lt (Nat.min_le_right _ _) ?_
    change (f + 1022).toNat * binade + roundHalfEven (num <<< (down + 1)) den < infinite
    have step : (f + 1022).toNat ≤ 1073 := by omega
    unfold infinite binade
    omega

/-- A fraction is not rounded up to infinity. -/
theorem nearestMagnitude_lt_infinite (less : num < den) : nearestMagnitude num den < infinite := by
  have positive : 0 < den := Nat.zero_lt_of_lt less
  refine nearestMagnitude_lt_infinite_of_log2 positive ?_
  rcases Nat.eq_zero_or_pos num with rfl | some
  · rw [Nat.log2_zero]
    omega
  · have bits : num.log2 ≤ den.log2 :=
      (Nat.le_log2 (Nat.ne_of_gt positive)).2
        (Nat.le_trans (Nat.log2_self_le (Nat.ne_of_gt some)) (Nat.le_of_lt less))
    omega

end Quotient

end Playhouse.Binary64

import Playhouse.Proofs.Binary64.Order

/-!
# Finite results

When is the result of an operation finite, and when is it a number at all? Not-a-number comes from
not-a-number, from a difference of infinities and from a product with one, so sums and differences
with a finite value are numbers (`number_add`, `number_sub`), and products of finite values are
(`number_mul`).

A finite result is one that is not rounded up to infinity. `Roundable` bounds the exact values of
which this holds: they are less than half a step above the greatest finite value
(`isFinite_round`). So finite values stay finite when their sign is changed, when they are halved
and when the angle of an actor is added to them (`isFinite_mul_unit`, `isFinite_half`,
`isFinite_angle_add`).
-/

namespace Playhouse.Binary64

open Float.Model.UnpackedFloat
open Float.Model (UnpackedFloat Format totalExponent)

/-! ## Packed values -/

theorem isFinite_ofFields {s : Sign} {e : BitVec 11} {m : BitVec 52} (below : e ≠ -1#11) :
    (ofFields s e m).isFinite = true := by
  have kind := kind_ofFields s e m
  generalize ofFields s e m = u at kind ⊢
  cases kind with
  | infinity | notANumber _ => exact absurd rfl below
  | zero | subnormal _ | normal _ _ => rfl

theorem isNaN_of_isFinite {u : UnpackedFloat} (finite : u.isFinite = true) : u.isNaN = false := by
  cases u with
  | notANumber => cases finite
  | infinity s | zero s | finite s m e positive => rfl

theorem isNaN_unpack_pack (u : UnpackedFloat) : (Float.Model.pack u).unpack.isNaN = u.isNaN := by
  change (unpack .binary64 (pack .binary64 u)).isNaN = u.isNaN
  cases u with
  | notANumber => rfl
  | infinity s => cases s <;> rfl
  | zero s => cases s <;> rfl
  | finite s m e positive =>
    obtain ⟨f, n, packed, number, -⟩ := exists_pack_finite s m e positive
    change _ = false
    rw [packed, unpack_ofParts]
    have kind := kind_ofFields s f n
    generalize ofFields s f n = u at kind ⊢
    cases kind with
    | notANumber some => exact absurd number (not_or.2 ⟨not_not_intro rfl, some⟩)
    | infinity | zero | subnormal _ | normal _ _ => rfl

theorem isFinite_unpack_zero (s : Sign) :
    (Float.Model.pack (.zero s)).unpack.isFinite = true := by
  cases s <;> rfl

theorem isFinite_unpack_pack (s : Sign) (m : Nat) {e : Int} (positive : 0 < m) (fits : e ≤ 971) :
    (Float.Model.pack (.finite s m e positive)).unpack.isFinite = true := by
  change (unpack .binary64 (pack .binary64 _)).isFinite = true
  obtain ⟨f, n, packed, -, below⟩ := exists_pack_finite s m e positive
  rw [packed, unpack_ofParts]
  exact isFinite_ofFields (below fits)

/-- The significands and exponents that values have. -/
theorem bounds_of_unpack {x : Float} {s : Sign} {m : Nat} {e : Int} {positive : 0 < m}
    (found : x.toModel.unpack = .finite s m e positive) :
    m < 2 ^ 53 ∧ e ≤ 971 := by
  obtain ⟨t, f, n, parts⟩ := exists_ofParts x.toModel.toBits.toBitVec
  have fields : ofFields t f n = .finite s m e positive := by
    rw [← unpack_ofParts, ← parts]
    exact found
  have kind := kind_ofFields t f n
  rw [fields] at kind
  have := n.isLt
  have := f.isLt
  cases kind with
  | subnormal _ => omega
  | normal top _ =>
    have below : f.toNat ≠ 2047 := fun same => top (BitVec.eq_of_toNat_eq same)
    omega

/-- A finite value is zero or has a significand and an exponent within the bounds. -/
theorem unpack_of_isFinite {x : Float} (finite : x.isFinite = true) :
    (∃ s, x.toModel.unpack = .zero s) ∨
      ∃ s m e positive, x.toModel.unpack = .finite s m e positive ∧ m < 2 ^ 53 ∧ e ≤ 971 := by
  change x.toModel.unpack.isFinite = true at finite
  cases unpacked : x.toModel.unpack with
  | notANumber | infinity s =>
    rw [unpacked] at finite
    cases finite
  | zero s => exact .inl ⟨s, rfl⟩
  | finite s m e positive => exact .inr ⟨s, m, e, positive, rfl, bounds_of_unpack unpacked⟩

/-! ## Rounding -/

section Shift

variable (em : ExtendedMantissa) (k : Nat)

theorem shiftRight_succ : em >>> (k + 1) = (em >>> k).shiftRightOne := rfl

theorem mantissa_shiftRight : (em >>> k).mantissa = em.mantissa / 2 ^ k := by
  induction k with
  | zero => exact (Nat.div_one _).symm
  | succ k ih =>
    rw [shiftRight_succ, Nat.pow_succ, ← Nat.div_div_eq_div_mul, ← ih]
    rfl

/-- The round bit is the last one that was shifted out. -/
theorem roundBit_shiftRight_succ :
    (em >>> (k + 1)).roundBit = (em.mantissa / 2 ^ k % 2 != 0) := by
  rw [shiftRight_succ, ← mantissa_shiftRight]
  rfl

theorem roundedMantissa_le : em.roundedMantissa ≤ em.mantissa + 1 := by
  obtain ⟨m, roundBit, stickyBit⟩ := em
  have := Nat.mod_lt m (Nat.zero_lt_two)
  cases roundBit <;> cases stickyBit
  · exact Nat.le_succ m
  · exact Nat.le_succ m
  · change m + m % 2 ≤ m + 1
    omega
  · exact Nat.le_refl _

theorem roundedMantissa_of_not_roundBit (down : em.roundBit = false) :
    em.roundedMantissa = em.mantissa := by
  obtain ⟨m, roundBit, stickyBit⟩ := em
  cases down
  cases stickyBit <;> rfl

theorem mantissa_ofMantissaAndAccuracy (m : Nat) (a : Accuracy) :
    (ExtendedMantissa.ofMantissaAndAccuracy m a).mantissa = m := by
  cases a with
  | exact => rfl
  | inexact o => cases o <;> rfl

end Shift

/-- Less than half a step above the greatest finite value. -/
structure Roundable (m : Nat) (e : Int) : Prop where
  exponent_le : e ≤ 970
  lt : m < (2 ^ 54 - 1) * 2 ^ (970 - e).toNat

/-- However many bits are shifted out, rounding gains no bit beyond the greatest exponent. -/
theorem roundedMantissa_shiftRight_lt {em : ExtendedMantissa} {d k : Nat}
    (small : em.mantissa < (2 ^ 54 - 1) * 2 ^ d) (shift : k ≤ d + 1) :
    (em >>> k).roundedMantissa < 2 ^ (54 + d - k) := by
  rcases Nat.lt_or_ge d k with beyond | inside
  · -- The last bit that is shifted out is the one that decides.
    obtain rfl : k = d + 1 := by omega
    have shifted : em.mantissa / 2 ^ d < 2 ^ 54 - 1 :=
      (Nat.div_lt_iff_lt_mul (Nat.two_pow_pos d)).2 small
    have mantissa : (em >>> (d + 1)).mantissa = em.mantissa / 2 ^ d / 2 := by
      rw [mantissa_shiftRight, Nat.pow_succ, Nat.div_div_eq_div_mul]
    have bit := roundBit_shiftRight_succ em d
    rw [show 54 + d - (d + 1) = 53 by omega]
    generalize em.mantissa / 2 ^ d = n at shifted mantissa bit
    cases up : n % 2 != 0 with
    | false =>
      rw [up] at bit
      rw [roundedMantissa_of_not_roundBit _ bit, mantissa]
      omega
    | true =>
      have odd : n % 2 ≠ 0 := bne_iff_ne.1 up
      have := roundedMantissa_le (em >>> (d + 1))
      omega
  · have mantissa : (em >>> k).mantissa < (2 ^ 54 - 1) * 2 ^ (d - k) := by
      rw [mantissa_shiftRight, Nat.div_lt_iff_lt_mul (Nat.two_pow_pos k), Nat.mul_assoc,
        ← Nat.pow_add, Nat.sub_add_cancel inside]
      exact small
    calc (em >>> k).roundedMantissa
        ≤ (em >>> k).mantissa + 1 := roundedMantissa_le _
      _ ≤ (2 ^ 54 - 1) * 2 ^ (d - k) := mantissa
      _ < 2 ^ 54 * 2 ^ (d - k) := Nat.mul_lt_mul_of_pos_right (by decide) (Nat.two_pow_pos _)
      _ = 2 ^ (54 + d - k) := by rw [← Nat.pow_add, Nat.add_sub_assoc inside]

theorem log2_le_of_lt {n k : Nat} (less : n < 2 ^ (k + 1)) : n.log2 ≤ k := by
  by_cases zero : n = 0
  · subst zero
    exact Nat.zero_le k
  · exact Nat.le_of_lt_succ ((Nat.log2_lt zero).2 less)

theorem isFinite_zero_or_finite (s : Sign) (m : Nat) {e : Int} (fits : e ≤ 971) :
    (Float.Model.pack
      (if h : m = 0 then .zero s else .finite s m e (Nat.pos_of_ne_zero h))).unpack.isFinite =
      true := by
  by_cases none : m = 0
  · rw [dif_pos none]
    exact isFinite_unpack_zero s
  · rw [dif_neg none]
    exact isFinite_unpack_pack s m _ fits

/-- Rounding leads to infinity only beyond the bound. -/
theorem isFinite_round {m : Nat} {e : Int} (roundable : Roundable m e) (s : Sign) (a : Accuracy) :
    (Float.Model.pack (roundWithAccuracy .binary64 s m e a)).unpack.isFinite = true := by
  obtain ⟨top, small⟩ := roundable
  have target : ∀ t, Format.binary64.targetExponent t = max (t - 53) (-1074) := fun _ => rfl
  obtain ⟨d, hd⟩ : ∃ d : Nat, (970 - e).toNat = d := ⟨_, rfl⟩
  rw [hd] at small
  have bits : m.log2 ≤ 53 + d := by
    refine log2_le_of_lt (Nat.lt_of_lt_of_le small ?_)
    rw [show 53 + d + 1 = 54 + d by omega, Nat.pow_add]
    exact Nat.mul_le_mul_right _ (by decide)
  refine isFinite_zero_or_finite s _ ?_
  simp only [totalExponent, target]
  generalize hk : (max ((m.log2 : Int) + 1 + e - 53) (-1074) - e).toNat = k
  have shift : k ≤ d + 1 := by omega
  rw [← mantissa_ofMantissaAndAccuracy m a] at small
  have rounded := roundedMantissa_shiftRight_lt small shift
  generalize (ExtendedMantissa.ofMantissaAndAccuracy m a >>> k).roundedMantissa = r at rounded ⊢
  have again : r.log2 ≤ 53 + d - k := by
    refine log2_le_of_lt ?_
    rwa [show 53 + d - k + 1 = 54 + d - k by omega]
  omega

theorem Roundable.shiftLeft {m : Nat} {e : Int} (roundable : Roundable m e) (k : Nat) :
    Roundable (m <<< k) (e - k) where
  exponent_le := by
    have := roundable.exponent_le
    omega
  lt := by
    have top := roundable.exponent_le
    rw [show (970 - (e - k)).toNat = (970 - e).toNat + k by omega, Nat.shiftLeft_eq, Nat.pow_add,
      ← Nat.mul_assoc]
    exact Nat.mul_lt_mul_of_pos_right roundable.lt (Nat.two_pow_pos k)

theorem isFinite_normalize {m : Int} {e : Int} (roundable : Roundable m.natAbs e) (zero : Sign) :
    (Float.Model.pack (UnpackedFloat.normalize .binary64 m e zero)).unpack.isFinite = true := by
  unfold UnpackedFloat.normalize
  split
  · rename_i less
    have below := Int.compare_eq_lt.1 less
    rw [show (-m).toNat = m.natAbs by omega]
    exact isFinite_round (roundable.shiftLeft _) _ _
  · exact isFinite_unpack_zero zero
  · rename_i greater
    have above := Int.compare_eq_gt.1 greater
    rw [show m.toNat = m.natAbs by omega]
    exact isFinite_round (roundable.shiftLeft _) _ _

/-! ## Results that are numbers -/

theorem isNaN_zero_or_finite (s : Sign) (m : Nat) (e : Int) :
    (if h : m = 0 then UnpackedFloat.zero s
      else .finite s m e (Nat.pos_of_ne_zero h)).isNaN = false := by
  by_cases none : m = 0
  · rw [dif_pos none]
    rfl
  · rw [dif_neg none]
    rfl

theorem isNaN_roundWithAccuracy (s : Sign) (m : Nat) (e : Int) (a : Accuracy) :
    (roundWithAccuracy .binary64 s m e a).isNaN = false :=
  isNaN_zero_or_finite s _ _

theorem isNaN_normalize (m : Int) (e : Int) (zero : Sign) :
    (UnpackedFloat.normalize .binary64 m e zero).isNaN = false := by
  unfold UnpackedFloat.normalize
  split
  · exact isNaN_roundWithAccuracy _ _ _ _
  · rfl
  · exact isNaN_roundWithAccuracy _ _ _ _

theorem isNaN_add {u v : UnpackedFloat} (number : u.isNaN = false) (finite : v.isFinite = true) :
    (add .binary64 u v).isNaN = false := by
  cases u with
  | notANumber => cases number
  | infinity s | zero s =>
    cases v with
    | notANumber | infinity t => cases finite
    | zero t | finite t n f positive => cases s <;> first | rfl | cases t <;> rfl
  | finite s m e positive =>
    cases v with
    | notANumber | infinity t => cases finite
    | zero t => rfl
    | finite t n f positive' => exact isNaN_normalize _ _ _

theorem apply_neg (s : Sign) (n : Nat) : (-s).apply n = -s.apply n := by
  cases s with
  | negative => exact (Int.neg_neg _).symm
  | positive => rfl

theorem sub_eq_add_neg (u v : UnpackedFloat) : sub .binary64 u v = add .binary64 u v.neg := by
  cases u with
  | notANumber => cases v <;> rfl
  | infinity s | zero s =>
    cases v with
    | notANumber => rfl
    | infinity t | zero t | finite t n f positive => cases s <;> cases t <;> rfl
  | finite s m e positive =>
    cases v with
    | notANumber | infinity t | zero t => rfl
    | finite t n f positive' =>
      change UnpackedFloat.normalize .binary64 (_ - _) _ _ =
        UnpackedFloat.normalize .binary64 (_ + (-t).apply _) _ _
      rw [apply_neg, Int.sub_eq_add_neg]

theorem isNaN_sub {u v : UnpackedFloat} (number : u.isNaN = false) (finite : v.isFinite = true) :
    (sub .binary64 u v).isNaN = false := by
  have flipped : v.neg.isFinite = v.isFinite := by cases v <;> rfl
  rw [sub_eq_add_neg]
  exact isNaN_add number (flipped.trans finite)

theorem isNaN_mul {u v : UnpackedFloat} (hu : u.isFinite = true) (hv : v.isFinite = true) :
    (mul .binary64 u v).isNaN = false := by
  cases u with
  | notANumber | infinity s => cases hu
  | zero s =>
    cases v with
    | notANumber | infinity t => cases hv
    | zero t | finite t n f positive => rfl
  | finite s m e positive =>
    cases v with
    | notANumber | infinity t => cases hv
    | zero t => rfl
    | finite t n f positive' => exact isNaN_roundWithAccuracy _ _ _ _

variable {x y : Float}

theorem number_of_isFinite (finite : x.isFinite = true) : Number x :=
  isNaN_of_isFinite finite

theorem number_add (hx : Number x) (hy : y.isFinite = true) : Number (x + y) :=
  (isNaN_unpack_pack _).trans (isNaN_add hx hy)

theorem number_sub (hx : Number x) (hy : y.isFinite = true) : Number (x - y) :=
  (isNaN_unpack_pack _).trans (isNaN_sub hx hy)

theorem number_mul (hx : x.isFinite = true) (hy : y.isFinite = true) : Number (x * y) :=
  (isNaN_unpack_pack _).trans (isNaN_mul hx hy)

/-! ## Results that are finite -/

theorem isFinite_neg (hx : x.isFinite = true) : (-x).isFinite = true := by
  change (Float.Model.pack x.toModel.unpack.neg).unpack.isFinite = true
  rcases unpack_of_isFinite hx with ⟨s, unpacked⟩ | ⟨s, m, e, positive, unpacked, -, top⟩
  · rw [unpacked]
    exact isFinite_unpack_zero (-s)
  · rw [unpacked]
    exact isFinite_unpack_pack (-s) m positive top

/-- A product with `1.0` or `-1.0` is not rounded. -/
theorem isFinite_mul_unit {s : Sign} (hx : x.isFinite = true)
    (hy : y.toModel.unpack = .finite s (2 ^ 52) (-52) (Nat.two_pow_pos 52)) :
    (x * y).isFinite = true := by
  change (Float.Model.pack (mul .binary64 x.toModel.unpack y.toModel.unpack)).unpack.isFinite = true
  rw [hy]
  rcases unpack_of_isFinite hx with ⟨t, unpacked⟩ | ⟨t, m, e, positive, unpacked, bits, top⟩
  · rw [unpacked]
    exact isFinite_unpack_zero (t * s)
  · rw [unpacked]
    refine isFinite_round ⟨by omega, ?_⟩ _ _
    calc m * 2 ^ 52
        ≤ (2 ^ 53 - 1) * 2 ^ 52 := Nat.mul_le_mul_right _ (by omega)
      _ < (2 ^ 54 - 1) * 2 ^ 51 := by decide
      _ ≤ (2 ^ 54 - 1) * 2 ^ (970 - (e + -52)).toNat :=
        Nat.mul_le_mul_left _ (Nat.pow_le_pow_right Nat.zero_lt_two (by omega))

/-- A quotient by `2.0` is far below the bound. -/
theorem roundable_half {m n : Nat} {e f : Int} (bits : m < 2 ^ 53) (top : e ≤ 971)
    (two : n = 2 ^ 52) (one : f = -51) :
    Roundable (divCore .binary64 m e n f).1 (divCore .binary64 m e n f).2.1 := by
  have target : ∀ t, Format.binary64.targetExponent t = max (t - 53) (-1074) := fun _ => rfl
  have log2 : m.log2 ≤ 52 := log2_le_of_lt bits
  have log2_two : n.log2 = 52 := by
    rw [two]
    exact Nat.log2_two_pow
  unfold divCore
  simp only [totalExponent, target, log2_two]
  generalize hg : min (e - f) (max ((m.log2 : Int) + 1 + e - ((52 : Nat) + 1 + f) - 53) (-1074)) = g
  have below : g ≤ 970 := by omega
  refine ⟨below, ?_⟩
  rw [Nat.shiftLeft_eq, Nat.div_lt_iff_lt_mul (by omega), two]
  calc m * 2 ^ (e - f - g).toNat
      < 2 ^ 53 * 2 ^ (e - f - g).toNat := Nat.mul_lt_mul_of_pos_right bits (Nat.two_pow_pos _)
    _ ≤ 2 ^ 53 * 2 ^ ((970 - g).toNat + 52) :=
        Nat.mul_le_mul_left _ (Nat.pow_le_pow_right Nat.zero_lt_two (by omega))
    _ ≤ (2 ^ 54 - 1) * 2 ^ ((970 - g).toNat + 52) := Nat.mul_le_mul_right _ (by decide)
    _ = (2 ^ 54 - 1) * 2 ^ (970 - g).toNat * 2 ^ 52 := by rw [Nat.pow_add, Nat.mul_assoc]

theorem div_zero_finite {s t : Sign} {n : Nat} {f : Int} {positive : 0 < n} :
    div .binary64 (.zero s) (.finite t n f positive) = .zero (s / t) := rfl

theorem div_finite {s t : Sign} {m n : Nat} {e f : Int} {positive : 0 < m} {positive' : 0 < n} :
    div .binary64 (.finite s m e positive) (.finite t n f positive') =
      roundWithAccuracy .binary64 (s / t) (divCore .binary64 m e n f).1
        (divCore .binary64 m e n f).2.1 (divCore .binary64 m e n f).2.2 := rfl

theorem isFinite_half (hx : x.isFinite = true) : (x / 2.0).isFinite = true := by
  have two : (2.0 : Float).toModel.unpack = .finite .positive (2 ^ 52) (-51) (by decide) := rfl
  change (Float.Model.pack
    (div .binary64 x.toModel.unpack (2.0 : Float).toModel.unpack)).unpack.isFinite = true
  rw [two]
  rcases unpack_of_isFinite hx with ⟨s, unpacked⟩ | ⟨s, m, e, positive, unpacked, bits, top⟩
  · rw [unpacked, div_zero_finite]
    exact isFinite_unpack_zero _
  · rw [unpacked, div_finite]
    exact isFinite_round (roundable_half bits top rfl rfl) _ _

/-- An angle is zero, or its exponent is at most that of a full turn. -/
theorem unpack_of_angle (nonneg : 0.0 ≤ x) (below : x < 360.0) :
    (∃ s, x.toModel.unpack = .zero s) ∨
      ∃ m e positive, x.toModel.unpack = .finite .positive m e positive ∧ e ≤ -44 := by
  have turn : (360.0 : Float).toModel.unpack =
      .finite .positive 6333186975989760 (-44) (by decide) := rfl
  rw [lt_iff, turn] at below
  rcases unpack_of_nonneg nonneg with zero | infinite | ⟨m, e, positive, unpacked⟩
  · exact .inl zero
  · rw [infinite] at below
    cases below
  · rw [unpacked, lt_finite_iff] at below
    exact .inr ⟨m, e, positive, unpacked, by omega⟩

theorem natAbs_apply (s : Sign) (n : Nat) : (s.apply n).natAbs = n := by
  cases s with
  | negative => exact Int.natAbs_neg n
  | positive => rfl

/-- A small value leads beyond the greatest one by less than half a step. -/
theorem roundable_add {m n : Nat} {e f : Int} (bits : m < 2 ^ 53) (small : e ≤ -44)
    (bits' : n < 2 ^ 53) (top : f ≤ 971) (s t : Sign) :
    Roundable (s.apply (m <<< (e - min e f).toNat) + t.apply (n <<< (f - min e f).toNat)).natAbs
      (min e f) := by
  refine ⟨by omega, ?_⟩
  generalize hg : min e f = g
  have first : m * 2 ^ (e - g).toNat < 2 ^ (970 - g).toNat :=
    calc m * 2 ^ (e - g).toNat
        < 2 ^ 53 * 2 ^ (e - g).toNat := Nat.mul_lt_mul_of_pos_right bits (Nat.two_pow_pos _)
      _ = 2 ^ (53 + (e - g).toNat) := (Nat.pow_add ..).symm
      _ ≤ 2 ^ (970 - g).toNat := Nat.pow_le_pow_right Nat.zero_lt_two (by omega)
  have second : n * 2 ^ (f - g).toNat ≤ (2 ^ 54 - 2) * 2 ^ (970 - g).toNat :=
    calc n * 2 ^ (f - g).toNat
        ≤ (2 ^ 53 - 1) * 2 ^ (f - g).toNat := Nat.mul_le_mul_right _ (by omega)
      _ ≤ (2 ^ 53 - 1) * 2 ^ ((970 - g).toNat + 1) :=
        Nat.mul_le_mul_left _ (Nat.pow_le_pow_right Nat.zero_lt_two (by omega))
      _ = (2 ^ 54 - 2) * 2 ^ (970 - g).toNat := by rw [Nat.pow_succ]; omega
  calc (s.apply (m <<< (e - g).toNat) + t.apply (n <<< (f - g).toNat)).natAbs
      ≤ m <<< (e - g).toNat + n <<< (f - g).toNat := by
        have triangle := Int.natAbs_add_le (s.apply (m <<< (e - g).toNat))
          (t.apply (n <<< (f - g).toNat))
        rwa [natAbs_apply, natAbs_apply] at triangle
    _ = m * 2 ^ (e - g).toNat + n * 2 ^ (f - g).toNat := by
        rw [Nat.shiftLeft_eq, Nat.shiftLeft_eq]
    _ < 2 ^ (970 - g).toNat + (2 ^ 54 - 2) * 2 ^ (970 - g).toNat :=
        Nat.add_lt_add_of_lt_of_le first second
    _ = (2 ^ 54 - 1) * 2 ^ (970 - g).toNat := by omega

theorem isFinite_angle_add (nonneg : 0.0 ≤ x) (below : x < 360.0) (hy : y.isFinite = true) :
    (x + y).isFinite = true := by
  change (Float.Model.pack (add .binary64 x.toModel.unpack y.toModel.unpack)).unpack.isFinite = true
  rcases unpack_of_angle nonneg below with ⟨s, angle⟩ | ⟨m, e, positive, angle, small⟩ <;>
    rcases unpack_of_isFinite hy with ⟨t, turn⟩ | ⟨t, n, f, positive', turn, bits', top⟩ <;>
    rw [angle, turn]
  · cases s <;> cases t <;> rfl
  · exact isFinite_unpack_pack t n positive' top
  · exact isFinite_unpack_pack .positive m positive (by omega)
  · exact isFinite_normalize
      (roundable_add (bounds_of_unpack angle).1 small bits' top .positive t) .positive

end Playhouse.Binary64

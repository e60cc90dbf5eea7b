import Mathlib.Algebra.Group.Nat.Defs
import Playhouse.Block.Token
import Playhouse.Geometry

/-!
# Signs of sums and products

`Unsigned x` says that `x` has no minus sign: it is positive, `0.0`, infinite or not a number. Sums
and products of such values are of the same kind (`unsigned_add`, `unsigned_mul`), and so is every
natural number (`unsigned_ofNat`). Adding zero to such a value changes no bit of it
(`add_zero_of_unsigned`); of all values only `-0.0` is changed by it.

A difference `x - x` is `0.0` or not a number, so its positive part is zero
(`positivePart_sub_self`).
-/

namespace Playhouse.Binary64

open Float.Model.UnpackedFloat
open Float.Model (UnpackedFloat Format)

/-- Has an unpacked value a minus sign? Not-a-number has none. -/
def minus : UnpackedFloat → Bool
  | .infinity s | .zero s | .finite s _ _ _ => s == .negative
  | .notANumber => false

def Unsigned (x : Float) : Prop :=
  minus x.toModel.unpack = false

instance (x : Float) : Decidable (Unsigned x) :=
  inferInstanceAs (Decidable (_ = _))

/-! ## Bit patterns -/

/-- The bit pattern with the given sign, exponent and significand. -/
def ofParts (s : Sign) (e : BitVec 11) (m : BitVec 52) : BitVec 64 :=
  s.toBitVec ++ e ++ m

/-- The value these three fields stand for. -/
def ofFields (s : Sign) (e : BitVec 11) (m : BitVec 52) : UnpackedFloat :=
  if e = -1#11 then if m = 0#52 then .infinity s else .notANumber
  else if e = 0#11 then
    if h : m = 0#52 then .zero s
    else .finite s m.toNat (-1074) (by simpa [BitVec.toNat_pos, BitVec.pos_iff_ne_zero])
  else .finite s (2 ^ 52 + m.toNat) (e.toNat - 1075) (by omega)

/-- The kinds of values that fields stand for. -/
inductive Kind (s : Sign) : BitVec 11 → BitVec 52 → UnpackedFloat → Prop where
  | infinity : Kind s (-1#11) 0#52 (.infinity s)
  | notANumber {m : BitVec 52} (some : m ≠ 0#52) : Kind s (-1#11) m .notANumber
  | zero : Kind s 0#11 0#52 (.zero s)
  | subnormal {m : BitVec 52} (positive : 0 < m.toNat) :
    Kind s 0#11 m (.finite s m.toNat (-1074) positive)
  | normal {e : BitVec 11} {m : BitVec 52} (top : e ≠ -1#11) (positive : 0 < 2 ^ 52 + m.toNat) :
    Kind s e m (.finite s (2 ^ 52 + m.toNat) (e.toNat - 1075) positive)

theorem kind_ofFields (s : Sign) (e : BitVec 11) (m : BitVec 52) : Kind s e m (ofFields s e m) := by
  unfold ofFields
  by_cases top : e = -1#11
  · rw [if_pos top, top]
    by_cases none : m = 0#52
    · rw [if_pos none, none]
      exact .infinity
    · rw [if_neg none]
      exact .notANumber none
  · rw [if_neg top]
    by_cases bottom : e = 0#11
    · rw [if_pos bottom, bottom]
      by_cases none : m = 0#52
      · rw [dif_pos none, none]
        exact .zero
      · rw [dif_neg none]
        exact .subnormal _
    · rw [if_neg bottom]
      exact .normal top _

theorem exists_ofParts (b : BitVec 64) : ∃ s e m, b = ofParts s e m := by
  refine ⟨Sign.ofBitVec (b.extractLsb' 63 1), b.extractLsb' 52 11, b.extractLsb' 0 52, ?_⟩
  have sign : ∀ v : BitVec 1, (Sign.ofBitVec v).toBitVec = v := by decide
  apply BitVec.eq_of_getLsbD_eq
  intro i hi
  simp only [ofParts, sign, BitVec.getLsbD_append, BitVec.getLsbD_extractLsb']
  grind

theorem unpackSign_ofParts (s : Sign) (e : BitVec 11) (m : BitVec 52) :
    @unpackSign .binary64 (ofParts s e m) = s.toBitVec := by
  change (s.toBitVec ++ e ++ m).extractLsb' 63 1 = s.toBitVec
  rw [BitVec.extractLsb'_append_eq_of_le (by decide),
    BitVec.extractLsb'_append_eq_of_le (by decide)]
  exact BitVec.extractLsb'_eq_self

theorem unpackExponent_ofParts (s : Sign) (e : BitVec 11) (m : BitVec 52) :
    @unpackExponent .binary64 (ofParts s e m) = e :=
  @unpackExponent_packComponents .binary64 s e m

theorem unpackMantissa_ofParts (s : Sign) (e : BitVec 11) (m : BitVec 52) :
    @unpackMantissa .binary64 (ofParts s e m) = m :=
  @unpackMantissa_packComponents .binary64 s e m

theorem finite_congr {s s' : Sign} {m m' : Nat} {e e' : Int} {positive : 0 < m} {positive' : 0 < m'}
    (sign : s = s') (significand : m = m') (exponent : e = e') :
    UnpackedFloat.finite s m e positive = .finite s' m' e' positive' := by
  subst sign significand exponent
  rfl

theorem unpack_eq_of_parts {b : BitVec 64} {s : Sign} {e : BitVec 11} {m : BitVec 52}
    (sign : @unpackSign .binary64 b = s.toBitVec) (exponent : @unpackExponent .binary64 b = e)
    (mantissa : @unpackMantissa .binary64 b = m) :
    unpack .binary64 b = ofFields s e m := by
  have lead : (1#1 ++ m).toNat = 2 ^ 52 + m.toNat := by
    rw [BitVec.toNat_append, ← Nat.shiftLeft_add_eq_or_of_lt m.isLt]
    rfl
  have same : Sign.ofBitVec (@unpackSign .binary64 b) = s := by
    rw [sign]
    cases s <;> rfl
  subst exponent mantissa
  unfold unpack ofFields
  dsimp only
  by_cases top : @unpackExponent .binary64 b = -1#11
  · rw [if_pos top, if_pos top, same]
  · rw [if_neg top, if_neg top]
    by_cases bottom : @unpackExponent .binary64 b = 0#11
    · rw [if_pos bottom, if_pos bottom]
      by_cases none : @unpackMantissa .binary64 b = 0#52
      · rw [dif_pos none, dif_pos none, same]
      · rw [dif_neg none, dif_neg none]
        refine finite_congr same rfl ?_
        rw [bottom]
        rfl
    · rw [if_neg bottom, if_neg bottom]
      exact finite_congr same lead rfl

theorem unpack_ofParts (s : Sign) (e : BitVec 11) (m : BitVec 52) :
    unpack .binary64 (ofParts s e m) = ofFields s e m :=
  unpack_eq_of_parts (unpackSign_ofParts s e m) (unpackExponent_ofParts s e m)
    (unpackMantissa_ofParts s e m)

/-- A value that is not not-a-number is packed with its sign. -/
theorem minus_unpack_ofParts (s : Sign) (e : BitVec 11) (m : BitVec 52)
    (number : e ≠ -1#11 ∨ m = 0#52) :
    minus (unpack .binary64 (ofParts s e m)) = (s == .negative) := by
  rw [unpack_ofParts]
  have kind := kind_ofFields s e m
  generalize ofFields s e m = u at kind ⊢
  cases kind with
  | notANumber some => exact absurd number (not_or.2 ⟨not_not_intro rfl, some⟩)
  | infinity | zero | subnormal _ | normal _ _ => rfl

/-- The fields of a packed value. They are those of a finite one unless the exponent is too
large. -/
theorem exists_pack_finite (s : Sign) (m : Nat) (e : Int) (positive : 0 < m) :
    ∃ f n, pack .binary64 (.finite s m e positive) = ofParts s f n ∧
      (f ≠ -1#11 ∨ n = 0#52) ∧ (e ≤ 971 → f ≠ -1#11) := by
  have bias : ((Format.binary64.exponentBias : Nat) : Int) = 1023 := rfl
  unfold pack
  dsimp only
  split
  · rename_i large
    refine ⟨-1#11, 0#52, rfl, Or.inr rfl, fun fits => ?_⟩
    change 2048 ≤ (e + Format.binary64.exponentBias + 52 : Int).toNat + 1 at large
    omega
  · rename_i fits
    split
    · have below : BitVec.ofNat 11 (e + Format.binary64.exponentBias + 52 : Int).toNat ≠ -1#11 := by
        intro top
        apply fits
        have top := congrArg BitVec.toNat top
        rw [BitVec.toNat_ofNat] at top
        change _ = 2047 at top
        have := Nat.mod_le (e + Format.binary64.exponentBias + 52 : Int).toNat (2 ^ 11)
        change _ ≤ (e + Format.binary64.exponentBias + 52 : Int).toNat + 1
        omega
      exact ⟨_, _, rfl, Or.inl below, fun _ => below⟩
    · exact ⟨_, _, rfl, Or.inl (by decide), fun _ => by decide⟩

theorem minus_unpack_pack (u : UnpackedFloat) : minus (Float.Model.pack u).unpack = minus u := by
  change minus (unpack .binary64 (pack .binary64 u)) = minus u
  cases u with
  | notANumber => rfl
  | infinity s => cases s <;> rfl
  | zero s => cases s <;> rfl
  | finite s m e positive =>
    obtain ⟨f, n, packed, number, -⟩ := exists_pack_finite s m e positive
    rw [packed, minus_unpack_ofParts s f n number]
    rfl

theorem pack_subnormal (s : Sign) (m : BitVec 52) (positive : 0 < m.toNat) :
    pack .binary64 (.finite s m.toNat (-1074) positive) = ofParts s 0#11 m := by
  have biased : ((-1074 : Int) + Format.binary64.exponentBias + (52 : Nat)).toNat = 1 := rfl
  have short : m.toNat.log2 < 52 := (Nat.log2_lt (Nat.ne_of_gt positive)).2 m.isLt
  unfold pack
  dsimp only
  rw [biased, if_neg (by decide), if_neg (fun long => by change _ = 53 at long; omega),
    BitVec.ofNat_toNat, BitVec.setWidth_eq]
  rfl

theorem pack_normal (s : Sign) (e : BitVec 11) (m : BitVec 52) (top : e ≠ -1#11)
    (positive : 0 < 2 ^ 52 + m.toNat) :
    pack .binary64 (.finite s (2 ^ 52 + m.toNat) (e.toNat - 1075) positive) = ofParts s e m := by
  have bias : ((Format.binary64.exponentBias : Nat) : Int) = 1023 := rfl
  have biased : ((e.toNat - 1075 : Int) + Format.binary64.exponentBias + (52 : Nat)).toNat =
      e.toNat := by
    omega
  have below : e.toNat ≠ 2047 := fun h => top (BitVec.eq_of_toNat_eq h)
  have long : (2 ^ 52 + m.toNat).log2 = 52 := by
    have := m.isLt
    refine (Nat.log2_eq_iff (by omega)).2 ⟨by omega, by omega⟩
  have significand : BitVec.ofNat 52 (2 ^ 52 + m.toNat) = m := by
    apply BitVec.eq_of_toNat_eq
    rw [BitVec.toNat_ofNat, Nat.add_mod_left, Nat.mod_eq_of_lt m.isLt]
  unfold pack
  dsimp only
  rw [biased, long, if_neg (by have := e.isLt; omega),
    if_pos (show 52 + 1 = Format.binary64.mantissaBits from rfl), significand,
    BitVec.ofNat_toNat, BitVec.setWidth_eq]
  rfl

theorem pack_ofFields (s : Sign) (e : BitVec 11) (m : BitVec 52)
    (number : e ≠ -1#11 ∨ m = 0#52) : pack .binary64 (ofFields s e m) = ofParts s e m := by
  have kind := kind_ofFields s e m
  generalize ofFields s e m = u at kind ⊢
  cases kind with
  | notANumber some => exact absurd number (not_or.2 ⟨not_not_intro rfl, some⟩)
  | infinity | zero => rfl
  | subnormal positive => exact pack_subnormal s m positive
  | normal top positive => exact pack_normal s e m top positive

/-- Unpacking loses nothing, as there is one bit pattern for not-a-number. -/
theorem pack_unpack (f : Float.Model) : Float.Model.pack f.unpack = f := by
  obtain ⟨bits, valid⟩ := f
  suffices h : pack .binary64 (unpack .binary64 bits.toBitVec) = bits.toBitVec by
    exact (Float.Model.mk.injEq ..).mpr (congrArg UInt64.ofBitVec h)
  obtain ⟨s, e, m, parts⟩ := exists_ofParts bits.toBitVec
  rw [parts] at valid ⊢
  rw [unpack_ofParts]
  by_cases number : e ≠ -1#11 ∨ m = 0#52
  · exact pack_ofFields s e m number
  · obtain ⟨top, some⟩ := not_or.1 number
    have top := Decidable.of_not_not top
    rw [ofFields, if_pos top, if_neg some]
    refine (valid.eq_packedNaN ?_ ?_).symm
    · rw [unpackExponent_ofParts, top]
    · rwa [unpackMantissa_ofParts]

/-! ## Signs -/

theorem minus_zero_or_finite (s : Sign) (m : Nat) (e : Int) :
    minus (if h : m = 0 then .zero s else .finite s m e (Nat.pos_of_ne_zero h)) =
      (s == .negative) := by
  by_cases none : m = 0
  · rw [dif_pos none]
    rfl
  · rw [dif_neg none]
    rfl

theorem minus_roundWithAccuracy (s : Sign) (m : Nat) (e : Int) (a : Accuracy) :
    minus (roundWithAccuracy .binary64 s m e a) = (s == .negative) :=
  minus_zero_or_finite s _ _

theorem minus_normalize {m : Int} (nonneg : 0 ≤ m) (e : Int) :
    minus (UnpackedFloat.normalize .binary64 m e .positive) = false := by
  unfold UnpackedFloat.normalize
  split
  · rename_i less
    have := Int.compare_eq_lt.1 less
    omega
  · rfl
  · exact minus_roundWithAccuracy _ _ _ _

theorem eq_positive_of_not_minus {s : Sign} (h : (s == .negative) = false) : s = .positive := by
  cases s
  · exact absurd h (by decide)
  · rfl

theorem minus_add {u v : UnpackedFloat} (hu : minus u = false) (hv : minus v = false) :
    minus (add .binary64 u v) = false := by
  cases u with
  | notANumber => rfl
  | infinity s =>
    obtain rfl := eq_positive_of_not_minus hu
    cases v with
    | infinity t => obtain rfl := eq_positive_of_not_minus hv; rfl
    | _ => rfl
  | zero s =>
    obtain rfl := eq_positive_of_not_minus hu
    cases v with
    | zero t => obtain rfl := eq_positive_of_not_minus hv; rfl
    | _ => exact hv
  | finite s m e positive =>
    obtain rfl := eq_positive_of_not_minus hu
    cases v with
    | finite t n f positive' =>
      obtain rfl := eq_positive_of_not_minus hv
      exact minus_normalize (Int.add_nonneg (Int.natCast_nonneg _) (Int.natCast_nonneg _)) _
    | notANumber => rfl
    | infinity t => exact hv
    | zero t => rfl

theorem minus_mul {u v : UnpackedFloat} (hu : minus u = false) (hv : minus v = false) :
    minus (mul .binary64 u v) = false := by
  cases u with
  | notANumber => rfl
  | infinity s | zero s =>
    obtain rfl := eq_positive_of_not_minus hu
    cases v with
    | notANumber => rfl
    | infinity t | zero t | finite t n f positive' =>
      obtain rfl := eq_positive_of_not_minus hv
      rfl
  | finite s m e positive =>
    obtain rfl := eq_positive_of_not_minus hu
    cases v with
    | notANumber => rfl
    | infinity t | zero t =>
      obtain rfl := eq_positive_of_not_minus hv
      rfl
    | finite t n f positive' =>
      obtain rfl := eq_positive_of_not_minus hv
      exact minus_roundWithAccuracy _ _ _ _

theorem unsigned_ofModel_pack {u : UnpackedFloat} (h : minus u = false) :
    Unsigned (.ofModel (.pack u)) :=
  (minus_unpack_pack u).trans h

theorem unsigned_add {x y : Float} (hx : Unsigned x) (hy : Unsigned y) : Unsigned (x + y) :=
  unsigned_ofModel_pack (minus_add hx hy)

theorem unsigned_mul {x y : Float} (hx : Unsigned x) (hy : Unsigned y) : Unsigned (x * y) :=
  unsigned_ofModel_pack (minus_mul hx hy)

theorem unsigned_ofNat (n : Nat) : Unsigned (Float.ofNat n) := by
  change Unsigned (Float.ofScientific n false 0)
  unfold Float.ofScientific
  split
  · have one : Unsigned (.ofBits 0x3FF0000000000000) := by decide
    exact unsigned_mul (unsigned_ofModel_pack (minus_normalize (Int.natCast_nonneg _) _)) one
  · change Unsigned (.ofModel (.pack (ofScientific .binary64 n 0)))
    refine unsigned_ofModel_pack ?_
    unfold ofScientific
    by_cases none : n = 0
    · rw [dif_pos none]
      rfl
    · have notTiny : ¬ (0 : Int) < -((2 ^ Format.binary64.exponentBits : Int) + n.log2) := by
        change ¬ (0 : Int) < -(2 ^ 11 + n.log2)
        omega
      rw [dif_neg none, if_neg (by decide), if_neg notTiny, if_pos (Int.le_refl 0)]
      exact minus_mul rfl rfl

theorem lt_iff {x y : Float} : x < y ↔ UnpackedFloat.lt x.toModel.unpack y.toModel.unpack = true :=
  decide_eq_true_iff

/-- A value above zero has no minus sign. -/
theorem unsigned_of_pos {x : Float} (h : 0.0 < x) : Unsigned x := by
  have zero : (0.0 : Float).toModel.unpack = .zero .positive := rfl
  rw [lt_iff, zero] at h
  unfold Unsigned
  generalize x.toModel.unpack = u at h ⊢
  cases u with
  | notANumber => rfl
  | zero s => exact absurd h (by cases s <;> decide)
  | infinity s | finite s m e positive =>
    cases s
    · exact absurd h Bool.false_ne_true
    · rfl

theorem add_zero_of_unsigned {x : Float} (h : Unsigned x) : x + 0.0 = x := by
  have zero : (0.0 : Float).toModel.unpack = .zero .positive := rfl
  have same : add .binary64 x.toModel.unpack (0.0 : Float).toModel.unpack = x.toModel.unpack := by
    rw [zero]
    unfold Unsigned at h
    generalize x.toModel.unpack = u at h ⊢
    cases u with
    | zero s => obtain rfl := eq_positive_of_not_minus h; rfl
    | _ => rfl
  change Float.ofModel (.pack (add .binary64 x.toModel.unpack (0.0 : Float).toModel.unpack)) = x
  rw [same, pack_unpack]

theorem zero_mul_of_pos {x : Float} (finite : x.isFinite = true) (pos : 0.0 < x) :
    0.0 * x = 0.0 := by
  have zero : (0.0 : Float).toModel.unpack = .zero .positive := rfl
  have unsigned := unsigned_of_pos pos
  have product : mul .binary64 (.zero .positive) x.toModel.unpack = .zero .positive := by
    change minus x.toModel.unpack = false at unsigned
    change x.toModel.unpack.isFinite = true at finite
    generalize x.toModel.unpack = u at unsigned finite ⊢
    cases u with
    | zero s | finite s m e positive =>
      obtain rfl := eq_positive_of_not_minus unsigned
      rfl
    | infinity s | notANumber => cases finite
  change Float.ofModel (.pack (mul .binary64 (0.0 : Float).toModel.unpack x.toModel.unpack)) = 0.0
  rw [zero, product]
  rfl

/-! ## Differences -/

theorem sub_self_unpacked (u : UnpackedFloat) :
    sub .binary64 u u = .zero .positive ∨ sub .binary64 u u = .notANumber := by
  cases u with
  | notANumber => exact Or.inr rfl
  | infinity s => cases s <;> exact Or.inr rfl
  | zero s => cases s <;> exact Or.inl rfl
  | finite s m e positive =>
    left
    unfold sub
    dsimp only
    rw [Int.sub_self]
    rfl

theorem positivePart_sub_self (x : Float) : positivePart (x - x) = 0.0 := by
  have notPos : ¬ 0.0 < x - x := by
    rw [lt_iff]
    change ¬ UnpackedFloat.lt (0.0 : Float).toModel.unpack
      (Float.Model.pack (sub .binary64 x.toModel.unpack x.toModel.unpack)).unpack = true
    rcases sub_self_unpacked x.toModel.unpack with h | h <;> rw [h] <;> decide
  exact if_neg notPos

end Playhouse.Binary64

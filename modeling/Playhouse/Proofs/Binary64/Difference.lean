import Playhouse.Proofs.Binary64.Monotone

/-!
# Differences and opposite values

The difference between a greater value and a lesser one is a number, and it is not negative
(`nonneg_sub`): neither do two infinities cancel out in it, nor does rounding change its sign.

The opposite of the opposite value is the value itself, down to its last bit (`neg_neg`).
-/

namespace Playhouse.Binary64

open Float.Model.UnpackedFloat
open Float.Model (UnpackedFloat Format)

/-! ## Differences -/

section Difference

variable {m n : Nat} {e f : Int} {positive : 0 < m} {positive' : 0 < n} {x y : Float}

theorem lt_negative_iff :
    UnpackedFloat.lt (.finite .negative m e positive) (.finite .negative n f positive') = true ↔
      f < e ∨ f = e ∧ n < m := by
  rw [lt_unpacked_iff]
  change some ((compare e f).then (compare m n)).swap = some .lt ↔ _
  rw [← lex_swap, Option.some_inj, Ordering.then_eq_lt, Int.compare_eq_lt, Int.compare_eq_eq,
    Nat.compare_eq_lt]

/-- Significands keep the order of the values if they are written for the lesser exponent. -/
theorem Canonical.shiftLeft_le (left : Canonical m e) (right : Canonical n f)
    (less : e < f ∨ e = f ∧ m < n) :
    m <<< (e - min e f).toNat ≤ n <<< (f - min e f).toNat := by
  obtain ⟨lesser, le⟩ := left.le_of_rank right (Nat.le_of_lt ((left.lt_iff right).1 less))
  rw [Int.min_eq_left lesser, Int.sub_self, Nat.shiftLeft_eq, Nat.shiftLeft_eq]
  exact Nat.le_trans (Nat.le_of_eq (Nat.mul_one m)) le

/-- The difference of two finite values before it is rounded. -/
theorem apply_sub_apply_nonneg {s t : Sign} (left : Canonical m e) (right : Canonical n f)
    (less : UnpackedFloat.lt (.finite s m e positive) (.finite t n f positive') = true) :
    0 ≤ t.apply (n <<< (f - min f e).toNat) - s.apply (m <<< (e - min f e).toNat) := by
  refine Int.sub_nonneg_of_le ?_
  cases s with
  | negative =>
    cases t with
    | negative =>
      have le := right.shiftLeft_le left (lt_negative_iff.1 less)
      exact Int.neg_le_neg (Int.ofNat_le.2 le)
    | positive =>
      exact Int.le_trans (Int.neg_nonpos_of_nonneg (Int.natCast_nonneg _)) (Int.natCast_nonneg _)
  | positive =>
    cases t with
    | negative => cases less
    | positive =>
      have le := left.shiftLeft_le right (lt_finite_iff.1 less)
      rw [Int.min_comm] at le
      exact Int.ofNat_le.2 le

/-- What lies above another value is neither not-a-number nor the infinity below all values. -/
theorem sub_unpacked_of_lt (less : x < y) :
    minus (sub .binary64 y.toModel.unpack x.toModel.unpack) = false ∧
      (sub .binary64 y.toModel.unpack x.toModel.unpack).isNaN = false := by
  rw [lt_iff] at less
  cases unpackedx : x.toModel.unpack with
  | notANumber =>
    rw [unpackedx] at less
    cases less
  | infinity s | zero s =>
    rw [unpackedx] at less
    cases unpackedy : y.toModel.unpack with
    | notANumber =>
      rw [unpackedy] at less
      cases s <;> cases less
    | infinity t | zero t | finite t n f positive' =>
      rw [unpackedy] at less
      cases s <;> cases t <;> first | exact ⟨rfl, rfl⟩ | cases less
  | finite s m e positive =>
    rw [unpackedx] at less
    cases unpackedy : y.toModel.unpack with
    | notANumber =>
      rw [unpackedy] at less
      cases s <;> cases less
    | infinity t | zero t =>
      rw [unpackedy] at less
      cases s <;> cases t <;> first | exact ⟨rfl, rfl⟩ | cases less
    | finite t n f positive' =>
      rw [unpackedy] at less
      have nonneg := apply_sub_apply_nonneg (canonical_of_unpack unpackedx)
        (canonical_of_unpack unpackedy) less
      exact ⟨minus_normalize nonneg _, isNaN_normalize _ _ _⟩

theorem nonneg_sub (less : x < y) : 0.0 ≤ y - x := by
  obtain ⟨unsigned, number⟩ := sub_unpacked_of_lt less
  exact nonneg_of_unsigned (unsigned_ofModel_pack unsigned) ((isNaN_unpack_pack _).trans number)

end Difference

/-! ## Opposite values -/

theorem neg_ofFields (s : Sign) {e : BitVec 11} {m : BitVec 52} (number : e ≠ -1#11 ∨ m = 0#52) :
    (ofFields s e m).neg = ofFields (-s) e m := by
  unfold ofFields
  by_cases top : e = -1#11
  · have none := number.resolve_left (not_not_intro top)
    rw [if_pos top, if_pos top, if_pos none, if_pos none]
    rfl
  · rw [if_neg top, if_neg top]
    by_cases bottom : e = 0#11
    · rw [if_pos bottom, if_pos bottom]
      by_cases none : m = 0#52
      · rw [dif_pos none, dif_pos none]
        rfl
      · rw [dif_neg none, dif_neg none]
        rfl
    · rw [if_neg bottom, if_neg bottom]
      rfl

theorem unpack_neg (x : Float) : (-x).toModel.unpack = x.toModel.unpack.neg := by
  change unpack .binary64 (pack .binary64 (unpack .binary64 x.toModel.toBits.toBitVec).neg) =
    (unpack .binary64 x.toModel.toBits.toBitVec).neg
  obtain ⟨s, e, m, parts⟩ := exists_ofParts x.toModel.toBits.toBitVec
  rw [parts, unpack_ofParts]
  by_cases number : e ≠ -1#11 ∨ m = 0#52
  · rw [neg_ofFields s number, pack_ofFields _ _ _ number, unpack_ofParts]
  · obtain ⟨top, some⟩ := not_or.1 number
    rw [ofFields, if_pos (Decidable.of_not_not top), if_neg some]
    rfl

theorem neg_neg_unpacked (u : UnpackedFloat) : u.neg.neg = u := by
  cases u with
  | notANumber => rfl
  | infinity s | zero s | finite s m e positive => cases s <;> rfl

theorem neg_neg (x : Float) : - -x = x := by
  change Float.ofModel (.pack (-x).toModel.unpack.neg) = x
  rw [unpack_neg, neg_neg_unpacked, pack_unpack]

end Playhouse.Binary64

import Playhouse.Proofs.Binary64.Finite

/-!
# The rank of a value

`rank` numbers the values that are not negative in their order, infinity included: one value is at
most another exactly if its rank is (`le_iff_rank`). On a value it is the bit pattern, as every
significand is as long as its exponent allows (`Canonical`). So comparisons of such values are
comparisons of natural numbers.
-/

namespace Playhouse.Binary64

open Float.Model.UnpackedFloat
open Float.Model (UnpackedFloat Format)

/-- The number of a value among those that are not negative. -/
def rank : UnpackedFloat → Nat
  | .zero _ | .notANumber => 0
  | .finite _ m e _ => (e + 1074).toNat * binade + m
  | .infinity _ => infinite

/-- The significand is normal or has the least exponent. -/
structure Canonical (m : Nat) (e : Int) : Prop where
  lt : m < 2 * binade
  least : -1074 ≤ e
  normal : e = -1074 ∨ binade ≤ m

section Order

variable {m n : Nat} {e f : Int} {u v : UnpackedFloat} {x y : Float}

theorem Canonical.lt_iff (left : Canonical m e) (right : Canonical n f) :
    (e < f ∨ e = f ∧ m < n) ↔
      (e + 1074).toNat * binade + m < (f + 1074).toNat * binade + n := by
  obtain ⟨hm, he, hme⟩ := left
  obtain ⟨hn, hf, hnf⟩ := right
  unfold binade at *
  omega

theorem Canonical.lt_infinite_iff (canonical : Canonical m e) :
    (e + 1074).toNat * binade + m < infinite ↔ e ≤ 971 := by
  obtain ⟨hm, he, hme⟩ := canonical
  unfold infinite binade at *
  omega

theorem canonical_of_unpack {s : Sign} {positive : 0 < m}
    (found : x.toModel.unpack = .finite s m e positive) : Canonical m e := by
  obtain ⟨t, f, n, parts⟩ := exists_ofParts x.toModel.toBits.toBitVec
  have fields : ofFields t f n = .finite s m e positive := by
    rw [← unpack_ofParts, ← parts]
    exact found
  have short := n.isLt
  unfold ofFields at fields
  by_cases top : f = -1#11
  · rw [if_pos top] at fields
    by_cases none : n = 0#52
    · rw [if_pos none] at fields
      cases fields
    · rw [if_neg none] at fields
      cases fields
  · rw [if_neg top] at fields
    by_cases bottom : f = 0#11
    · rw [if_pos bottom] at fields
      by_cases none : n = 0#52
      · rw [dif_pos none] at fields
        cases fields
      · rw [dif_neg none] at fields
        cases fields
        exact ⟨by unfold binade; omega, Int.le_refl _, .inl rfl⟩
    · rw [if_neg bottom] at fields
      have some : f.toNat ≠ 0 := fun none => bottom (BitVec.eq_of_toNat_eq none)
      cases fields
      exact ⟨by unfold binade; omega, by omega, .inr (by unfold binade; omega)⟩

theorem rank_pos (canonical : 0 < m) : 0 < (e + 1074).toNat * binade + m :=
  Nat.lt_of_lt_of_le canonical (Nat.le_add_left m _)

/-- The order of values that are not negative is that of their ranks. -/
theorem lt_iff_rank (hx : 0.0 ≤ x) (hy : 0.0 ≤ y) :
    x < y ↔ rank x.toModel.unpack < rank y.toModel.unpack := by
  rw [lt_iff]
  rcases unpack_of_nonneg hx with ⟨s, zx⟩ | ix | ⟨m, e, positive, fx⟩
  · rw [zx]
    rcases unpack_of_nonneg hy with ⟨t, zy⟩ | iy | ⟨n, f, positive', fy⟩
    · rw [zy]
      cases s <;> cases t <;> decide
    · rw [iy]
      cases s <;> decide
    · rw [fy]
      have right : 0 < rank (.finite .positive n f positive') := rank_pos positive'
      cases s <;> exact iff_of_true rfl right
  · rw [ix]
    rcases unpack_of_nonneg hy with ⟨t, zy⟩ | iy | ⟨n, f, positive', fy⟩
    · rw [zy]
      cases t <;> decide
    · rw [iy]
      decide
    · rw [fy]
      have most := (canonical_of_unpack fy).lt_infinite_iff.2 (bounds_of_unpack fy).2
      exact iff_of_false Bool.false_ne_true (Nat.lt_asymm most)
  · rw [fx]
    rcases unpack_of_nonneg hy with ⟨t, zy⟩ | iy | ⟨n, f, positive', fy⟩
    · rw [zy]
      cases t <;> exact iff_of_false Bool.false_ne_true (Nat.not_lt_zero _)
    · rw [iy]
      exact iff_of_true rfl ((canonical_of_unpack fx).lt_infinite_iff.2 (bounds_of_unpack fx).2)
    · rw [fy, lt_finite_iff]
      exact (canonical_of_unpack fx).lt_iff (canonical_of_unpack fy)

theorem le_iff_rank (hx : 0.0 ≤ x) (hy : 0.0 ≤ y) :
    x ≤ y ↔ rank x.toModel.unpack ≤ rank y.toModel.unpack := by
  rw [← Nat.not_lt, ← lt_iff_rank hy hx]
  exact ⟨not_lt_of_le, le_of_not_lt (number_of_le hy).2 (number_of_le hx).2⟩

/-- What has no minus sign and is a number is not negative. -/
theorem nonneg_of_unsigned (unsigned : Unsigned x) (number : Number x) : 0.0 ≤ x := by
  have zero : (0.0 : Float).toModel.unpack = .zero .positive := rfl
  rw [le_iff, zero]
  unfold Unsigned at unsigned
  change x.toModel.unpack.isNaN = false at number
  generalize x.toModel.unpack = u at unsigned number ⊢
  cases u with
  | notANumber => cases number
  | zero s => cases s <;> rfl
  | infinity s | finite s m e positive =>
    obtain rfl := eq_positive_of_not_minus unsigned
    rfl

theorem nonneg_of_le (nonneg : 0.0 ≤ x) (le : x ≤ y) : 0.0 ≤ y := by
  have unsigned : minus y.toModel.unpack = false ∨ ∃ s, y.toModel.unpack = .zero s := by
    rw [le_iff] at le
    generalize y.toModel.unpack = v at le
    cases v with
    | notANumber => exact .inl rfl
    | zero s => exact .inr ⟨s, rfl⟩
    | infinity s | finite s n f positive' =>
      cases s with
      | positive => exact .inl rfl
      | negative =>
        rcases unpack_of_nonneg nonneg with ⟨s, zx⟩ | ix | ⟨m, e, positive, fx⟩
        · rw [zx] at le
          cases s <;> cases le
        · rw [ix] at le
          cases le
        · rw [fx] at le
          cases le
  rcases unsigned with unsigned | ⟨s, zero⟩
  · exact nonneg_of_unsigned unsigned (number_of_le le).2
  · rcases eq_zero_of_unpack zero with rfl | rfl <;> decide

theorem lt_of_le_of_lt {z : Float} (nonneg : 0.0 ≤ x) (le : x ≤ y) (less : y < z) : x < z := by
  have hy := nonneg_of_le nonneg le
  have hz := nonneg_of_le hy (le_of_lt less)
  rw [lt_iff_rank nonneg hz]
  exact Nat.lt_of_le_of_lt ((le_iff_rank nonneg hy).1 le) ((lt_iff_rank hy hz).1 less)

/-! ## Zeros -/

/-- Both zeros are below everything that is not negative. -/
theorem zero_le (zero : x = 0.0 ∨ x = -0.0) (nonneg : 0.0 ≤ y) : x ≤ y := by
  rcases zero with rfl | rfl
  · exact nonneg
  · rw [le_iff_rank (by decide) nonneg]
    exact Nat.zero_le _

/-- A sum with zero is the other summand, to the sign of a zero. -/
theorem equalToSign_add_zero (zero : y = 0.0 ∨ y = -0.0) (number : Number x) :
    EqualToSign (x + y) x := by
  obtain ⟨s, unpacked⟩ : ∃ s, y.toModel.unpack = .zero s := by
    rcases zero with rfl | rfl
    · exact ⟨.positive, rfl⟩
    · exact ⟨.negative, rfl⟩
  have sum : (x + y).toModel.unpack =
      (Float.Model.pack (add .binary64 x.toModel.unpack (.zero s))).unpack := by
    rw [← unpacked]
    rfl
  cases own : x.toModel.unpack with
  | notANumber =>
    change x.toModel.unpack.isNaN = false at number
    rw [own] at number
    cases number
  | zero t =>
    rw [own] at sum
    refine .inr ⟨?_, eq_zero_of_unpack own⟩
    cases s <;> cases t <;> exact eq_zero_of_unpack sum
  | infinity t | finite t m e positive =>
    left
    change Float.ofModel (.pack (add .binary64 x.toModel.unpack y.toModel.unpack)) = x
    rw [unpacked, own, eq_ofModel_pack x, own]
    rfl

theorem EqualToSign.beq (equal : EqualToSign x y) (number : Number y) : (x == y) = true := by
  rcases equal with rfl | ⟨rfl | rfl, rfl | rfl⟩
  · exact beq_iff.2 (compare_self number)
  all_goals decide

theorem beq_self (finite : x.isFinite = true) : (x == x) = true :=
  EqualToSign.beq (.inl rfl) (number_of_isFinite finite)

theorem eq_zero_of_beq (zero : (x == 0.0) = true) : x = 0.0 ∨ x = -0.0 := by
  rcases equalToSign_of_beq zero with rfl | ⟨zero, -⟩
  · exact .inl rfl
  · exact zero

theorem beq_of_zeros (left : (x == 0.0) = true) (right : (y == 0.0) = true) : (x == y) = true :=
  EqualToSign.beq (.inr ⟨eq_zero_of_beq left, eq_zero_of_beq right⟩)
    (number_of_compare (beq_iff.1 right)).1

end Order

end Playhouse.Binary64

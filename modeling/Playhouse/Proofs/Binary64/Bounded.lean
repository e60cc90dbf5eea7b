import Playhouse.Proofs.Binary64.Finite

/-!
# Values between finite ones

What lies between zero and a finite value is finite (`isFinite_of_le`), and so is the difference of
two positive values (`isFinite_sub`).
-/

namespace Playhouse.Binary64

open Float.Model.UnpackedFloat
open Float.Model (UnpackedFloat Format)

variable {x y : Float}

theorem isFinite_of_le (nonneg : 0.0 ≤ x) (le : x ≤ y) (finite : y.isFinite = true) :
    x.isFinite = true := by
  have zero : (0.0 : Float).toModel.unpack = .zero .positive := rfl
  obtain ⟨o, low, isLE⟩ := le_unpacked_iff.1 (le_iff.1 nonneg)
  obtain ⟨o', high, isLE'⟩ := le_unpacked_iff.1 (le_iff.1 le)
  rw [zero] at low
  change x.toModel.unpack.isFinite = true
  change y.toModel.unpack.isFinite = true at finite
  generalize x.toModel.unpack = u at low high ⊢
  cases u with
  | notANumber => cases low
  | zero s | finite s m e positive => rfl
  | infinity s =>
    cases s with
    | negative =>
      cases low
      cases isLE
    | positive =>
      generalize y.toModel.unpack = v at high finite
      cases v with
      | notANumber | infinity t => cases finite
      | zero t | finite t n f positive =>
        cases high
        cases isLE'

/-! ## Differences -/

/-- A positive finite value. -/
theorem unpack_of_pos (finite : x.isFinite = true) (pos : 0.0 < x) :
    ∃ m e positive, x.toModel.unpack = .finite .positive m e positive := by
  have zero : (0.0 : Float).toModel.unpack = .zero .positive := rfl
  change x.toModel.unpack.isFinite = true at finite
  rcases unpack_of_nonneg (le_of_lt pos) with ⟨s, unpacked⟩ | unpacked | found
  · rw [lt_iff, zero, unpacked] at pos
    cases s <;> cases pos
  · rw [unpacked] at finite
    cases finite
  · exact found

/-- With the greatest exponent the significand has all its bits. -/
theorem significand_of_top {s : Sign} {m : Nat} {positive : 0 < m}
    (found : x.toModel.unpack = .finite s m 971 positive) : 2 ^ 52 ≤ m := by
  obtain ⟨t, f, n, parts⟩ := exists_ofParts x.toModel.toBits.toBitVec
  have fields : ofFields t f n = .finite s m 971 positive := by
    rw [← unpack_ofParts, ← parts]
    exact found
  have kind := kind_ofFields t f n
  rw [fields] at kind
  generalize he : (971 : Int) = e at kind
  cases kind with
  | subnormal _ => omega
  | normal _ _ => omega

/-- A significand that lacks a bit is shifted down from the greatest exponent before it is
rounded. -/
theorem isFinite_round_of_lt {m : Nat} (bits : m < 2 ^ 52) (s : Sign) :
    (Float.Model.pack (UnpackedFloat.round .binary64 s m 971)).unpack.isFinite = true := by
  have target : ∀ t, Format.binary64.targetExponent t = max (t - 53) (-1074) := fun _ => rfl
  have log : m.log2 ≤ 51 := log2_le_of_lt bits
  unfold UnpackedFloat.round
  simp only [Float.Model.totalExponent, target, decreaseExponent]
  obtain ⟨k, hk⟩ : ∃ k, (971 - max ((m.log2 : Int) + 1 + 971 - 53) (-1074)).toNat = k := ⟨_, rfl⟩
  rw [hk]
  obtain ⟨j, rfl⟩ : ∃ j, k = j + 1 := ⟨k - 1, by omega⟩
  refine isFinite_round ⟨by omega, ?_⟩ s _
  rw [Nat.shiftLeft_eq, show (970 - (971 - ((j + 1 : Nat) : Int))).toNat = j by omega]
  calc m * 2 ^ (j + 1)
      < 2 ^ 52 * 2 ^ (j + 1) := Nat.mul_lt_mul_of_pos_right bits (Nat.two_pow_pos _)
    _ = 2 ^ 53 * 2 ^ j := by rw [Nat.pow_succ]; omega
    _ ≤ (2 ^ 54 - 1) * 2 ^ j := Nat.mul_le_mul_right _ (by decide)

theorem isFinite_normalize_of_lt {m : Int} (bits : m.natAbs < 2 ^ 52) (zero : Sign) :
    (Float.Model.pack (UnpackedFloat.normalize .binary64 m 971 zero)).unpack.isFinite = true := by
  unfold UnpackedFloat.normalize
  split
  · exact isFinite_round_of_lt (by omega) _
  · exact isFinite_unpack_zero zero
  · exact isFinite_round_of_lt (by omega) _

/-- A difference is not beyond the greater one of the two. -/
theorem roundable_sub {m n : Nat} {e f : Int} (bits : m < 2 ^ 53) (top : e ≤ 971)
    (bits' : n < 2 ^ 53) (top' : f ≤ 971) (below : min e f ≤ 970) :
    Roundable ((m <<< (e - min e f).toNat : Nat) - (n <<< (f - min e f).toNat : Nat) : Int).natAbs
      (min e f) := by
  refine ⟨below, ?_⟩
  generalize hg : min e f = g at below
  have bound : ∀ {m : Nat} {e : Int}, m < 2 ^ 53 → e ≤ 971 →
      m <<< (e - g).toNat ≤ (2 ^ 54 - 2) * 2 ^ (970 - g).toNat := by
    intro m e bits top
    rw [Nat.shiftLeft_eq]
    calc m * 2 ^ (e - g).toNat
        ≤ (2 ^ 53 - 1) * 2 ^ (e - g).toNat := Nat.mul_le_mul_right _ (by omega)
      _ ≤ (2 ^ 53 - 1) * 2 ^ ((970 - g).toNat + 1) :=
        Nat.mul_le_mul_left _ (Nat.pow_le_pow_right Nat.zero_lt_two (by omega))
      _ = (2 ^ 54 - 2) * 2 ^ (970 - g).toNat := by rw [Nat.pow_succ]; omega
  have first := bound bits top
  have second := bound bits' top'
  generalize m <<< (e - g).toNat = m' at first ⊢
  generalize n <<< (f - g).toNat = n' at second ⊢
  have some := Nat.two_pow_pos (970 - g).toNat
  have less : (2 ^ 54 - 2) * 2 ^ (970 - g).toNat < (2 ^ 54 - 1) * 2 ^ (970 - g).toNat :=
    Nat.mul_lt_mul_of_pos_right (by decide) some
  omega

theorem isFinite_sub (hx : x.isFinite = true) (hy : y.isFinite = true) (posx : 0.0 < x)
    (posy : 0.0 < y) : (x - y).isFinite = true := by
  change (Float.Model.pack (sub .binary64 x.toModel.unpack y.toModel.unpack)).unpack.isFinite = true
  obtain ⟨m, e, positive, unpacked⟩ := unpack_of_pos hx posx
  obtain ⟨n, f, positive', unpacked'⟩ := unpack_of_pos hy posy
  obtain ⟨bits, top⟩ := bounds_of_unpack unpacked
  obtain ⟨bits', top'⟩ := bounds_of_unpack unpacked'
  rw [unpacked, unpacked']
  change (Float.Model.pack (UnpackedFloat.normalize .binary64
    ((m <<< (e - min e f).toNat : Nat) - (n <<< (f - min e f).toNat : Nat) : Int) (min e f)
    .positive)).unpack.isFinite = true
  rcases Int.lt_or_le 970 (min e f) with both | below
  · obtain rfl : e = 971 := by omega
    obtain rfl : f = 971 := by omega
    have least := significand_of_top unpacked
    have least' := significand_of_top unpacked'
    exact isFinite_normalize_of_lt (by simp; omega) _
  · exact isFinite_normalize (roundable_sub bits top bits' top' below) _

end Playhouse.Binary64

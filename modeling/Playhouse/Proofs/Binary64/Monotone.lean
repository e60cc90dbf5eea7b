import Playhouse.Proofs.Binary64.Bounded
import Playhouse.Proofs.Binary64.Magnitude
import Playhouse.Proofs.Binary64.Rank

/-!
# Rounding keeps the order

A product is rounded at its last place (`lastPlace`), to the nearest significand (`rank_round`).
What comes out depends on the exact value alone (`roundedRank_mul_two_pow`) and grows with it
(`roundedRank_mono`): a greater value with the same last place has no lesser significand, and one
with a greater last place is beyond all significands before it.

So factors of a product and natural numbers keep their order (`mul_le_mul`, `ofNat_le_ofNat`).
-/

namespace Playhouse.Binary64

open Float.Model.UnpackedFloat
open Float.Model (UnpackedFloat Format totalExponent)

/-! ## To the nearest integer -/

section Nearest

variable {a b c den : Nat}

theorem div_le_roundHalfEven (a den : Nat) : a / den ≤ roundHalfEven a den := by
  unfold roundHalfEven
  dsimp only
  split
  · exact Nat.le_refl _
  · split <;> omega

theorem roundHalfEven_one (a : Nat) : roundHalfEven a 1 = a := by
  unfold roundHalfEven
  rw [Nat.mod_one, Nat.div_one]
  rfl

/-- Nothing but the quotient matters. -/
theorem roundHalfEven_mul_right (a den : Nat) (positive : 0 < c) :
    roundHalfEven (a * c) (den * c) = roundHalfEven a den := by
  unfold roundHalfEven
  rw [Nat.mul_div_mul_right _ _ positive, Nat.mul_mod_mul_right, ← Nat.mul_assoc]
  simp only [Nat.mul_lt_mul_right positive, Nat.mul_left_inj (Nat.ne_of_gt positive)]

theorem roundHalfEven_mono (den : Nat) (le : a ≤ b) :
    roundHalfEven a den ≤ roundHalfEven b den := by
  rcases Nat.lt_or_eq_of_le (Nat.div_le_div_right (c := den) le) with less | same
  · calc roundHalfEven a den
        ≤ a / den + 1 := roundHalfEven_le a den
      _ ≤ b / den := less
      _ ≤ roundHalfEven b den := div_le_roundHalfEven b den
  · have rest : a % den ≤ b % den := by
      have left := Nat.div_add_mod a den
      have right := Nat.div_add_mod b den
      rw [same] at left
      omega
    unfold roundHalfEven
    dsimp only
    rw [same]
    have parity := Nat.mod_lt (b / den) Nat.zero_lt_two
    grind

end Nearest

/-! ## Shifting to the last place -/

section Shift

variable (m k : Nat)

/-- The bits that have been shifted out tell on which side of the half the rest is. -/
theorem bits_shiftRight :
    ((ExtendedMantissa.ofMantissaAndAccuracy m .exact) >>> k).roundBit =
        decide (2 ^ k ≤ 2 * (m % 2 ^ k)) ∧
      ((ExtendedMantissa.ofMantissaAndAccuracy m .exact) >>> k).stickyBit =
        decide (2 * (m % 2 ^ k) % 2 ^ k ≠ 0) := by
  induction k with
  | zero =>
    rw [Nat.pow_zero, Nat.mod_one]
    exact ⟨rfl, rfl⟩
  | succ k ih =>
    obtain ⟨roundBit, stickyBit⟩ := ih
    have parts : m % 2 ^ (k + 1) = m % 2 ^ k + 2 ^ k * (m / 2 ^ k % 2) := Nat.mod_pow_succ
    have rest : m % 2 ^ k < 2 ^ k := Nat.mod_lt _ (Nat.two_pow_pos k)
    have bit := Nat.mod_lt (m / 2 ^ k) Nat.zero_lt_two
    have sticky : ((ExtendedMantissa.ofMantissaAndAccuracy m .exact) >>> (k + 1)).stickyBit =
        (((ExtendedMantissa.ofMantissaAndAccuracy m .exact) >>> k).roundBit ||
          ((ExtendedMantissa.ofMantissaAndAccuracy m .exact) >>> k).stickyBit) := rfl
    rw [sticky, roundBit, stickyBit, roundBit_shiftRight_succ, mantissa_ofMantissaAndAccuracy,
      parts, Nat.pow_succ]
    generalize m % 2 ^ k = r at rest
    generalize m / 2 ^ k % 2 = q at bit
    generalize 2 ^ k = p at rest
    have whole : 2 * (r + p * q) % (p * 2) = 2 * r := by
      rw [Nat.mul_add, Nat.mul_left_comm, ← Nat.mul_assoc, Nat.add_mul_mod_self_left,
        Nat.mod_eq_of_lt (by omega)]
    have lower : p ≤ 2 * r ∨ 2 * r % p ≠ 0 ↔ r ≠ 0 := by
      rcases Nat.lt_or_ge (2 * r) p with less | enough
      · rw [Nat.mod_eq_of_lt less]
        omega
      · omega
    refine ⟨?_, ?_⟩
    · obtain rfl | rfl : q = 0 ∨ q = 1 := by omega
      · simp; omega
      · simp; omega
    · rw [whole, ← Bool.decide_or]
      exact decide_eq_decide.2 (lower.trans (by omega))

theorem roundedMantissa_shiftRight :
    ((ExtendedMantissa.ofMantissaAndAccuracy m .exact) >>> k).roundedMantissa =
      roundHalfEven m (2 ^ k) := by
  obtain ⟨roundBit, stickyBit⟩ := bits_shiftRight m k
  have mantissa := mantissa_shiftRight (ExtendedMantissa.ofMantissaAndAccuracy m .exact) k
  rw [mantissa_ofMantissaAndAccuracy] at mantissa
  have rest : m % 2 ^ k < 2 ^ k := Nat.mod_lt _ (Nat.two_pow_pos k)
  generalize (ExtendedMantissa.ofMantissaAndAccuracy m .exact) >>> k = em at *
  obtain ⟨q, up, some⟩ := em
  dsimp only at *
  subst mantissa roundBit stickyBit
  unfold roundHalfEven
  dsimp only
  generalize m % 2 ^ k = r at rest
  generalize m / 2 ^ k = q
  generalize 2 ^ k = p at rest
  rcases Nat.lt_trichotomy (2 * r) p with less | half | more
  · rw [if_pos less]
    exact roundedMantissa_of_not_roundBit _ (decide_eq_false (by omega))
  · rw [if_neg (by omega), if_pos half, half, Nat.mod_self, decide_eq_true (Nat.le_refl p)]
    rfl
  · have beyond : 2 * r % p ≠ 0 := by
      rw [Nat.mod_eq_sub_mod (by omega), Nat.mod_eq_of_lt (by omega)]
      omega
    rw [if_neg (by omega), if_neg (by omega), decide_eq_true (by omega : p ≤ 2 * r),
      decide_eq_true beyond]
    rfl

end Shift

/-! ## Packing -/

section Pack

variable {m : Nat} {e : Int}

/-- Every canonical significand with an exponent that is not too large is that of a value. -/
theorem Canonical.exists_fields (canonical : Canonical m e) (s : Sign) (positive : 0 < m)
    (top : e ≤ 971) :
    ∃ f n, f ≠ -1#11 ∧ ofFields s f n = .finite s m e positive := by
  obtain ⟨short, least, normal⟩ := canonical
  unfold binade at short normal
  by_cases subnormal : m < 4503599627370496
  · obtain rfl : e = -1074 := normal.resolve_right (Nat.not_le.2 subnormal)
    have bits : (BitVec.ofNat 52 m).toNat = m := by
      rw [BitVec.toNat_ofNat]
      exact Nat.mod_eq_of_lt subnormal
    have some : BitVec.ofNat 52 m ≠ 0#52 := by
      intro none
      rw [none] at bits
      exact Nat.ne_of_lt positive bits
    refine ⟨0#11, BitVec.ofNat 52 m, by decide, ?_⟩
    rw [ofFields, if_neg (by decide), if_pos rfl, dif_neg some]
    exact finite_congr rfl bits rfl
  · have exponent : (BitVec.ofNat 11 (e + 1075).toNat).toNat = (e + 1075).toNat := by
      rw [BitVec.toNat_ofNat]
      exact Nat.mod_eq_of_lt (by omega)
    have bits : (BitVec.ofNat 52 (m - 4503599627370496)).toNat = m - 4503599627370496 := by
      rw [BitVec.toNat_ofNat]
      exact Nat.mod_eq_of_lt (by omega)
    have notTop : BitVec.ofNat 11 (e + 1075).toNat ≠ -1#11 := by
      intro same
      rw [same] at exponent
      change 2047 = _ at exponent
      omega
    have notBottom : BitVec.ofNat 11 (e + 1075).toNat ≠ 0#11 := by
      intro same
      rw [same] at exponent
      change 0 = _ at exponent
      omega
    refine ⟨_, BitVec.ofNat 52 (m - 4503599627370496), notTop, ?_⟩
    rw [ofFields, if_neg notTop, if_neg notBottom]
    exact finite_congr rfl (by omega) (by omega)

/-- What is packed keeps its rank, unless it is too large: then it becomes infinity. -/
theorem Canonical.rank_unpack_pack (canonical : Canonical m e) (s : Sign) (positive : 0 < m) :
    rank (Float.Model.pack (.finite s m e positive)).unpack =
      min infinite ((e + 1074).toNat * binade + m) := by
  by_cases top : e ≤ 971
  · obtain ⟨f, n, below, fields⟩ := canonical.exists_fields s positive top
    rw [Nat.min_eq_right (Nat.le_of_lt (canonical.lt_infinite_iff.2 top)), ← fields]
    change rank (unpack .binary64 (pack .binary64 (ofFields s f n))) = _
    rw [pack_ofFields s f n (.inl below), unpack_ofParts, fields]
    rfl
  · have bias : ((Format.binary64.exponentBias : Nat) : Int) = 1023 := rfl
    have packed : pack .binary64 (.finite s m e positive) = ofParts s (-1#11) 0#52 := by
      unfold pack
      dsimp only
      rw [if_pos (show 2048 ≤ (e + Format.binary64.exponentBias + (52 : Nat) : Int).toNat + 1 by
        omega)]
      rfl
    rw [Nat.min_eq_left (Nat.not_lt.1 (mt canonical.lt_infinite_iff.1 top))]
    change rank (unpack .binary64 (pack .binary64 (.finite s m e positive))) = _
    rw [packed, unpack_ofParts]
    rfl

end Pack

/-! ## Rounding -/

/-- The exponent of the last digit of a significand that is kept. -/
def lastPlace (m : Nat) (e : Int) : Int :=
  max (m.log2 + 1 + e - 53) (-1074)

/-- The rank of `m * 2 ^ e` if it is rounded and not too large. -/
def roundedRank (m : Nat) (e : Int) : Nat :=
  (lastPlace m e + 1074).toNat * binade + roundHalfEven m (2 ^ (lastPlace m e - e).toNat)

section Round

variable {m n : Nat} {e f : Int}

/-- A rounded significand has as many bits as its exponent allows, or is the first one that has
more. -/
theorem roundHalfEven_lastPlace (positive : 0 < m) (fits : e ≤ lastPlace m e) :
    roundHalfEven m (2 ^ (lastPlace m e - e).toNat) ≤ 2 * binade ∧
      (lastPlace m e = -1074 ∨ binade ≤ roundHalfEven m (2 ^ (lastPlace m e - e).toNat)) := by
  have two : binade = 2 ^ 52 := rfl
  obtain ⟨k, hk⟩ : ∃ k : Nat, (lastPlace m e - e).toNat = k := ⟨_, rfl⟩
  rw [hk, two]
  refine ⟨?_, ?_⟩
  · have below : m / 2 ^ k < 2 ^ 53 := by
      rw [Nat.div_lt_iff_lt_mul (Nat.two_pow_pos k), ← Nat.pow_add]
      calc m
          < 2 ^ (m.log2 + 1) := Nat.lt_log2_self
        _ ≤ 2 ^ (53 + k) := Nat.pow_le_pow_right Nat.zero_lt_two (by unfold lastPlace at *; omega)
    have := roundHalfEven_le m (2 ^ k)
    omega
  · by_cases least : lastPlace m e = -1074
    · exact .inl least
    · right
      refine Nat.le_trans ?_ (div_le_roundHalfEven m (2 ^ k))
      rw [Nat.le_div_iff_mul_le (Nat.two_pow_pos k), ← Nat.pow_add]
      calc 2 ^ (52 + k)
          ≤ 2 ^ m.log2 := Nat.pow_le_pow_right Nat.zero_lt_two (by unfold lastPlace at *; omega)
        _ ≤ m := Nat.log2_self_le (Nat.ne_of_gt positive)

/-- A greater number with the same exponent is not rounded to a lesser rank. -/
theorem roundedRank_mono (positive : 0 < m) (le : m ≤ n) (fits : e ≤ lastPlace m e) :
    roundedRank m e ≤ roundedRank n e := by
  have bits : m.log2 ≤ n.log2 := by
    rw [Nat.le_log2 (by omega)]
    exact Nat.le_trans (Nat.log2_self_le (Nat.ne_of_gt positive)) le
  have places : lastPlace m e ≤ lastPlace n e := by
    unfold lastPlace
    omega
  rcases Int.lt_or_eq_of_le places with less | same
  · have bound := (roundHalfEven_lastPlace positive fits).1
    have normal := (roundHalfEven_lastPlace (Nat.lt_of_lt_of_le positive le)
      (Int.le_trans fits places)).2
    have least : -1074 ≤ lastPlace m e := Int.le_max_right _ _
    unfold roundedRank
    unfold binade at *
    omega
  · unfold roundedRank
    rw [same]
    exact Nat.add_le_add_left (roundHalfEven_mono _ le) _

theorem log2_mul_two_pow (positive : 0 < m) (j : Nat) : (m * 2 ^ j).log2 = m.log2 + j := by
  refine (Nat.log2_eq_iff (Nat.ne_of_gt (Nat.mul_pos positive (Nat.two_pow_pos j)))).2 ⟨?_, ?_⟩
  · rw [Nat.pow_add]
    exact Nat.mul_le_mul_right _ (Nat.log2_self_le (Nat.ne_of_gt positive))
  · rw [Nat.add_right_comm, Nat.pow_add]
    exact Nat.mul_lt_mul_of_pos_right Nat.lt_log2_self (Nat.two_pow_pos j)

/-- The rank depends on the value alone, not on how it is written. -/
theorem roundedRank_mul_two_pow (positive : 0 < m) (fits : e ≤ lastPlace m e) (j : Nat) :
    roundedRank (m * 2 ^ j) (e - j) = roundedRank m e := by
  have bits : (m * 2 ^ j).log2 = m.log2 + j := log2_mul_two_pow positive j
  have place : lastPlace (m * 2 ^ j) (e - j) = lastPlace m e := by
    unfold lastPlace
    rw [bits]
    omega
  have shift : (lastPlace m e - (e - j)).toNat = (lastPlace m e - e).toNat + j := by omega
  rw [roundedRank, place, shift, Nat.pow_add, roundHalfEven_mul_right _ _ (Nat.two_pow_pos j),
    roundedRank]

/-- The rounded significand fits without another rounding. -/
theorem rank_zero_or_finite (s : Sign) {r : Nat} {g : Int} (canonical : Canonical r g)
    (bottom : r = 0 → g = -1074) :
    rank (Float.Model.pack
      (if h : r = 0 then .zero s else .finite s r g (Nat.pos_of_ne_zero h))).unpack =
      min infinite ((g + 1074).toNat * binade + r) := by
  by_cases none : r = 0
  · rw [dif_pos none, bottom none, none]
    cases s <;> rfl
  · rw [dif_neg none]
    exact canonical.rank_unpack_pack s (Nat.pos_of_ne_zero none)

/-- Rounding shifts to the last place, and once more if that gave one bit too many. -/
theorem exists_roundWithAccuracy (positive : 0 < m) (fits : e ≤ lastPlace m e) (s : Sign) :
    ∃ q g, roundWithAccuracy .binary64 s m e .exact =
        (if h : q = 0 then .zero s else .finite s q g (Nat.pos_of_ne_zero h)) ∧
      Canonical q g ∧ (q = 0 → g = -1074) ∧
      (g + 1074).toNat * binade + q = roundedRank m e := by
  have target : ∀ t, Format.binary64.targetExponent t = max (t - 53) (-1074) := fun _ => rfl
  have place : max ((m.log2 : Int) + 1 + e - 53) (-1074) = lastPlace m e := rfl
  have kept : e + ((lastPlace m e - e).toNat : Int) = lastPlace m e := by omega
  have least : -1074 ≤ lastPlace m e := Int.le_max_right _ _
  obtain ⟨bound, normal⟩ := roundHalfEven_lastPlace positive fits
  refine ⟨_, _, rfl, ?_⟩
  simp only [totalExponent, target, place, mantissa_shiftRight, mantissa_ofMantissaAndAccuracy,
    roundedMantissa_shiftRight, kept, roundedRank]
  generalize roundHalfEven m (2 ^ (lastPlace m e - e).toNat) = r at bound normal ⊢
  generalize lastPlace m e = t at least normal ⊢
  rcases Nat.lt_or_eq_of_le bound with short | full
  · have bits : r.log2 ≤ 52 := log2_le_of_lt short
    have again : (max ((r.log2 : Int) + 1 + t - 53) (-1074) - t).toNat = 0 := by omega
    rw [again, Nat.pow_zero, Nat.div_one, Int.natCast_zero, Int.add_zero]
    refine ⟨⟨short, least, normal⟩, ?_, rfl⟩
    rintro rfl
    exact normal.resolve_right (Nat.not_le.2 (Nat.two_pow_pos 52))
  · have bits : r.log2 = 53 := by
      rw [full]
      exact Nat.log2_two_pow (n := 53)
    have again : (max ((r.log2 : Int) + 1 + t - 53) (-1074) - t).toNat = 1 := by omega
    rw [again, full, Nat.pow_one, Nat.mul_div_cancel_left _ Nat.zero_lt_two]
    refine ⟨⟨by decide, by omega, .inr (Nat.le_refl _)⟩, fun none => absurd none (by decide), ?_⟩
    rw [show (t + (1 : Nat) + 1074).toNat = (t + 1074).toNat + 1 by omega, Nat.succ_mul]
    omega

theorem rank_round (positive : 0 < m) (fits : e ≤ lastPlace m e) (s : Sign) :
    rank (Float.Model.pack (roundWithAccuracy .binary64 s m e .exact)).unpack =
      min infinite (roundedRank m e) := by
  obtain ⟨q, g, rounded, canonical, bottom, same⟩ := exists_roundWithAccuracy positive fits s
  rw [rounded, rank_zero_or_finite s canonical bottom, same]

/-- A greater value is not rounded to a lesser rank. -/
theorem roundedRank_le (positive : 0 < m) (positive' : 0 < n) (fits : e ≤ lastPlace m e)
    (fits' : f ≤ lastPlace n f) (le : e ≤ f) (less : m ≤ n * 2 ^ (f - e).toNat) :
    roundedRank m e ≤ roundedRank n f := by
  have same := roundedRank_mul_two_pow positive' fits' (f - e).toNat
  rw [show f - ((f - e).toNat : Int) = e by omega] at same
  rw [← same]
  exact roundedRank_mono positive less fits

end Round

/-! ## Products -/

section Product

variable {m n : Nat} {e f : Int} {x y z : Float}

/-- The last place of a value is its own. -/
theorem Canonical.lastPlace_eq (canonical : Canonical m e) (positive : 0 < m) :
    lastPlace m e = e := by
  have bits : m.log2 ≤ 52 := log2_le_of_lt canonical.lt
  have least := canonical.least
  rcases canonical.normal with rfl | normal
  · unfold lastPlace
    omega
  · have : 52 ≤ m.log2 := (Nat.le_log2 (Nat.ne_of_gt positive)).2 normal
    unfold lastPlace
    omega

/-- Values in their order, written with the exponent of the lesser one. -/
theorem Canonical.le_of_rank (left : Canonical m e) (right : Canonical n f)
    (le : (e + 1074).toNat * binade + m ≤ (f + 1074).toNat * binade + n) :
    e ≤ f ∧ m ≤ n * 2 ^ (f - e).toNat := by
  have order := mt (right.lt_iff left).1 (Nat.not_lt.2 le)
  rw [not_or] at order
  obtain ⟨above, beyond⟩ := order
  rcases Int.lt_or_eq_of_le (Int.not_lt.1 above) with less | rfl
  · refine ⟨Int.le_of_lt less, ?_⟩
    have least := left.least
    calc m
        ≤ binade * 2 := by have := left.lt; omega
      _ ≤ n * 2 ^ 1 := Nat.mul_le_mul_right _ (right.normal.resolve_left (by omega))
      _ ≤ n * 2 ^ (f - e).toNat :=
          Nat.mul_le_mul_left _ (Nat.pow_le_pow_right Nat.zero_lt_two (by omega))
  · refine ⟨Int.le_refl e, ?_⟩
    rw [Int.sub_self]
    change m ≤ n * 1
    omega

/-- A product is rounded at the last place of one of its factors or above it. -/
theorem Canonical.fits_mul (left : Canonical m e) (right : Canonical n f) (hm : 0 < m)
    (hn : 0 < n) : e + f ≤ lastPlace (m * n) (e + f) := by
  have bits {k l : Nat} (normal : binade ≤ k) (positive : 0 < l) : 52 ≤ (k * l).log2 := by
    rw [Nat.le_log2 (Nat.ne_of_gt (Nat.mul_pos (Nat.lt_of_lt_of_le (by decide) normal) positive))]
    exact Nat.le_trans normal (Nat.le_mul_of_pos_right k positive)
  have product : e = -1074 ∧ f = -1074 ∨ 52 ≤ (m * n).log2 := by
    rcases left.normal with leastLeft | normal
    · rcases right.normal with leastRight | normal
      · exact .inl ⟨leastLeft, leastRight⟩
      · exact .inr (Nat.mul_comm n m ▸ bits normal hm)
    · exact .inr (bits normal hn)
  unfold lastPlace
  omega

theorem mul_finite {s t : Sign} {positive : 0 < m} {positive' : 0 < n} :
    mul .binary64 (.finite s m e positive) (.finite t n f positive') =
      roundWithAccuracy .binary64 (s * t) (m * n) (e + f) .exact := rfl

theorem rank_mul {s t : Sign} {positive : 0 < m} {positive' : 0 < n}
    (hx : x.toModel.unpack = .finite s m e positive)
    (hy : y.toModel.unpack = .finite t n f positive') :
    rank (x * y).toModel.unpack = min infinite (roundedRank (m * n) (e + f)) := by
  change rank (Float.Model.pack (mul .binary64 x.toModel.unpack y.toModel.unpack)).unpack = _
  rw [hx, hy]
  exact rank_round (Nat.mul_pos positive positive')
    ((canonical_of_unpack hx).fits_mul (canonical_of_unpack hy) positive positive') _

theorem zero_mul {s : Sign} (zero : x.toModel.unpack = .zero s) (finite : z.isFinite = true) :
    x * z = 0.0 ∨ x * z = -0.0 := by
  have product : ∃ t, mul .binary64 x.toModel.unpack z.toModel.unpack = .zero t := by
    rw [zero]
    change z.toModel.unpack.isFinite = true at finite
    generalize z.toModel.unpack = u at finite
    cases u with
    | notANumber | infinity t => cases finite
    | zero t | finite t n f positive => exact ⟨_, rfl⟩
  obtain ⟨t, product⟩ := product
  change Float.ofModel (.pack (mul .binary64 x.toModel.unpack z.toModel.unpack)) = 0.0 ∨
    Float.ofModel (.pack (mul .binary64 x.toModel.unpack z.toModel.unpack)) = -0.0
  rw [product]
  cases t
  · exact .inr rfl
  · exact .inl rfl

theorem infinity_mul (infinite : x.toModel.unpack = .infinity .positive)
    (finite : z.isFinite = true) (pos : 0.0 < z) :
    (x * z).toModel.unpack = .infinity .positive := by
  obtain ⟨n, f, positive, factor⟩ := unpack_of_pos finite pos
  have product : mul .binary64 (.infinity .positive) (.finite .positive n f positive) =
      .infinity .positive := rfl
  change (Float.Model.pack (mul .binary64 x.toModel.unpack z.toModel.unpack)).unpack = _
  rw [infinite, factor, product]
  rfl

theorem nonneg_mul (nonneg : 0.0 ≤ x) (finite : z.isFinite = true) (pos : 0.0 < z) :
    0.0 ≤ x * z := by
  rcases unpack_of_nonneg nonneg with ⟨s, zero⟩ | infinite | ⟨m, e, positive, found⟩
  · rcases zero_mul zero finite with product | product <;> rw [product] <;> decide
  · rw [le_iff, infinity_mul infinite finite pos]
    rfl
  · have unsigned : Unsigned x := by
      unfold Unsigned
      rw [found]
      rfl
    refine nonneg_of_unsigned (unsigned_mul unsigned (unsigned_of_pos pos)) (number_mul ?_ finite)
    change x.toModel.unpack.isFinite = true
    rw [found]
    rfl

/-- A greater factor gives no lesser product. -/
theorem mul_le_mul (nonneg : 0.0 ≤ x) (le : x ≤ y) (finite : z.isFinite = true) (pos : 0.0 < z) :
    x * z ≤ y * z := by
  have hy := nonneg_of_le nonneg le
  have products := nonneg_mul hy finite pos
  rw [le_iff_rank nonneg hy] at le
  rcases unpack_of_nonneg nonneg with ⟨s, zx⟩ | ix | ⟨m, e, hm, fx⟩
  · exact zero_le (zero_mul zx finite) products
  · rw [ix] at le
    rcases unpack_of_nonneg hy with ⟨t, zy⟩ | iy | ⟨m', e', hm', fy⟩
    · rw [zy] at le
      exact absurd le (Nat.not_le.2 (by decide : 0 < infinite))
    · rw [le_iff, infinity_mul ix finite pos, infinity_mul iy finite pos]
      rfl
    · rw [fy] at le
      have below := (canonical_of_unpack fy).lt_infinite_iff.2 (bounds_of_unpack fy).2
      exact absurd le (Nat.not_le.2 below)
  · obtain ⟨n, f, hn, fz⟩ := unpack_of_pos finite pos
    rw [le_iff_rank (nonneg_mul nonneg finite pos) products, rank_mul fx fz]
    rw [fx] at le
    rcases unpack_of_nonneg hy with ⟨t, zy⟩ | iy | ⟨m', e', hm', fy⟩
    · rw [zy] at le
      exact absurd le (Nat.not_le.2 (rank_pos hm))
    · rw [infinity_mul iy finite pos]
      exact Nat.min_le_left _ _
    · rw [fy] at le
      have left := canonical_of_unpack fx
      have right := canonical_of_unpack fy
      have factor := canonical_of_unpack fz
      obtain ⟨exponents, significands⟩ := left.le_of_rank right le
      rw [rank_mul fy fz]
      have rounded : roundedRank (m * n) (e + f) ≤ roundedRank (m' * n) (e' + f) := by
        refine roundedRank_le (Nat.mul_pos hm hn) (Nat.mul_pos hm' hn)
          (left.fits_mul factor hm hn) (right.fits_mul factor hm' hn) (by omega) ?_
        rw [show e' + f - (e + f) = e' - e by omega, Nat.mul_right_comm]
        exact Nat.mul_le_mul_right n significands
      exact Nat.le_min.2 ⟨Nat.min_le_left _ _, Nat.le_trans (Nat.min_le_right _ _) rounded⟩

/-- A product with one has the rank of the other factor. -/
theorem rank_mul_one (nonneg : 0.0 ≤ x) :
    rank (x * 1.0).toModel.unpack = rank x.toModel.unpack := by
  have one : (1.0 : Float).toModel.unpack = .finite .positive (2 ^ 52) (-52) (by decide) := rfl
  rcases unpack_of_nonneg nonneg with ⟨s, zx⟩ | ix | ⟨m, e, hm, fx⟩
  · rw [zx]
    rcases zero_mul (z := 1.0) zx (by decide) with product | product <;> rw [product] <;> rfl
  · rw [infinity_mul ix (by decide) (by decide), ix]
  · have canonical := canonical_of_unpack fx
    have place := canonical.lastPlace_eq hm
    have top := Nat.le_of_lt (canonical.lt_infinite_iff.2 (bounds_of_unpack fx).2)
    have product := roundedRank_mul_two_pow hm (Int.le_of_eq place.symm) 52
    rw [rank_mul fx one, fx, show e + -52 = e - (52 : Nat) by omega, product, roundedRank, place,
      Int.sub_self, Int.toNat_zero, Nat.pow_zero, roundHalfEven_one]
    exact Nat.min_eq_right top

end Product

/-! ## Natural numbers -/

/-- The number of binary places that values have. -/
def places : Nat := 1074

/-- The rank of a natural number, if it is not too large. -/
def naturalRank (n : Nat) : Nat :=
  roundedRank (n * 2 ^ places) (-places)

section Natural

variable {m n : Nat}

/-- A natural number is a product with one, or is rounded. -/
theorem ofNat_eq (positive : 0 < n) :
    n < 2 ^ 53 ∧ Float.ofNat n = .ofModel (.pack (.round .binary64 .positive n 0)) * 1.0 ∨
    2 ^ 53 ≤ n ∧ Float.ofNat n =
      .ofModel (.pack (roundWithAccuracy .binary64 .positive (n * 2 ^ 53) (-53) .exact)) := by
  change n < 2 ^ 53 ∧ Float.ofScientific n false 0 = _ ∨
    2 ^ 53 ≤ n ∧ Float.ofScientific n false 0 = _
  unfold Float.ofScientific
  by_cases short : n < 2 ^ 53
  · left
    have word : n.toUInt64.toNat = n := Nat.mod_eq_of_lt (Nat.lt_trans short (by decide))
    have normalize : UnpackedFloat.ofUInt64 .binary64 n.toUInt64 =
        .round .binary64 .positive n 0 := by
      change UnpackedFloat.normalize .binary64 (n.toUInt64.toNat : Int) 0 .positive = _
      rw [word]
      unfold UnpackedFloat.normalize
      rw [Int.compare_eq_gt.2 (by omega)]
      rfl
    rw [dif_pos ⟨short, Nat.zero_le 22⟩, ← normalize]
    exact ⟨short, rfl⟩
  · right
    have long := Nat.not_lt.1 short
    rw [dif_neg (fun fast => short fast.1)]
    refine ⟨long, ?_⟩
    change Float.ofModel (.pack (ofScientific .binary64 n 0)) = _
    have bits : Format.binary64.mantissaBits = 53 := rfl
    have notTiny : ¬ (0 : Int) < -((2 ^ Format.binary64.exponentBits : Int) + n.log2) := by
      change ¬ (0 : Int) < -(2 ^ 11 + n.log2)
      omega
    unfold ofScientific
    rw [dif_neg (Nat.ne_of_gt positive), if_neg (by decide), if_neg notTiny,
      if_pos (Int.le_refl 0), mul_finite, bits, Int.toNat_zero, Nat.pow_zero, Nat.mul_one,
      Nat.shiftLeft_eq, Int.add_zero]
    rfl

theorem roundedRank_natural (positive : 0 < n) {k : Nat} (le : k ≤ places)
    (fits : -(k : Int) ≤ lastPlace (n * 2 ^ k) (-k)) :
    roundedRank (n * 2 ^ k) (-k) = naturalRank n := by
  have scaled := Nat.mul_pos positive (Nat.two_pow_pos k)
  rw [← roundedRank_mul_two_pow scaled fits (places - k), Nat.mul_assoc, ← Nat.pow_add,
    Nat.add_sub_cancel' le, show -(k : Int) - (places - k : Nat) = -places by omega, naturalRank]

theorem nonneg_rounded (m : Nat) (e : Int) :
    0.0 ≤ Float.ofModel (.pack (roundWithAccuracy .binary64 .positive m e .exact)) :=
  nonneg_of_unsigned (unsigned_ofModel_pack (minus_roundWithAccuracy _ _ _ _))
    ((isNaN_unpack_pack _).trans (isNaN_roundWithAccuracy _ _ _ _))

theorem nonneg_ofNat (n : Nat) : 0.0 ≤ Float.ofNat n := by
  rcases Nat.eq_zero_or_pos n with rfl | positive
  · decide
  · rcases ofNat_eq positive with ⟨-, found⟩ | ⟨-, found⟩
    · rw [found]
      exact nonneg_mul (nonneg_rounded _ _) (by decide) (by decide)
    · rw [found]
      exact nonneg_rounded _ _

theorem rank_ofNat (positive : 0 < n) :
    rank (Float.ofNat n).toModel.unpack = min infinite (naturalRank n) := by
  have target : ∀ t, Format.binary64.targetExponent t = max (t - 53) (-1074) := fun _ => rfl
  have place (k : Nat) : lastPlace (n * 2 ^ k) (-k) = max ((n.log2 : Int) + 1 - 53) (-1074) := by
    rw [lastPlace, log2_mul_two_pow positive]
    omega
  rcases ofNat_eq positive with ⟨short, found⟩ | ⟨long, found⟩
  · have bits : n.log2 ≤ 52 := log2_le_of_lt short
    have nonneg : 0.0 ≤ Float.ofModel (.pack (.round .binary64 .positive n 0)) :=
      nonneg_rounded _ _
    rw [found, rank_mul_one nonneg]
    change rank (Float.Model.pack (.round .binary64 .positive n 0)).unpack = _
    unfold UnpackedFloat.round decreaseExponent
    simp only [totalExponent, target, Nat.shiftLeft_eq]
    generalize hk : (0 - max ((n.log2 : Int) + 1 + 0 - 53) (-1074)).toNat = k
    have fits : -(k : Int) ≤ lastPlace (n * 2 ^ k) (-k) := by
      rw [place]
      omega
    rw [Int.zero_sub, rank_round (Nat.mul_pos positive (Nat.two_pow_pos k)) fits,
      roundedRank_natural positive (by unfold places; omega) fits]
  · have bits : 53 ≤ n.log2 := (Nat.le_log2 (Nat.ne_of_gt positive)).2 long
    have fits : -((53 : Nat) : Int) ≤ lastPlace (n * 2 ^ 53) (-(53 : Nat)) := by
      rw [place]
      omega
    rw [found]
    change rank (Float.Model.pack
      (roundWithAccuracy .binary64 .positive (n * 2 ^ 53) (-(53 : Nat)) .exact)).unpack = _
    rw [rank_round (Nat.mul_pos positive (Nat.two_pow_pos 53)) fits,
      roundedRank_natural positive (by decide) fits]

/-- Natural numbers keep their order. -/
theorem ofNat_le_ofNat (le : m ≤ n) : Float.ofNat m ≤ Float.ofNat n := by
  rw [le_iff_rank (nonneg_ofNat m) (nonneg_ofNat n)]
  rcases Nat.eq_zero_or_pos m with rfl | positive
  · exact Nat.zero_le _
  · have scaled : naturalRank m ≤ naturalRank n :=
      roundedRank_mono (Nat.mul_pos positive (Nat.two_pow_pos _)) (Nat.mul_le_mul_right _ le)
        (Int.le_max_right _ _)
    rw [rank_ofNat positive, rank_ofNat (Nat.lt_of_lt_of_le positive le)]
    exact Nat.le_min.2 ⟨Nat.min_le_left _ _, Nat.le_trans (Nat.min_le_right _ _) scaled⟩

end Natural

end Playhouse.Binary64

import Playhouse.Proofs.Binary64.Magnitude

/-!
# Legal coordinates and angles

Every number is clamped to a legal coordinate (`within_clamp`), and every finite value is brought to
an angle (`isAngle_normalizeDegrees`). Not-a-number would slip through both.
-/

namespace Playhouse

open Binary64

/-- From zero to `greatest`. -/
structure Within (greatest x : Float) : Prop where
  nonneg : 0.0 ≤ x
  le : x ≤ greatest

/-- From zero to below a full turn. -/
structure IsAngle (x : Float) : Prop where
  nonneg : 0.0 ≤ x
  lt : x < 360.0

variable {greatest x : Float}

theorem Within.number (within : Within greatest x) : Number x :=
  (number_of_le within.nonneg).2

theorem IsAngle.number (angle : IsAngle x) : Number x :=
  (number_of_le angle.nonneg).2

/-! ## Coordinates -/

theorem positivePart_nonneg (x : Float) : 0.0 ≤ positivePart x := by
  unfold positivePart
  split
  · rename_i pos
    exact le_of_lt pos
  · exact le_self rfl

theorem within_clamp (nonneg : 0.0 ≤ greatest) (number : Number x) :
    Within greatest (clamp greatest x) := by
  have bound := (number_of_le nonneg).2
  unfold clamp
  dsimp only
  by_cases below : x < 0.0
  · rw [if_pos below, if_neg (not_lt_of_le nonneg)]
    exact ⟨le_self rfl, nonneg⟩
  · rw [if_neg below]
    by_cases above : greatest < x
    · rw [if_pos above]
      exact ⟨nonneg, le_self bound⟩
    · rw [if_neg above]
      exact ⟨le_of_not_lt number rfl below, le_of_not_lt bound number above⟩

/-- A coordinate is corrected only if it is outside. -/
theorem within_ite (nonneg : 0.0 ≤ greatest) (number : Number x) :
    Within greatest (if isOutside greatest x then clamp greatest x else x) := by
  by_cases outside : isOutside greatest x = true
  · rw [if_pos outside]
    exact within_clamp nonneg number
  · rw [if_neg outside]
    have inside := outside
    simp only [isOutside, Bool.or_eq_true, decide_eq_true_eq, not_or] at inside
    exact ⟨le_of_not_lt number rfl inside.1,
      le_of_not_lt (number_of_le nonneg).2 number inside.2⟩

theorem Bounds.maxX_nonneg (b : Bounds) : 0.0 ≤ b.maxX :=
  positivePart_nonneg _

theorem Bounds.maxY_nonneg (b : Bounds) : 0.0 ≤ b.maxY :=
  positivePart_nonneg _

/-! ## Angles -/

theorem isAngle_zero : IsAngle 0.0 :=
  ⟨le_self rfl, by decide⟩

/-- What would be rounded to a full turn comes out as zero. -/
theorem isAngle_normalizeDegrees (finite : x.isFinite = true) : IsAngle (normalizeDegrees x) := by
  unfold normalizeDegrees
  rw [if_neg (by simp [finite])]
  dsimp only
  generalize multiple (magnitude x) % fullTurn = rest
  generalize hturned : (if (isNegative x && decide (rest ≠ 0)) = true then fullTurn - rest
    else rest) = turned
  by_cases large : magnitude 360.0 ≤ nearestMagnitude turned unit
  · rw [if_pos large]
    exact isAngle_zero
  · rw [if_neg large]
    cases negative : isNegative x && decide (rest = 0) with
    | false =>
      obtain ⟨nonneg, less⟩ := ofMagnitude_lt_turn (Nat.lt_of_not_le large)
      exact ⟨nonneg, less⟩
    | true =>
      -- A negative number of full turns has the angle `-0.0`.
      obtain ⟨-, whole⟩ := Bool.and_eq_true_iff.1 negative
      have whole := of_decide_eq_true whole
      subst whole
      have none : nearestMagnitude turned unit = 0 := by
        rw [← hturned]
        simp [nearestMagnitude]
      rw [none]
      exact ⟨by decide, by decide⟩

end Playhouse

import Playhouse.Proofs.Binary64.Magnitude
import Playhouse.Random

/-!
# Random draws

A fraction is finite and so is the factor that maps it to a bound, so what is drawn is a number
(`number_of_upTo`).
-/

namespace Playhouse.Random

open Binary64

theorem isFinite_fraction (r : Random) : r.fraction.1.isFinite = true := by
  have bits : (r.next.1 >>> 12).toNat < 1 <<< 52 := by
    have word := r.next.1.toNat_lt
    rw [UInt64.toNat_shiftRight, Nat.shiftRight_eq_div_pow]
    change r.next.1.toNat / 2 ^ 12 < 4503599627370496
    omega
  exact isFinite_ofMagnitude (nearestMagnitude_lt_infinite bits)

/-- All factors that are tried are finite if the first one is. -/
theorem isFinite_fitScale (high : Float) {bits : Nat} (below : bits < infinite) :
    (fitScale high bits).isFinite = true := by
  induction bits with
  | zero =>
    change (0.0 : Float).isFinite = true
    decide
  | succ bits ih =>
    unfold fitScale
    dsimp only
    split
    · exact ih (Nat.lt_of_succ_lt below)
    · exact isFinite_ofMagnitude below

theorem isFinite_scaleFor {high scale : Float} (found : scaleFor high = some scale) :
    scale.isFinite = true := by
  unfold scaleFor at found
  dsimp only at found
  split at found
  · rename_i finite
    cases found
    exact isFinite_fitScale high (magnitude_lt_infinite finite)
  · cases found

theorem number_of_upTo {r after : Random} {high x : Float}
    (drawn : r.upTo high = some (x, after)) : Number x := by
  obtain ⟨scale, found, same⟩ := Option.map_eq_some_iff.1 drawn
  cases same
  exact number_add (number_mul (isFinite_fraction r) (isFinite_scaleFor found)) rfl

end Playhouse.Random

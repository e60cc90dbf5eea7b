import Playhouse.Binary64.Basic

/-!
# The shortest decimal that reads back

A decimal `digits * 10 ^ exponent` stands for the binary64 value nearest to it. `shortest` gives,
for a positive magnitude, a decimal with the fewest digits that stands for it, and of those the
one nearest to the exact value; a `Tie` settles two that are equally near.

The decimals that stand for a magnitude form an interval (`Between`): its ends are half way to the
two neighbouring magnitudes, and belong to it when the magnitude is even. A grid of decimals meets
the interval exactly if one of the two grid points around the value does, so only those are tried,
first on the grid of the leading digit and then on grids with one more digit each time.
-/

namespace Playhouse

structure Decimal where
  digits : Nat
  exponent : Int
deriving DecidableEq, Repr

namespace Decimal

/-- How to choose between two decimals that are equally near. -/
inductive Tie where
  | toEven
  | up

/-- A value between the two ends of its rounding interval, as numerators over one denominator. -/
structure Between where
  low : Nat
  value : Nat
  high : Nat
  closed : Bool
  denominator : Nat

/-- The rounding interval of a positive finite magnitude. The step below a power of two is half
the step above it. -/
def Between.ofMagnitude (bits : Nat) : Between :=
  let m := Binary64.significand bits
  let below := if m = Binary64.binade ∧ 0 < Binary64.scale bits then 1 else 2
  let closed := m % 2 = 0
  match Binary64.exponent bits - 2 with
  | .ofNat up =>
    ⟨(4 * m - below) <<< up, (4 * m) <<< up, (4 * m + 2) <<< up, closed, 1⟩
  | .negSucc down => ⟨4 * m - below, 4 * m, 4 * m + 2, closed, 1 <<< (down + 1)⟩

/-- The same interval in units of `10 ^ exponent`. -/
def Between.inUnits (b : Between) : Int → Between
  | .ofNat up => { b with denominator := b.denominator * Nat.pow 10 up }
  | .negSucc down =>
    let factor := Nat.pow 10 (down + 1)
    { b with low := b.low * factor, value := b.value * factor, high := b.high * factor }

/-- Does the integer `n` lie in the interval? -/
def Between.contains (b : Between) (n : Nat) : Bool :=
  let numerator := n * b.denominator
  if b.closed then b.low ≤ numerator && numerator ≤ b.high
  else b.low < numerator && numerator < b.high

/-- Is the integer above the value the nearer one? -/
def Between.roundsUp (b : Between) (tie : Tie) : Bool :=
  let rest := 2 * (b.value % b.denominator)
  if rest = b.denominator then
    match tie with
    | .toEven => b.value / b.denominator % 2 = 1
    | .up => true
  else b.denominator < rest

/-- The integer in the interval that is nearest to the value, if an integer is in it. -/
def Between.nearest? (b : Between) (tie : Tie) : Option Nat :=
  let floor := b.value / b.denominator
  match b.contains floor, b.contains (floor + 1) with
  | true, true => some (if b.roundsUp tie then floor + 1 else floor)
  | true, false => some floor
  | false, true => some (floor + 1)
  | false, false => none

/-- The exponent of the leading digit of the value, from its binary logarithm: `30103 / 100000`
is so near to the logarithm of two that the guess is at most one too low. -/
def Between.leadingExponent (b : Between) : Int :=
  let guess := Binary64.floorLog2 b.value b.denominator * 30103 / 100000
  let next := b.inUnits (guess + 1)
  if next.denominator ≤ next.value then guess + 1 else guess

/-- Drops at most `limit` zeros at the end of the digits. -/
def trim (digits : Nat) (exponent : Int) : Nat → Decimal
  | 0 => ⟨digits, exponent⟩
  | limit + 1 =>
    if digits % 10 = 0 then trim (digits / 10) (exponent + 1) limit else ⟨digits, exponent⟩

/-- All digits of the value of a magnitude. -/
def exact (bits : Nat) : Decimal :=
  match Binary64.exponent bits with
  | .ofNat up => ⟨Binary64.significand bits <<< up, 0⟩
  | .negSucc down => ⟨Binary64.significand bits * Nat.pow 5 (down + 1), .negSucc down⟩

/-- The first hit on `tries` grids, from the given one to finer ones. -/
def search (b : Between) (tie : Tie) (exponent : Int) : Nat → Option Decimal
  | 0 => none
  | tries + 1 =>
    match (b.inUnits exponent).nearest? tie with
    | some digits => some (trim digits exponent 17)
    | none => search b tie (exponent - 1) tries

/-- The shortest decimal for a positive finite magnitude. Seventeen digits always suffice. -/
def shortest (tie : Tie) (bits : Nat) : Decimal :=
  let b := Between.ofMagnitude bits
  (search b tie b.leadingExponent 17).getD (exact bits)

end Decimal

end Playhouse

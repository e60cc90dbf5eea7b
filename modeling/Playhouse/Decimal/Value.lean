import Playhouse.Decimal.Shortest

/-!
# The binary64 value that a decimal stands for

`Decimal.toMagnitude` is the magnitude nearest to `digits * 10 ^ exponent`. Exponents far outside
the binary64 range are settled without computing the power: more than `10 ^ 400` is infinite, and
`digits` are below `2 ^ (log2 digits + 1)`, hence below `10 ^ (log2 digits + 1)`.
-/

namespace Playhouse

/-- The number that a run of decimal digits denotes. -/
def digitsValue (digits : List Char) : Nat :=
  digits.foldl (fun n c => 10 * n + (c.toNat - 48)) 0

/-- The longest run of decimal digits at the start, and what follows it. -/
def spanDigits (cs : List Char) : List Char × List Char :=
  (cs.takeWhile Char.isDigit, cs.dropWhile Char.isDigit)

namespace Decimal

def toMagnitude (d : Decimal) : Nat :=
  if d.digits = 0 then 0
  else if 400 < d.exponent then Binary64.infinite
  else if d.exponent + d.digits.log2 + 1 < -400 then 0
  else
    match d.exponent with
    | .ofNat up => Binary64.nearestMagnitude (d.digits * Nat.pow 10 up) 1
    | .negSucc down => Binary64.nearestMagnitude d.digits (Nat.pow 10 (down + 1))

def toFloat (negative : Bool) (d : Decimal) : Float :=
  Binary64.ofMagnitude negative d.toMagnitude

end Decimal

end Playhouse

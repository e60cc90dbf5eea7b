/-!
# Binary64 values as scaled integers

A finite `Float` is `± significand * 2 ^ exponent` (`significand`, `exponent`). Magnitudes are
numbered by their bit patterns: `magnitude` grows with the absolute value, so the neighbour of a
positive value is one step away, and `ofMagnitude` goes back.

`nearestMagnitude` rounds a quotient of natural numbers to the nearest such value, ties to the
even pattern; every reading of a decimal goes through it. `multiple` counts a finite value in steps
of the least positive one, for arithmetic that is exact until it is rounded.
-/

namespace Playhouse.Binary64

/-- The number of bit patterns without a sign, `2 ^ 63`. -/
def signBit : Nat := 0x8000000000000000

/-- The number of significands with one exponent, `2 ^ 52`. -/
def binade : Nat := 0x10000000000000

/-- The bit pattern of `x` without its sign. -/
def magnitude (x : Float) : Nat :=
  x.toBits.toNat % signBit

/-- The sign bit of `x`, set for `-0.0` as well. -/
def isNegative (x : Float) : Bool :=
  signBit ≤ x.toBits.toNat

/-- The magnitude of infinity. -/
def infinite : Nat :=
  2047 * binade

/-- The integer that the value of a finite magnitude is a power of two times. -/
def significand (bits : Nat) : Nat :=
  if bits < binade then bits else binade + bits % binade

/-- The power of two that goes with `significand`, counted from the least one, `2 ^ (-1074)`. -/
def scale (bits : Nat) : Nat :=
  bits / binade - 1

/-- The power of two that goes with `significand`. -/
def exponent (bits : Nat) : Int :=
  scale bits - 1074

def ofMagnitude (negative : Bool) (bits : Nat) : Float :=
  Float.ofBits (UInt64.ofNat (if negative then signBit + bits else bits))

/-- `num / den` to the nearest integer, a half to the even one. -/
def roundHalfEven (num den : Nat) : Nat :=
  let quotient := num / den
  let rest := 2 * (num % den)
  if rest < den then quotient
  else if rest = den then quotient + quotient % 2
  else quotient + 1

/-- The greatest `e` with `2 ^ e ≤ num / den`, for positive numbers. -/
def floorLog2 (num den : Nat) : Int :=
  let guess : Int := (num.log2 : Int) - den.log2
  let reached : Bool := match guess with
    | .ofNat up => den <<< up ≤ num
    | .negSucc down => den ≤ num <<< (down + 1)
  if reached then guess else guess - 1

/-- The magnitude nearest to `num / den`, a tie to the even pattern; `infinite` from half a step
above the greatest finite value. -/
def nearestMagnitude (num den : Nat) : Nat :=
  if num = 0 then 0
  else
    let step := (floorLog2 num den + 1022).toNat
    let steps : Int := (step : Int) - 1074
    let rounded := match steps with
      | .ofNat up => roundHalfEven num (den <<< up)
      | .negSucc down => roundHalfEven (num <<< (down + 1)) den
    min infinite (step * binade + rounded)

/-- `± significand * 2 ^ exponent`, rounded to nearest if it has too many bits. -/
def ofScaled (negative : Bool) (significand : Nat) (exponent : Int) : Float :=
  ofMagnitude negative <|
    match exponent with
    | .ofNat up => nearestMagnitude (significand <<< up) 1
    | .negSucc down => nearestMagnitude significand (1 <<< (down + 1))

/-! ## Multiples of the least positive value -/

/-- How often the least positive value goes into one, `2 ^ 1074` times. -/
def unit : Nat := 1 <<< 1074

/-- How often the least positive value goes into the value of a finite magnitude. -/
def multiple (bits : Nat) : Nat :=
  significand bits <<< scale bits

end Playhouse.Binary64

import Playhouse.Binary64.Basic

/-!
# Random numbers

A linear congruential generator on 128 bits whose outputs are the two halves of its state, combined
and rotated (PCG XSL RR). `Random.ofSeed` spreads a seed over the state and the increment.

`Random.upTo` draws a value from zero to a bound, both included. It needs the scale that maps the
greatest fraction to the bound; for bounds near the greatest value there is none.
-/

namespace Playhouse

structure Random where
  state : BitVec 128
  increment : BitVec 128
deriving DecidableEq

namespace Random

def multiplier : BitVec 128 :=
  0x2360ED051FC65DA44385DF649FCCF645

def step (r : Random) : Random :=
  { r with state := r.state * multiplier + r.increment }

/-- The output for a state. -/
def output (state : BitVec 128) : UInt64 :=
  let high := UInt64.ofNat (state >>> 64).toNat
  let low := UInt64.ofNat state.toNat
  let turn := UInt64.ofNat (state >>> 122).toNat
  let mixed := high ^^^ low
  (mixed >>> turn) ||| (mixed <<< (64 - turn))

def next (r : Random) : UInt64 × Random :=
  let r := r.step
  (output r.state, r)

/-! ## Seeding -/

/-- The words that a seed is spread to, `count` of them. -/
def seedWords (seed : UInt64) : Nat → List UInt32
  | 0 => []
  | count + 1 =>
    let seed := seed * 6364136223846793005 + 11634580027462260723
    let mixed := (((seed >>> 18) ^^^ seed) >>> 27).toUInt32
    let turn := (seed >>> 59).toUInt32
    ((mixed >>> turn) ||| (mixed <<< (32 - turn))) :: seedWords seed count

/-- The number with the given words as its digits, the first one lowest. -/
def ofWords (words : List UInt32) : Nat :=
  words.foldr (fun word n => word.toNat + 0x100000000 * n) 0

def ofSeed (seed : UInt64) : Random :=
  let words := seedWords seed 8
  let state := BitVec.ofNat 128 (ofWords (words.take 4))
  let increment := BitVec.ofNat 128 (ofWords (words.drop 4)) ||| 1
  step ⟨state + increment, increment⟩

/-! ## Draws -/

/-- The greatest fraction that is drawn, `1 - 2 ^ (-52)`. -/
def greatestFraction : Float :=
  Binary64.ofScaled false (Binary64.binade - 1) (-52)

/-- A multiple of `2 ^ (-52)` below one. -/
def fraction (r : Random) : Float × Random :=
  let (word, r) := r.next
  (Binary64.ofScaled false (word >>> 12).toNat (-52), r)

/-- The greatest magnitude up to the given one that maps no fraction beyond `high`. -/
def fitScale (high : Float) : Nat → Float
  | 0 => 0.0
  | bits + 1 =>
    let scale := Binary64.ofMagnitude false (bits + 1)
    if high < scale * greatestFraction then fitScale high bits else scale

/-- The factor that maps fractions to values from zero to `high`, if one is finite. -/
def scaleFor (high : Float) : Option Float :=
  let scale := high / greatestFraction
  if scale.isFinite then some (fitScale high (Binary64.magnitude scale)) else none

/-- A value from zero to `high`, or `none` if `high` is too large. -/
def upTo (r : Random) (high : Float) : Option (Float × Random) :=
  (scaleFor high).map fun scale =>
    let (fraction, r) := r.fraction
    (fraction * scale + 0.0, r)

end Random

end Playhouse

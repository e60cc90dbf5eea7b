import Playhouse.Decimal.Value

/-!
# JSON numerals

`Numeral.scan` reads the longest numeral at the start of a text. A numeral that breaks off is
refused, and the refusal says whether the text ended there.
-/

namespace Playhouse

structure Numeral where
  negative : Bool
  decimal : Decimal
  /-- Written with neither a point nor an exponent. -/
  whole : Bool
deriving DecidableEq

/-- A numeral that breaks off, at the end of the text or before a character that cannot follow. -/
structure BrokenNumeral where
  atEnd : Bool

namespace Numeral

/-- The exponent part after the `e`. -/
def scanExponent (cs : List Char) : Except BrokenNumeral (Int × List Char) :=
  let (negative, cs) := match cs with
    | '-' :: rest => (true, rest)
    | '+' :: rest => (false, rest)
    | rest => (false, rest)
  let (digits, rest) := spanDigits cs
  if digits.isEmpty then .error ⟨rest.isEmpty⟩
  else .ok (if negative then -(digitsValue digits : Int) else digitsValue digits, rest)

/-- What follows the integer and fraction digits. -/
def scanTail (negative : Bool) (digits fraction : List Char) (whole : Bool) (cs : List Char) :
    Except BrokenNumeral (Numeral × List Char) :=
  let n := digitsValue (digits ++ fraction)
  let places : Int := fraction.length
  let withExponent (rest : List Char) := do
    let (power, rest) ← scanExponent rest
    pure (⟨negative, ⟨n, power - places⟩, false⟩, rest)
  match cs with
  | 'e' :: rest => withExponent rest
  | 'E' :: rest => withExponent rest
  | rest => .ok (⟨negative, ⟨n, -places⟩, whole⟩, rest)

/-- A numeral without its sign. -/
def scanUnsigned (negative : Bool) (cs : List Char) :
    Except BrokenNumeral (Numeral × List Char) :=
  let (digits, rest) := spanDigits cs
  match digits, rest with
  | [], rest => .error ⟨rest.isEmpty⟩
  | '0' :: _ :: _, _ => .error ⟨false⟩
  | digits, '.' :: rest =>
    let (fraction, rest) := spanDigits rest
    if fraction.isEmpty then .error ⟨rest.isEmpty⟩
    else scanTail negative digits fraction false rest
  | digits, rest => scanTail negative digits [] true rest

def scan : List Char → Except BrokenNumeral (Numeral × List Char)
  | '-' :: rest => scanUnsigned true rest
  | rest => scanUnsigned false rest

def toFloat (n : Numeral) : Float :=
  n.decimal.toFloat n.negative

/-- Is the numeral beyond the greatest binary64 value? -/
def overflows (n : Numeral) : Bool :=
  n.decimal.toMagnitude = Binary64.infinite

/-- The natural number that a whole numeral without a sign writes. -/
def natural? (n : Numeral) : Option Nat :=
  if n.whole && !n.negative then some n.decimal.digits else none

/-- The integer that a whole numeral writes. There is no integer `-0`. -/
def integer? (n : Numeral) : Option Int :=
  if !n.whole then none
  else if !n.negative then some n.decimal.digits
  else if n.decimal.digits = 0 then none
  else some (-(n.decimal.digits : Int))

end Numeral

end Playhouse

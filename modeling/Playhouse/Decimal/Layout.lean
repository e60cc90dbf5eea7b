import Playhouse.Decimal.Shortest

/-!
# Writing binary64 values

A value is written with the digits of its shortest decimal (`Decimal.shortest`). A `Layout` holds
the choices of one format: which exponents are written positionally, whether whole numbers end in
`.0`, and which of two equally near decimals is taken.

`Layout.data` is the number text of saved documents, `Layout.plain` the text of labels and
messages.
-/

namespace Playhouse.Decimal

structure Layout where
  tie : Tie
  /-- The least and the greatest exponent of the leading digit that is written positionally, or
  all. -/
  written : Option (Int × Int)
  /-- A whole number ends in `.0`. -/
  pointZero : Bool

/-- From `0.00001` to below `10 ^ 16` positionally and always with a point, else in powers of
ten. -/
def Layout.data : Layout := ⟨.toEven, some (-5, 15), true⟩

/-- Always positionally, and with a point only where digits follow it. -/
def Layout.plain : Layout := ⟨.up, none, false⟩

def Layout.isPositional (layout : Layout) (leading : Int) : Bool :=
  match layout.written with
  | none => true
  | some (least, greatest) => least ≤ leading && leading ≤ greatest

/-- Digits with the point after the leading digit and a power of ten that is never `0`. -/
def scientific (digits : List Char) (leading : Int) : List Char :=
  let mantissa := match digits with
    | [] => []
    | [digit] => [digit]
    | digit :: more => digit :: '.' :: more
  let power := match leading with
    | .ofNat up => '+' :: Nat.toDigits 10 up
    | .negSucc down => '-' :: Nat.toDigits 10 (down + 1)
  mantissa ++ 'e' :: power

/-- Digits with the point where it belongs, filled up with zeros. -/
def positional (pointZero : Bool) (digits : List Char) (leading : Int) : List Char :=
  match leading with
  | .negSucc down => '0' :: '.' :: (List.replicate down '0' ++ digits)
  | .ofNat up =>
    if up + 1 < digits.length then
      digits.take (up + 1) ++ '.' :: digits.drop (up + 1)
    else
      digits ++ List.replicate (up + 1 - digits.length) '0'
        ++ (if pointZero then ['.', '0'] else [])

def write (layout : Layout) (d : Decimal) : List Char :=
  let digits := Nat.toDigits 10 d.digits
  let leading := d.exponent + (digits.length - 1 : Nat)
  if layout.isPositional leading then positional layout.pointZero digits leading
  else scientific digits leading

def Layout.magnitude (layout : Layout) (bits : Nat) : List Char :=
  if bits = 0 then positional layout.pointZero ['0'] 0
  else write layout (shortest layout.tie bits)

/-- The text of a value. The sign of zero is written. -/
def Layout.text (layout : Layout) (x : Float) : List Char :=
  if x.isNaN then ['N', 'a', 'N']
  else
    let sign := if Binary64.isNegative x then ['-'] else []
    sign ++ if x.isInf then ['i', 'n', 'f'] else layout.magnitude (Binary64.magnitude x)

end Playhouse.Decimal

namespace Playhouse

/-- The text of a value in labels and messages. -/
def plainText (x : Float) : String :=
  String.ofList (Decimal.Layout.plain.text x)

/-- The text of a value in saved documents. -/
def dataText (x : Float) : String :=
  String.ofList (Decimal.Layout.data.text x)

end Playhouse

import Playhouse.Block.Basic
import Playhouse.Decimal.Value
import Playhouse.Text.Blank

/-!
# Reading blocks from tokens

A token is a head and arguments with `_` between them, such as `XY_3_4` or `SAY_hello_2`:

* `X`, `RIGHT`, `LEFT`, `Y`, `XY` move, `ROT` and `ROTLEFT` turn, `REP` starts over;
* `SAY` and `THINK` take a text, which may contain `_`, and a duration behind it. A single argument
  is a text.

Reading a program never fails: tokens with another head are left out, a number that cannot be used
counts as zero and a duration that cannot be used as one second.
-/

namespace Playhouse

/-! ## Numbers in tokens -/

/-- The letters of a word in lower case. -/
def lowercase (cs : List Char) : List Char :=
  cs.map Char.toLower

/-- A decimal without its sign: digits with at most one point among or around them, and perhaps an
exponent. -/
def readUnsigned? (cs : List Char) : Option Decimal := do
  let (digits, rest) := spanDigits cs
  let (fraction, rest) := match rest with
    | '.' :: rest => spanDigits rest
    | rest => ([], rest)
  if digits.isEmpty && fraction.isEmpty then none
  let n := digitsValue (digits ++ fraction)
  let places : Int := fraction.length
  match rest with
  | [] => some ⟨n, -places⟩
  | e :: rest =>
    if e ≠ 'e' ∧ e ≠ 'E' then none
    let (negative, rest) := match rest with
      | '-' :: rest => (true, rest)
      | '+' :: rest => (false, rest)
      | rest => (false, rest)
    let (power, rest) := spanDigits rest
    if power.isEmpty || !rest.isEmpty then none
    let power : Int := digitsValue power
    some ⟨n, (if negative then -power else power) - places⟩

/-- A number with or without a sign. The words for infinity and for no number are numbers too. -/
def readNumber? (cs : List Char) : Option Float :=
  let (negative, cs) := match cs with
    | '-' :: rest => (true, rest)
    | '+' :: rest => (false, rest)
    | rest => (false, rest)
  let word := lowercase cs
  if word = "inf".toList ∨ word = "infinity".toList then
    some (Binary64.ofMagnitude negative Binary64.infinite)
  else if word = "nan".toList then some (0.0 / 0.0)
  else (readUnsigned? cs).map (Decimal.toFloat negative)

namespace Block

/-- A finite number, or zero. -/
def number (arg : Option (List Char)) : Float :=
  match arg.bind fun cs => readNumber? (trim cs) with
  | some x => if x.isFinite then x else 0.0
  | none => 0.0

/-- How long a bubble stays if its token does not say. -/
def defaultSeconds : Float := 1.0

def isDuration (x : Float) : Bool :=
  x.isFinite && 0.0 < x

/-- A finite positive number, or the default. -/
def duration (arg : List Char) : Float :=
  match readNumber? (trim arg) with
  | some x => if isDuration x then x else defaultSeconds
  | none => defaultSeconds

/-! ## Tokens -/

/-- Cuts a text at each `_`. -/
def segments : List Char → List (List Char)
  | [] => [[]]
  | c :: rest =>
    if c = '_' then [] :: segments rest
    else
      match segments rest with
      | [] => [[c]]
      | first :: others => (c :: first) :: others

/-- Puts texts together with `_` between them. -/
def glue : List (List Char) → List Char
  | [] => []
  | [cs] => cs
  | cs :: others => cs ++ '_' :: glue others

/-- The text and the duration of a speech token. -/
def speech (kind : SpeechKind) : List (List Char) → Block
  | [] => .speak kind "" defaultSeconds
  | [text] => .speak kind (String.ofList text) defaultSeconds
  | text :: others =>
    .speak kind (String.ofList (glue (text :: others).dropLast))
      (duration ((text :: others).getLastD []))

/-- The block for a head and its arguments. -/
def ofSegments? (head : String) (args : List (List Char)) : Option Block :=
  match head with
  | "X" => some (.move (number args[0]?) 0.0)
  | "RIGHT" => some (.move (number args[0]?) 0.0)
  | "LEFT" => some (.move (-number args[0]?) 0.0)
  | "Y" => some (.move 0.0 (number args[0]?))
  | "XY" => some (.move (number args[0]?) (number args[1]?))
  | "ROT" => some (.turn (number args[0]?))
  | "ROTLEFT" => some (.turn (-number args[0]?))
  | "REP" => some .restart
  | "SAY" => some (speech .say args)
  | "THINK" => some (speech .think args)
  | _ => none

def ofToken? (token : String) : Option Block :=
  match segments (trim token.toList) with
  | [] => none
  | head :: args => ofSegments? (String.ofList head) args

/-- The label of the block that a token stands for. A token that stands for none is its own. -/
def describe (token : String) : String :=
  match ofToken? token with
  | some b => b.label
  | none => token

end Block

/-- The program that a list of tokens stands for. -/
def Program.ofTokens (tokens : List String) : Program :=
  tokens.filterMap Block.ofToken?

end Playhouse

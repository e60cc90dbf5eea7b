import Playhouse.Decimal.Layout
import Playhouse.Json.Quoted

/-!
# Writing JSON

`Json.compact` writes a value without blanks, `Json.pretty` with one item or member a line and two
spaces of indent for each level. Members stand in the order of the value.

Both are instances of `Json.write`, which takes the blanks from a `Spacing` and puts its text in
front of a given one.
-/

namespace Playhouse.Json

/-- The blanks of a format: what stands before an item at a depth, and after a colon. -/
structure Spacing where
  line : Nat → List Char
  afterColon : List Char

def Spacing.compact : Spacing := ⟨fun _ => [], []⟩

def Spacing.pretty : Spacing := ⟨fun depth => '\n' :: List.replicate (2 * depth) ' ', [' ']⟩

def integerText : Int → List Char
  | .ofNat n => Nat.toDigits 10 n
  | .negSucc n => '-' :: Nat.toDigits 10 (n + 1)

def quotedText (s : String) (rest : List Char) : List Char :=
  '"' :: (escape s.toList ++ '"' :: rest)

mutual

/-- The text of a value at a depth, followed by `rest`. -/
def write (spacing : Spacing) (depth : Nat) (rest : List Char) : Json → List Char
  | .null => 'n' :: 'u' :: 'l' :: 'l' :: rest
  | .bool true => 't' :: 'r' :: 'u' :: 'e' :: rest
  | .bool false => 'f' :: 'a' :: 'l' :: 's' :: 'e' :: rest
  | .integer n => integerText n ++ rest
  | .real x =>
    if x.isFinite then Decimal.Layout.data.text x ++ rest
    else 'n' :: 'u' :: 'l' :: 'l' :: rest
  | .text s => quotedText s rest
  | .array [] => '[' :: ']' :: rest
  | .array (item :: items) =>
    '[' :: (spacing.line (depth + 1)
      ++ write spacing (depth + 1) (writeItems spacing depth rest items) item)
  | .object [] => '\x7b' :: '\x7d' :: rest
  | .object ((key, value) :: members) =>
    '\x7b' :: (spacing.line (depth + 1)
      ++ quotedText key (':' :: (spacing.afterColon
        ++ write spacing (depth + 1) (writeMembers spacing depth rest members) value)))

/-- The further items of an array at a depth, with its end. -/
def writeItems (spacing : Spacing) (depth : Nat) (rest : List Char) : List Json → List Char
  | [] => spacing.line depth ++ ']' :: rest
  | item :: items =>
    ',' :: (spacing.line (depth + 1)
      ++ write spacing (depth + 1) (writeItems spacing depth rest items) item)

/-- The further members of an object at a depth, with its end. -/
def writeMembers (spacing : Spacing) (depth : Nat) (rest : List Char) :
    List (String × Json) → List Char
  | [] => spacing.line depth ++ '\x7d' :: rest
  | (key, value) :: members =>
    ',' :: (spacing.line (depth + 1)
      ++ quotedText key (':' :: (spacing.afterColon
        ++ write spacing (depth + 1) (writeMembers spacing depth rest members) value)))

end

def compact (j : Json) : String :=
  String.ofList (j.write .compact 0 [])

def pretty (j : Json) : String :=
  String.ofList (j.write .pretty 0 [])

end Playhouse.Json

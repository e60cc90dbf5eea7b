/-!
# JSON values

`Json` is the value that a document writes. A number is an integer or a binary64 value; a value
without a number text (NaN, infinities) is written as `null`.

`Fault` says what is wrong with a text that cannot be read. Reading goes from left to right and the
first fault is the answer.
-/

namespace Playhouse

inductive Json where
  | null
  | bool (b : Bool)
  | integer (n : Int)
  | real (x : Float)
  | text (s : String)
  | array (items : List Json)
  | object (members : List (String × Json))

/-- What is wrong with a text. -/
inductive Fault where
  /-- It is not JSON. -/
  | malformed
  /-- It is JSON so far, but not a value of the wanted type. -/
  | mismatch
  /-- It ends too early. -/
  | truncated
deriving DecidableEq, Repr

def Json.natural (n : Nat) : Json :=
  .integer n

end Playhouse

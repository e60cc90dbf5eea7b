import Playhouse.Json.Numeral
import Playhouse.Json.Quoted

/-!
# Tokens of a document

`tokens` cuts a document into its tokens, dropping blanks. It stops after the first token that is
broken, since nothing behind it can be told apart.
-/

namespace Playhouse

inductive Token where
  | openArray
  | closeArray
  | openObject
  | closeObject
  | comma
  | colon
  | null
  | bool (b : Bool)
  | number (n : Numeral)
  | text (q : Quoted)
  /-- A word that starts like `null`, `true` or `false` and goes on differently. -/
  | brokenWord (f : Fault)
  | brokenNumber (b : BrokenNumeral)
  /-- A character that starts no token. -/
  | stray

namespace Token

def isBlank (c : Char) : Bool :=
  c = ' ' || c = '\n' || c = '\t' || c = '\r'

/-- The rest of a word after its first letter. -/
def word (token : Token) : List Char → List Char → Token × List Char
  | [], rest => (token, rest)
  | _ :: _, [] => (.brokenWord .truncated, [])
  | expected :: more, c :: rest =>
    if c = expected then word token more rest else (.brokenWord .malformed, [])

/-- The token that starts with `c`, and what follows it. A broken token takes all the rest. -/
def read (c : Char) (rest : List Char) : Token × List Char :=
  match c with
  | '[' => (.openArray, rest)
  | ']' => (.closeArray, rest)
  | '\x7b' => (.openObject, rest)
  | '\x7d' => (.closeObject, rest)
  | ',' => (.comma, rest)
  | ':' => (.colon, rest)
  | '"' =>
    let (q, rest) := Quoted.scan [] rest
    (.text q, rest)
  | 'n' => word .null ['u', 'l', 'l'] rest
  | 't' => word (.bool true) ['r', 'u', 'e'] rest
  | 'f' => word (.bool false) ['a', 'l', 's', 'e'] rest
  | c =>
    if c = '-' || c.isDigit then
      match Numeral.scan (c :: rest) with
      | .ok (n, rest) => (.number n, rest)
      | .error b => (.brokenNumber b, [])
    else (.stray, [])

/-- The tokens of the text, which are prepended to `done` in reverse. Every token takes at least
one character, so the first argument may be any number from the length of the text on. -/
def scan (done : List Token) : Nat → List Char → List Token
  | _, [] => done.reverse
  | 0, _ :: _ => done.reverse
  | bound + 1, c :: rest =>
    if isBlank c then scan done bound rest
    else
      let (token, rest) := read c rest
      scan (token :: done) bound rest

end Token

def tokens (cs : List Char) : List Token :=
  Token.scan [] cs.length cs

end Playhouse

import Playhouse.Json.Basic

/-!
# Quoted texts

`escape` writes a text between quotes: quotes, backslashes and control characters are escaped, all
else stands for itself. `Quoted` is what stands between quotes in a document, taken as it is
written. `Quoted.text` decodes it; `Quoted.check` looks only at its form, which admits escapes of
lone surrogates.
-/

namespace Playhouse

/-- A lowercase hexadecimal digit. -/
def hexDigit (n : Nat) : Char :=
  if n < 10 then Char.ofNat (48 + n) else Char.ofNat (87 + n)

/-- The value of a hexadecimal digit of either case. -/
def hexValue? (c : Char) : Option Nat :=
  if '0' ≤ c ∧ c ≤ '9' then some (c.toNat - 48)
  else if 'a' ≤ c ∧ c ≤ 'f' then some (c.toNat - 87)
  else if 'A' ≤ c ∧ c ≤ 'F' then some (c.toNat - 55)
  else none

def escapeChar (c : Char) : List Char :=
  match c with
  | '"' => ['\\', '"']
  | '\\' => ['\\', '\\']
  | '\x08' => ['\\', 'b']
  | '\x09' => ['\\', 't']
  | '\x0a' => ['\\', 'n']
  | '\x0c' => ['\\', 'f']
  | '\x0d' => ['\\', 'r']
  | c =>
    if c.toNat < 32 then ['\\', 'u', '0', '0', hexDigit (c.toNat / 16), hexDigit (c.toNat % 16)]
    else [c]

/-- A text as it is written between quotes. -/
def escape (cs : List Char) : List Char :=
  cs.flatMap escapeChar

/-- What follows an opening quote: the characters up to the closing one, or up to the end of the
document if none comes. -/
structure Quoted where
  raw : List Char
  closed : Bool
deriving DecidableEq

namespace Quoted

def ofText (s : String) : Quoted :=
  ⟨escape s.toList, true⟩

/-- Do at least four bytes follow? -/
def roomForDigits (cs : List Char) : Bool :=
  4 ≤ (cs.take 4).foldl (fun bytes c => bytes + c.utf8Size) 0

/-- Takes the characters up to the closing quote, which are prepended to `done` in reverse. The
four digits of a `\u` escape are looked for as a block, so a document that has not room for them
ends at the `\u`. -/
def scan (done : List Char) : List Char → Quoted × List Char
  | [] => (⟨done.reverse, false⟩, [])
  | '"' :: rest => (⟨done.reverse, true⟩, rest)
  | '\\' :: 'u' :: rest =>
    if roomForDigits rest then scan ('u' :: '\\' :: done) rest
    else (⟨('u' :: '\\' :: done).reverse, false⟩, [])
  | '\\' :: c :: rest => scan (c :: '\\' :: done) rest
  | c :: rest => scan (c :: done) rest

/-- A character, or a code unit written as an escape. -/
inductive Piece where
  | char (c : Char)
  | unit (n : Nat)

/-- The character of a one-letter escape. -/
def escaped? : Char → Option Char
  | '"' => some '"'
  | '\\' => some '\\'
  | '/' => some '/'
  | 'b' => some '\x08'
  | 'f' => some '\x0c'
  | 'n' => some '\x0a'
  | 'r' => some '\x0d'
  | 't' => some '\x09'
  | _ => none

/-- The four hexadecimal digits at the start, and what follows. -/
def codeUnit? : List Char → Option (Nat × List Char)
  | a :: b :: c :: d :: rest => do
    let a ← hexValue? a
    let b ← hexValue? b
    let c ← hexValue? c
    let d ← hexValue? d
    pure (((a * 16 + b) * 16 + c) * 16 + d, rest)
  | _ => none

/-- The pieces up to the first fault of form, with that fault. The first argument bounds the number
of pieces. -/
def piecesOf (closed : Bool) (done : List Piece) : Nat → List Char → List Piece × Option Fault
  | _, [] => (done.reverse, if closed then none else some .truncated)
  | 0, _ => (done.reverse, some .malformed)
  | bound + 1, '\\' :: 'u' :: rest =>
    match codeUnit? rest with
    | some (n, rest) => piecesOf closed (.unit n :: done) bound rest
    | none => (done.reverse, some (if rest.isEmpty && !closed then .truncated else .malformed))
  | bound + 1, '\\' :: c :: rest =>
    match escaped? c with
    | some c => piecesOf closed (.char c :: done) bound rest
    | none => (done.reverse, some .malformed)
  | _ + 1, ['\\'] => (done.reverse, some .truncated)
  | bound + 1, c :: rest =>
    if c.toNat < 32 then (done.reverse, some .malformed)
    else piecesOf closed (.char c :: done) bound rest

def pieces (q : Quoted) : List Piece × Option Fault :=
  piecesOf q.closed [] q.raw.length q.raw

/-- Joins surrogate pairs. A fault of form stands after the last piece. -/
def join (fault : Option Fault) (done : List Char) : List Piece → Except Fault (List Char)
  | [] =>
    match fault with
    | none => .ok done.reverse
    | some f => .error f
  | .char c :: rest => join fault (c :: done) rest
  | .unit high :: rest =>
    if high < 0xD800 ∨ 0xDFFF < high then join fault (Char.ofNat high :: done) rest
    else if 0xDC00 ≤ high then .error .malformed
    else
      match rest with
      | [] => .error (fault.getD .malformed)
      | .char _ :: _ => .error .malformed
      | .unit low :: rest =>
        if 0xDC00 ≤ low ∧ low ≤ 0xDFFF then
          join fault (Char.ofNat (0x10000 + (high - 0xD800) * 1024 + (low - 0xDC00)) :: done) rest
        else .error .malformed

/-- The text that is written. -/
def text (q : Quoted) : Except Fault String :=
  let (pieces, fault) := q.pieces
  (join fault [] pieces).map String.ofList

/-- The form alone. -/
def check (q : Quoted) : Except Fault Unit :=
  match q.pieces.2 with
  | none => .ok ()
  | some f => .error f

end Quoted

end Playhouse

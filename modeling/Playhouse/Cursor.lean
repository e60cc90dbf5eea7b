import Playhouse.IdMap

/-!
# Cursors

A cursor says which block of its program an actor performs next, and in which heading: an actor that
hits a wall turns its moves and turns around. A cursor at the end of its program is idle.
-/

namespace Playhouse

inductive Heading where
  | forward
  | backward
deriving DecidableEq, Repr

namespace Heading

def sign : Heading → Float
  | .forward => 1.0
  | .backward => -1.0

def flipped : Heading → Heading
  | .forward => .backward
  | .backward => .forward

def toInt : Heading → Int
  | .forward => 1
  | .backward => -1

/-- A number other than `1` and `-1` is not a heading. -/
def ofInt (n : Int) : Except Int Heading :=
  if n = 1 then .ok .forward else if n = -1 then .ok .backward else .error n

/-- The message about a number that is not a heading. -/
def invalid (n : Int) : String :=
  "direction must be 1 or -1, got " ++ toString n

end Heading

structure Cursor where
  position : Nat
  heading : Heading
  length : Nat
deriving DecidableEq

namespace Cursor

/-- At the start of a program, forward. -/
def fresh (length : Nat) : Cursor :=
  ⟨0, .forward, length⟩

def isIdle (c : Cursor) : Bool :=
  c.length ≤ c.position

/-- After a block: at the start again if it was one that starts over, else one further, but never
behind the end. -/
def advance (c : Cursor) (restarts : Bool) : Cursor :=
  { c with position := if restarts then 0 else min (c.position + 1) c.length }

/-- At the start of another program, with the same heading. -/
def rewind (c : Cursor) (length : Nat) : Cursor :=
  { c with position := 0, length := length }

end Cursor

abbrev Cursors := IdMap Cursor

end Playhouse

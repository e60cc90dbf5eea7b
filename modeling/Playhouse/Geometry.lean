import Playhouse.Binary64.Basic

/-!
# The canvas

The origin is the top left corner and `y` grows downwards. All actors have boxes of one size; the
position of an actor is the top left corner of its box, so the legal positions are `0` to `maxX` and
`0` to `maxY`.

`Box.contactSide` tells which side of another box a box ran into: the side with the least
penetration.
-/

namespace Playhouse

structure Size where
  width : Float
  height : Float
deriving BEq

structure Point where
  x : Float
  y : Float
deriving BEq

/-- `x` if it is positive, else zero. -/
def positivePart (x : Float) : Float :=
  if 0.0 < x then x else 0.0

/-! ## Boxes -/

structure Box where
  x : Float
  y : Float
  width : Float
  height : Float
deriving BEq

inductive Side where
  | left
  | right
  | top
  | bottom
deriving DecidableEq, Repr

def Side.name : Side → String
  | .left => "left"
  | .right => "right"
  | .top => "top"
  | .bottom => "bottom"

namespace Box

/-- Boxes that only touch do not overlap. -/
def overlaps (a b : Box) : Bool :=
  a.x < b.x + b.width && b.x < a.x + a.width && a.y < b.y + b.height && b.y < a.y + a.height

/-- Is the point in the box or on its edge? -/
def contains (a : Box) (p : Point) : Bool :=
  a.x ≤ p.x && p.x ≤ a.x + a.width && a.y ≤ p.y && p.y ≤ a.y + a.height

/-- How far `a` has gone into `b` through a side of `b`. -/
def penetration (a b : Box) : Side → Float
  | .left => a.x + a.width - b.x
  | .right => b.x + b.width - a.x
  | .top => a.y + a.height - b.y
  | .bottom => b.y + b.height - a.y

/-- The side of `b` that `a` ran into, the first one in the order left, right, top, bottom if
several have the least penetration. -/
def contactSide (a b : Box) : Option Side :=
  if a.overlaps b then
    some ([Side.right, .top, .bottom].foldl
      (fun best side => if a.penetration b side < a.penetration b best then side else best) .left)
  else none

theorem overlaps_comm (a b : Box) : a.overlaps b = b.overlaps a := by
  unfold overlaps
  ac_rfl

theorem isSome_contactSide (a b : Box) : (a.contactSide b).isSome = a.overlaps b := by
  unfold contactSide
  cases a.overlaps b <;> rfl

end Box

/-! ## Bounds -/

/-- The size of the canvas and the size of every actor's box. -/
structure Bounds where
  canvas : Size
  actor : Size
deriving BEq

namespace Bounds

variable (b : Bounds)

def maxX : Float :=
  positivePart (b.canvas.width - b.actor.width)

def maxY : Float :=
  positivePart (b.canvas.height - b.actor.height)

end Bounds

def isOutside (greatest x : Float) : Bool :=
  x < 0.0 || greatest < x

/-- The nearest value from zero to `greatest`. -/
def clamp (greatest x : Float) : Float :=
  let x := if x < 0.0 then 0.0 else x
  if greatest < x then greatest else x

theorem clamp_of_isOutside (greatest x : Float) :
    (if isOutside greatest x then clamp greatest x else x) = clamp greatest x := by
  unfold isOutside clamp
  grind

namespace Bounds

variable (b : Bounds)

def isOutsideX (x : Float) : Bool := isOutside b.maxX x

def isOutsideY (y : Float) : Bool := isOutside b.maxY y

def clampX (x : Float) : Float := clamp b.maxX x

def clampY (y : Float) : Float := clamp b.maxY y

theorem clampX_of_isOutsideX (x : Float) :
    (if b.isOutsideX x then b.clampX x else x) = b.clampX x :=
  clamp_of_isOutside b.maxX x

theorem clampY_of_isOutsideY (y : Float) :
    (if b.isOutsideY y then b.clampY y else y) = b.clampY y :=
  clamp_of_isOutside b.maxY y

/-- The box of an actor at a position. -/
def box (p : Point) : Box :=
  ⟨p.x, p.y, b.actor.width, b.actor.height⟩

end Bounds

/-! ## Angles -/

/-- A full turn in degrees, as a multiple of the least positive value. -/
def fullTurn : Nat :=
  360 * Binary64.unit

/-- The same direction as an angle from `0` to below `360` degrees. A tiny negative angle would be
rounded to `360`; it comes out as `0`. A negative number of full turns keeps its sign as `-0.0`. -/
def normalizeDegrees (angle : Float) : Float :=
  if !angle.isFinite then 0.0 / 0.0
  else
    let negative := Binary64.isNegative angle
    let rest := Binary64.multiple (Binary64.magnitude angle) % fullTurn
    let turned := if negative && rest ≠ 0 then fullTurn - rest else rest
    let bits := Binary64.nearestMagnitude turned Binary64.unit
    if Binary64.magnitude 360.0 ≤ bits then 0.0
    else Binary64.ofMagnitude (negative && rest = 0) bits

end Playhouse

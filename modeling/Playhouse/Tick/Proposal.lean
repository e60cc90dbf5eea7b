import Playhouse.Scene.Basic
import Playhouse.Tick.Report

/-!
# Proposed moves

An actor that performs a block other than speech proposes a pose. A pose outside the canvas is moved
to its edge and the actor turns around, once even if it is outside in both axes; the horizontal axis
is named then.

Proposals are made for all actors before any collision is looked for. A proposal that collides is
reverted and marked.
-/

namespace Playhouse

structure Proposal where
  /-- Whose turn it is. -/
  turn : ActorId
  before : Actor
  after : Actor
  heading : Heading
  bounce : Option Axis
  restarts : Bool
  collided : Bool

namespace Proposal

/-- How far a block moves and turns. -/
def displacement : Block → Float × Float × Float
  | .move dx dy => (dx, dy, 0.0)
  | .turn angle => (0.0, 0.0, angle)
  | _ => (0.0, 0.0, 0.0)

/-- The wall that a pose runs into. -/
def wall (bounds : Bounds) (x y : Float) : Option Axis :=
  if bounds.isOutsideX x then some .x
  else if bounds.isOutsideY y then some .y
  else none

/-- The pose without regard to walls. -/
def target (actor : Actor) (heading : Heading) (block : Block) : Actor :=
  let (dx, dy, angle) := displacement block
  { actor with
    x := actor.x + dx * heading.sign
    y := actor.y + dy * heading.sign
    angle := normalizeDegrees (actor.angle + angle * heading.sign) }

def of (bounds : Bounds) (turn : ActorId) (actor : Actor) (heading : Heading) (block : Block) :
    Proposal :=
  let goal := target actor heading block
  let bounce := wall bounds goal.x goal.y
  { turn
    before := actor
    after :=
      { goal with
        x := if bounds.isOutsideX goal.x then bounds.clampX goal.x else goal.x
        y := if bounds.isOutsideY goal.y then bounds.clampY goal.y else goal.y }
    heading := if bounce.isSome then heading.flipped else heading
    bounce
    restarts := block.isRestart
    collided := false }

/-- The actor has collided and stays where it is. -/
def revert (p : Proposal) : Proposal :=
  { p with after := p.before, collided := true }

/-- The proposed box. -/
def box (bounds : Bounds) (p : Proposal) : Box :=
  bounds.box p.after.position

end Proposal

end Playhouse

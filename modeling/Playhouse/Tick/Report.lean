import Playhouse.Bubble

/-!
# What happened in a tick
-/

namespace Playhouse

/-- Two actors whose boxes overlapped. The second one sits out the next tick. -/
structure Collision where
  first : ActorId
  second : ActorId
  /-- The side of the second one that the first one ran into. -/
  side : Side
deriving DecidableEq

inductive Axis where
  | x
  | y
deriving DecidableEq

def Axis.name : Axis → String
  | .x => "x"
  | .y => "y"

/-- An actor turned around at a wall. -/
structure Bounce where
  actor : ActorId
  axis : Axis
deriving DecidableEq

structure Report where
  /-- Hidden bubbles first, then shown ones. -/
  bubbleEvents : List BubbleEvent
  collisions : List Collision
  bounces : List Bounce
  /-- The actors that performed a block other than speech. -/
  executed : List ActorId

namespace Report

def empty : Report := ⟨[], [], [], []⟩

instance : EmptyCollection Report := ⟨empty⟩

/-- Did nothing happen? -/
def isQuiet (r : Report) : Bool :=
  r.bubbleEvents.isEmpty && r.collisions.isEmpty && r.bounces.isEmpty && r.executed.isEmpty

end Report

end Playhouse

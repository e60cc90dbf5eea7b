import Playhouse.Geometry
import Playhouse.Decimal.Layout

/-!
# Configurations

The sizes of the canvas and of the actors, the seconds that a tick takes, how far above an actor its
bubbles are drawn, and the seed of the random placement. `Config.check` refuses values that no stage
can be played with and names the first of them.
-/

namespace Playhouse

structure Config where
  canvasWidth : Float
  canvasHeight : Float
  actorWidth : Float
  actorHeight : Float
  /-- The seconds that a tick takes. -/
  tickSeconds : Float
  bubbleOffset : Float
  seed : UInt64
deriving BEq

/-- What is wrong with a configuration. -/
inductive ConfigError where
  | notPositive (name : String) (value : Float)
  | actorTooLarge (actor canvas : Size)
  | offsetNotFinite (value : Float)

def ConfigError.message : ConfigError → String
  | .notPositive name value =>
    "invalid configuration: " ++ name ++ " must be positive and finite, got " ++ plainText value
  | .actorTooLarge actor canvas =>
    "invalid configuration: actor box " ++ plainText actor.width ++ "x" ++ plainText actor.height
      ++ " does not fit the " ++ plainText canvas.width ++ "x" ++ plainText canvas.height
      ++ " canvas"
  | .offsetNotFinite value =>
    "invalid configuration: bubble_offset must be finite, got " ++ plainText value

namespace Config

/-- How far above an actor its bubbles are drawn if nothing else is said. -/
def defaultOffset : Float := 25.0

def default : Config :=
  ⟨480.0, 480.0, 95.0, 100.0, 1.0 / 60.0, defaultOffset, 0⟩

def bounds (c : Config) : Bounds :=
  ⟨⟨c.canvasWidth, c.canvasHeight⟩, ⟨c.actorWidth, c.actorHeight⟩⟩

def checkPositive (name : String) (value : Float) : Except ConfigError Unit :=
  if value.isFinite && 0.0 < value then .ok () else .error (.notPositive name value)

def check (c : Config) : Except ConfigError Unit := do
  checkPositive "canvas_width" c.canvasWidth
  checkPositive "canvas_height" c.canvasHeight
  checkPositive "actor_width" c.actorWidth
  checkPositive "actor_height" c.actorHeight
  checkPositive "fixed_dt" c.tickSeconds
  if c.canvasWidth < c.actorWidth || c.canvasHeight < c.actorHeight then
    throw (.actorTooLarge c.bounds.actor c.bounds.canvas)
  if !c.bubbleOffset.isFinite then throw (.offsetNotFinite c.bubbleOffset)

end Config

end Playhouse

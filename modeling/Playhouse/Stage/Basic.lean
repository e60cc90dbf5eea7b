import Playhouse.Block.Token
import Playhouse.Random
import Playhouse.Stage.Config
import Playhouse.Tick.Basic

/-!
# Stages

A stage is a world with a configuration, a clock that counts ticks and a source of random numbers.
It is either running or stopped. While it is stopped no tick is played and the time of bubbles is
suspended.

The time of a tick is the number of ticks before it times the seconds that a tick takes.
-/

namespace Playhouse

/-- What the last tick did. -/
structure Diagnostics where
  executed : Nat
  blocked : Nat
  collisions : Nat
  bounces : Nat
deriving DecidableEq

structure Stage where
  config : Config
  /-- How far above an actor its bubbles are drawn. -/
  offset : Float
  world : World
  random : Random
  ticks : Nat
  running : Bool
  diagnostics : Diagnostics

/-- Why an actor cannot be moved by hand. -/
inductive PlaceError where
  | running
  | unknownActor (id : ActorId)
deriving DecidableEq

def PlaceError.message : PlaceError → String
  | .running => "cannot place an actor while the stage is running"
  | .unknownActor id => "actor " ++ toString id.index ++ " does not exist"

namespace Scene

/-- Moves an actor that there is. -/
def place? (s : Scene) (id : ActorId) (x y : Float) : Except PlaceError Scene :=
  if s.actors.contains id then .ok (s.place id x y) else .error (.unknownActor id)

end Scene

def Diagnostics.none : Diagnostics := ⟨0, 0, 0, 0⟩

namespace Stage

/-- An empty stage, stopped. -/
def fresh (config : Config) : Stage where
  config := config
  offset := config.bubbleOffset
  world := ⟨.empty config.bounds, ∅⟩
  random := .ofSeed config.seed
  ticks := 0
  running := false
  diagnostics := .none

/-- An empty stage with a configuration that can be used. -/
def new (config : Config) : Except ConfigError Stage := do
  config.check
  pure (fresh config)

/-- The time of the next tick. -/
def time (s : Stage) : Float :=
  Float.ofNat s.ticks * s.config.tickSeconds

/-! ## Setting the scene -/

/-- Adds an actor. Its id is the one that was next. -/
def addActorAt (s : Stage) (x y : Float) : Stage × ActorId :=
  ({ s with world.scene := s.world.scene.addActor x y }, s.world.scene.nextId)

/-- Adds an actor at a random position, if the canvas is not too large for one. -/
def addActor (s : Stage) : Option (Stage × ActorId) := do
  let bounds := s.world.scene.bounds
  let (x, random) ← s.random.upTo bounds.maxX
  let (y, random) ← random.upTo bounds.maxY
  pure ({ s with random }.addActorAt x y)

/-- Adds two actors half way down the canvas, at a quarter and at three quarters of its width. -/
def addDefaultActors (s : Stage) : Stage × List ActorId :=
  let bounds := s.config.bounds
  let y := bounds.canvas.height / 2.0 - bounds.actor.height / 2.0
  let half := bounds.actor.width / 2.0
  let (s, first) := s.addActorAt (bounds.canvas.width * 0.25 - half) y
  let (s, second) := s.addActorAt (bounds.canvas.width * 0.75 - half) y
  (s, [first, second])

def install (s : Stage) (id : ActorId) (program : Program) : Stage :=
  { s with world := s.world.install id program }

def setProgram (s : Stage) (id : ActorId) (tokens : List String) : Stage :=
  s.install id (.ofTokens tokens)

/-- Moves an actor by hand. This is for stopped stages only. -/
def place (s : Stage) (id : ActorId) (x y : Float) : Except PlaceError Stage := do
  if s.running then throw .running
  let scene ← s.world.scene.place? id x y
  pure { s with world.scene := scene }

/-! ## Running -/

def start (s : Stage) : Stage :=
  if s.running then s
  else { s with running := true, world.bubbles := s.world.bubbles.resume s.time }

def stop (s : Stage) : Stage :=
  if s.running then { s with running := false, world.bubbles := s.world.bubbles.suspend s.time }
  else s

/-- Plays a tick if the stage is running. -/
def tick (s : Stage) : Stage × Report :=
  if s.running then
    let blocked := s.world.blocked
    let (world, report) := s.world.tick s.offset s.time
    ({ s with
        world
        ticks := s.ticks + 1
        diagnostics :=
          ⟨report.executed.length, blocked.size, report.collisions.length,
            report.bounces.length⟩ },
      report)
  else (s, ∅)

def playTicks (s : Stage) : Nat → Stage
  | 0 => s
  | n + 1 => s.tick.1.playTicks n

/-- Plays `n` ticks and answers how many were played. -/
def run (s : Stage) (n : Nat) : Stage × Nat :=
  if s.running then (s.playTicks n, n) else (s, 0)

/-- Empties the stage and stops it. Ids, clock and random numbers start over. -/
def reset (s : Stage) : Stage :=
  { fresh s.config with offset := s.offset, world := ⟨.empty s.world.scene.bounds, ∅⟩ }

end Stage

end Playhouse

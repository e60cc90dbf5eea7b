import Playhouse.Block.Basic
import Playhouse.Bubble
import Playhouse.Cursor
import Playhouse.Geometry

/-!
# Scenes

A scene holds the actors on the canvas, a cursor and a program for each of them, and the actors that
are held back after a collision. A `World` is a scene with its bubbles.

A program may be installed for an id before an actor with that id enters; the actor then finds it.
-/

namespace Playhouse

structure Actor where
  id : ActorId
  x : Float
  y : Float
  angle : Float
deriving BEq

def Actor.position (a : Actor) : Point := ⟨a.x, a.y⟩

abbrev Programs := IdMap Program

namespace Programs

/-- The length of a program, zero if there is none. -/
def lengthOf (p : Programs) (id : ActorId) : Nat :=
  ((p.get? id).getD []).length

/-- Exchanges what two ids have. -/
def swap (p : Programs) (a b : ActorId) : Programs :=
  let first := p.get? a
  let second := p.get? b
  (p.alter a second).alter b first

end Programs

structure Scene where
  bounds : Bounds
  actors : IdMap Actor
  cursors : Cursors
  programs : Programs
  /-- The actors that sit out the next tick. -/
  held : IdSet
  nextId : ActorId
deriving BEq

namespace Scene

def empty (bounds : Bounds) : Scene :=
  ⟨bounds, ∅, ∅, ∅, ∅, ⟨0⟩⟩

/-- A new actor at the nearest legal position, with a cursor at the start of its program. -/
def addActor (s : Scene) (x y : Float) : Scene :=
  let id := s.nextId
  { s with
    actors := s.actors.insert id ⟨id, s.bounds.clampX x, s.bounds.clampY y, 0.0⟩
    cursors := s.cursors.insert id (.fresh (s.programs.lengthOf id))
    nextId := id.next }

/-- Gives an actor another program, to be performed from its start. -/
def install (s : Scene) (id : ActorId) (program : Program) : Scene :=
  { s with
    programs := s.programs.insert id program
    cursors := s.cursors.insert id (.fresh program.length)
    held := s.held.erase id }

/-- Moves an actor to the nearest legal position. -/
def place (s : Scene) (id : ActorId) (x y : Float) : Scene :=
  { s with
    actors := s.actors.adjust id fun actor =>
      { actor with x := s.bounds.clampX x, y := s.bounds.clampY y } }

/-- The actor at a point. Later actors stand in front of earlier ones. -/
def actorAt (s : Scene) (p : Point) : Option ActorId :=
  (s.actors.values.reverse.find? fun actor => (s.bounds.box actor.position).contains p).map (·.id)

/-- Have all actors come to the end of their programs? -/
def allIdle (s : Scene) : Bool :=
  s.actors.keys.all fun id =>
    match s.cursors.get? id with
    | some cursor => cursor.isIdle
    | none => true

/-- The block that an actor performs next. -/
def nextBlock (s : Scene) (id : ActorId) : Option (Cursor × Block) := do
  let cursor ← s.cursors.get? id
  if cursor.isIdle then none
  let program ← s.programs.get? id
  let block ← program[cursor.position]?
  pure (cursor, block)

end Scene

structure World where
  scene : Scene
  bubbles : Bubbles

namespace World

/-- Gives an actor another program. A bubble of its old program goes. -/
def install (w : World) (id : ActorId) (program : Program) : World :=
  ⟨w.scene.install id program, w.bubbles.cancel id⟩

/-- The actors that take no turn. -/
def blocked (w : World) : IdSet :=
  w.bubbles.paused.union w.scene.held

end World

end Playhouse

import Playhouse.Block.Token
import Playhouse.Geometry
import Playhouse.IdMap

/-!
# Speech bubbles

A bubble stays until its time has come, and its actor pauses for as long. `Bubbles.expire` drops the
bubbles whose time has come.

The time of bubbles can be suspended. Then no bubble expires, and `Bubbles.resume` moves all
deadlines by the time that was spent in suspension.
-/

namespace Playhouse

structure Bubble where
  kind : SpeechKind
  text : String
  /-- The point above the actor where the bubble is drawn. -/
  anchor : Point
  /-- When the bubble goes and its actor resumes. -/
  deadline : Float
deriving BEq

inductive BubbleEvent where
  | shown (actor : ActorId) (bubble : Bubble)
  | hidden (actor : ActorId)
deriving BEq

structure Bubbles where
  live : IdMap Bubble
  paused : IdSet
  suspendedAt : Option Float
deriving BEq

namespace Bubbles

def empty : Bubbles := ⟨∅, ∅, none⟩

instance : EmptyCollection Bubbles := ⟨empty⟩

def isPaused (b : Bubbles) (id : ActorId) : Bool :=
  b.paused.contains id

def isSuspended (b : Bubbles) : Bool :=
  b.suspendedAt.isSome

/-- A bubble that appears now. During a suspension its time starts with the suspension. -/
def bubble (b : Bubbles) (kind : SpeechKind) (text : String) (seconds : Float) (anchor : Point)
    (now : Float) : Bubble :=
  ⟨kind, text, anchor,
    b.suspendedAt.getD now + if Block.isDuration seconds then seconds else Block.defaultSeconds⟩

/-- Gives an actor a bubble, in place of the one that it has. -/
def put (b : Bubbles) (id : ActorId) (new : Bubble) : Bubbles :=
  { b with live := b.live.insert id new, paused := b.paused.insert id }

/-- Takes the bubble from an actor. -/
def cancel (b : Bubbles) (id : ActorId) : Bubbles :=
  { b with live := b.live.erase id, paused := b.paused.erase id }

/-- The actors whose bubbles have come to their time. -/
def expired (b : Bubbles) (now : Float) : List ActorId :=
  if b.isSuspended then []
  else (b.live.entries.filter fun p => p.2.deadline ≤ now).map (·.1)

def expire (b : Bubbles) (now : Float) : Bubbles :=
  (b.expired now).foldl cancel b

/-- Stops the time of bubbles, if it has not been stopped before. -/
def suspend (b : Bubbles) (now : Float) : Bubbles :=
  { b with suspendedAt := b.suspendedAt.or (some now) }

def resume (b : Bubbles) (now : Float) : Bubbles :=
  match b.suspendedAt with
  | none => b
  | some since =>
    let shift := positivePart (now - since)
    { b with
      live := b.live.mapEntries fun _ bubble => { bubble with deadline := bubble.deadline + shift }
      suspendedAt := none }

end Bubbles

end Playhouse

import Playhouse.Json.Codec
import Playhouse.Scene.Basic
import Playhouse.Tick.Report

/-!
# Scenes and reports in JSON

The codecs of blocks, bubbles, scenes and tick reports.
-/

namespace Playhouse

open Codec Fields

/-! ## Blocks -/

def SpeechKind.codec : Codec SpeechKind :=
  choice [("say", .say), ("think", .think)] SpeechKind.name

namespace Block

def moveFields : Fields (Float × Float × Unit) (Option Float × Option Float × Unit) :=
  .cons "dx" float none (.cons "dy" float none .nil)

def turnFields : Fields (Float × Unit) (Option Float × Unit) :=
  .cons "d_angle" float none .nil

def speechFields : Fields (String × Float × Unit) (Option String × Option Float × Unit) :=
  .cons "text" Codec.text none (.cons "duration_seconds" float none .nil)

def kinds : List (Kind Block) :=
  [kind "move" moveFields fun (dx, dy, ()) => .move dx dy,
    kind "rotate" turnFields fun (angle, ()) => .turn angle,
    kind "say" speechFields fun (text, seconds, ()) => .speak .say text seconds,
    kind "think" speechFields fun (text, seconds, ()) => .speak .think text seconds,
    kind "repeat_marker" Fields.nil fun () => .restart]

def members : Block → String × List (String × Json)
  | .move dx dy => ("move", moveFields.write (dx, dy, ()))
  | .turn angle => ("rotate", turnFields.write (angle, ()))
  | .speak kind text seconds => (kind.name, speechFields.write (text, seconds, ()))
  | .restart => ("repeat_marker", [])

def codec : Codec Block :=
  tagged "op" kinds members

end Block

def Program.codec : Codec Program :=
  list Block.codec

def Programs.codec : Codec Programs :=
  record (.cons "queues" (idMap Program.codec) none .nil) false (·, ()) (·.1)

/-! ## Geometry -/

def Size.codec : Codec Size :=
  record (.cons "width" float none (.cons "height" float none .nil)) false
    (fun s => (s.width, s.height, ())) fun (width, height, ()) => ⟨width, height⟩

def Point.codec : Codec Point :=
  record (.cons "x" float none (.cons "y" float none .nil)) false
    (fun p => (p.x, p.y, ())) fun (x, y, ()) => ⟨x, y⟩

def Bounds.codec : Codec Bounds :=
  record (.cons "canvas" Size.codec none (.cons "actor" Size.codec none .nil)) false
    (fun b => (b.canvas, b.actor, ())) fun (canvas, actor, ()) => ⟨canvas, actor⟩

def Side.codec : Codec Side :=
  choice [("left", .left), ("right", .right), ("top", .top), ("bottom", .bottom)] Side.name

/-! ## Cursors -/

def Heading.codec : Codec Heading :=
  integer.via Heading.toInt fun n => (Heading.ofInt n).toOption

def Cursor.codec : Codec Cursor :=
  record
    (.cons "cursor" word64 none
      (.cons "direction" Heading.codec none (.cons "length" word64 none .nil)))
    false (fun c => (c.position, c.heading, c.length, ()))
    fun (position, heading, length, ()) => ⟨position, heading, length⟩

def Cursors.codec : Codec Cursors :=
  record (.cons "entries" (idMap Cursor.codec) none .nil) false (·, ()) (·.1)

/-! ## Bubbles -/

def Bubble.codec : Codec Bubble :=
  record
    (.cons "kind" SpeechKind.codec none
      (.cons "text" Codec.text none
        (.cons "anchor" Point.codec none (.cons "expires_at" float none .nil))))
    false (fun b => (b.kind, b.text, b.anchor, b.deadline, ()))
    fun (kind, text, anchor, deadline, ()) => ⟨kind, text, anchor, deadline⟩

namespace BubbleEvent

def shownFields : Fields (ActorId × Bubble × Unit) (Option ActorId × Option Bubble × Unit) :=
  .cons "actor" actorId none (.cons "bubble" Bubble.codec none .nil)

def hiddenFields : Fields (ActorId × Unit) (Option ActorId × Unit) :=
  .cons "actor" actorId none .nil

def kinds : List (Kind BubbleEvent) :=
  [kind "shown" shownFields fun (actor, bubble, ()) => .shown actor bubble,
    kind "hidden" hiddenFields fun (actor, ()) => .hidden actor]

def members : BubbleEvent → String × List (String × Json)
  | .shown actor bubble => ("shown", shownFields.write (actor, bubble, ()))
  | .hidden actor => ("hidden", hiddenFields.write (actor, ()))

def codec : Codec BubbleEvent :=
  tagged "event" kinds members

end BubbleEvent

def Bubbles.codec : Codec Bubbles :=
  record
    (.cons "bubbles" (idMap Bubble.codec) none
      (.cons "paused" idSet none (.cons "suspended_at" (optional float) (some none) .nil)))
    false (fun b => (b.live, b.paused, b.suspendedAt, ()))
    fun (live, paused, suspendedAt, ()) => ⟨live, paused, suspendedAt⟩

/-! ## Scenes -/

def Actor.codec : Codec Actor :=
  record
    (.cons "id" actorId none
      (.cons "x" float none (.cons "y" float none (.cons "angle" float none .nil))))
    false (fun a => (a.id, a.x, a.y, a.angle, ())) fun (id, x, y, angle, ()) => ⟨id, x, y, angle⟩

def Scene.codec : Codec Scene :=
  record
    (.cons "bounds" Bounds.codec none
      (.cons "actors" (idMap Actor.codec) none
        (.cons "cursors" Cursors.codec none
          (.cons "programs" Programs.codec none
            (.cons "hold" idSet none (.cons "next_id" actorId none .nil))))))
    false (fun s => (s.bounds, s.actors, s.cursors, s.programs, s.held, s.nextId, ()))
    fun (bounds, actors, cursors, programs, held, nextId, ()) =>
      ⟨bounds, actors, cursors, programs, held, nextId⟩

/-! ## Reports -/

def Axis.codec : Codec Axis :=
  choice [("x", .x), ("y", .y)] Axis.name

def Collision.codec : Codec Collision :=
  record
    (.cons "first" actorId none
      (.cons "second" actorId none (.cons "side" Side.codec none .nil)))
    false (fun c => (c.first, c.second, c.side, ()))
    fun (first, second, side, ()) => ⟨first, second, side⟩

def Bounce.codec : Codec Bounce :=
  record (.cons "actor" actorId none (.cons "axis" Axis.codec none .nil)) false
    (fun b => (b.actor, b.axis, ())) fun (actor, axis, ()) => ⟨actor, axis⟩

def Report.codec : Codec Report :=
  record
    (.cons "bubble_events" (list BubbleEvent.codec) none
      (.cons "collisions" (list Collision.codec) none
        (.cons "bounces" (list Bounce.codec) none
          (.cons "executed" (list actorId) none .nil))))
    false (fun r => (r.bubbleEvents, r.collisions, r.bounces, r.executed, ()))
    fun (bubbleEvents, collisions, bounces, executed, ()) =>
      ⟨bubbleEvents, collisions, bounces, executed⟩

end Playhouse

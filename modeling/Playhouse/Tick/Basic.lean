import Playhouse.Tick.Sweep

/-!
# A tick

In a tick every actor that is neither paused nor held nor at the end of its program performs the
block at its cursor:

1. Bubbles whose time has come go, and the cursors of their actors move past the speech
   (`Scene.wake`).
2. All actors that are free act (`World.acts`): they speak, or propose a pose.
3. Where proposals collide (`Sweep.through`), both actors stay where they are, exchange their
   programs and start them over, and the second one is held back for the next tick
   (`Scene.exchange`).
4. Poses, headings and cursors are taken over (`Scene.commit`).
-/

namespace Playhouse

/-- What an actor does in its turn. -/
inductive Act where
  | speech (turn : ActorId) (bubble : Bubble)
  | motion (proposal : Proposal)

namespace Act

def speech? : Act → Option (ActorId × Bubble)
  | .speech turn bubble => some (turn, bubble)
  | .motion _ => none

def proposal? : Act → Option Proposal
  | .speech .. => none
  | .motion p => some p

end Act

namespace Scene

/-- Moves the cursors of actors past the block that they have performed. -/
def wake (s : Scene) (ids : List ActorId) : Scene :=
  { s with cursors := ids.foldl (fun cursors id => cursors.adjust id (·.advance false)) s.cursors }

/-- Sets a cursor to the start of the program that its actor has. -/
def rewind (s : Scene) (id : ActorId) : Scene :=
  { s with cursors := s.cursors.adjust id (·.rewind (s.programs.lengthOf id)) }

/-- What a collision does to the programs. -/
def exchange (s : Scene) (c : Collision) : Scene :=
  let swapped := { s with programs := s.programs.swap c.first c.second }
  let rewound := (swapped.rewind c.first).rewind c.second
  { rewound with held := rewound.held.insert c.second }

/-- Takes over what a proposal says about its actor. -/
def commit (s : Scene) (p : Proposal) : Scene :=
  let id := p.after.id
  { s with
    actors := s.actors.replace id p.after
    cursors := s.cursors.adjust id fun cursor =>
      { cursor with heading := p.heading }.advance p.restarts }

end Scene

namespace World

/-- The point above an actor where its bubble is drawn. -/
def anchor (offset : Float) (bounds : Bounds) (actor : Actor) : Point :=
  ⟨actor.x + bounds.actor.width / 2.0, actor.y - offset⟩

/-- What an actor does to perform a block. -/
def enact (w : World) (offset now : Float) (id : ActorId) (actor : Actor) (heading : Heading) :
    Block → Act
  | .speak kind text seconds =>
    .speech id (w.bubbles.bubble kind text seconds (anchor offset w.scene.bounds actor) now)
  | block => .motion (.of w.scene.bounds id actor heading block)

/-- What an actor does, if it is free and not at the end of its program. -/
def act (w : World) (offset now : Float) (id : ActorId) (actor : Actor) : Option Act :=
  if w.bubbles.isPaused id || w.scene.held.contains id then none
  else
    (w.scene.nextBlock id).map fun (cursor, block) =>
      w.enact offset now id actor cursor.heading block

/-- What all actors do, in the order of turns. -/
def acts (w : World) (offset now : Float) : List Act :=
  w.scene.actors.entries.filterMap fun (id, actor) => w.act offset now id actor

/-- The world after the bubbles have gone whose time has come. -/
def awake (w : World) (now : Float) : World :=
  ⟨w.scene.wake (w.bubbles.expired now), w.bubbles.expire now⟩

/-- One tick at a time, with bubbles `offset` above their actors. -/
def tick (w : World) (offset now : Float) : World × Report :=
  let ready := w.awake now
  let acts := ready.acts offset now
  let speeches := acts.filterMap Act.speech?
  let proposals := acts.filterMap Act.proposal?
  let sweep := Sweep.through ready.scene.bounds proposals
  let released := { ready.scene with held := ∅ }
  let scene :=
    sweep.pending.foldl Scene.commit (sweep.collisions.foldl Scene.exchange released)
  let bubbles := speeches.foldl (fun bubbles p => bubbles.put p.1 p.2) ready.bubbles
  (⟨scene, bubbles⟩,
    { bubbleEvents :=
        (w.bubbles.expired now).map BubbleEvent.hidden
          ++ speeches.map fun p => .shown p.1 p.2
      collisions := sweep.collisions
      bounces := sweep.pending.filterMap fun p => p.bounce.map fun axis => ⟨p.after.id, axis⟩
      executed := sweep.pending.map (·.after.id) })

end World

end Playhouse

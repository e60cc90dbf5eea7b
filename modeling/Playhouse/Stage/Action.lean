import Playhouse.Stage.Snapshot

/-!
# What is done to a stage

An `Action` is something that can be done to a stage, and a `Reply` is the answer to it. There is no
answer in one case only: a canvas can be too large for a random position (`Stage.perform`).
-/

namespace Playhouse

inductive Action where
  /-- Adds an actor at a random position. -/
  | addActor
  | addActorAt (x y : Float)
  | addDefaultActors
  | setProgram (id : ActorId) (tokens : List String)
  | install (id : ActorId) (program : Program)
  | place (id : ActorId) (x y : Float)
  | start
  | stop
  | tick
  | run (ticks : Nat)
  | reset
  | restore (snapshot : Snapshot)

inductive Reply where
  | done
  | added (ids : List ActorId)
  /-- The length of the program. -/
  | installed (blocks : Nat)
  | notPlaced (error : PlaceError)
  | report (report : Report)
  | played (ticks : Nat)
  | notRestored (error : RestoreError)

namespace Stage

/-- Does an action and answers it, or answers nothing if there is no random position. -/
def perform (s : Stage) : Action → Option (Stage × Reply)
  | .addActor => s.addActor.map fun (s, id) => (s, .added [id])
  | .addActorAt x y =>
    let (s, id) := s.addActorAt x y
    some (s, .added [id])
  | .addDefaultActors =>
    let (s, ids) := s.addDefaultActors
    some (s, .added ids)
  | .setProgram id tokens =>
    let program := Program.ofTokens tokens
    some (s.install id program, .installed program.length)
  | .install id program => some (s.install id program, .installed program.length)
  | .place id x y =>
    match s.place id x y with
    | .ok s => some (s, .done)
    | .error e => some (s, .notPlaced e)
  | .start => some (s.start, .done)
  | .stop => some (s.stop, .done)
  | .tick =>
    let (s, report) := s.tick
    some (s, .report report)
  | .run ticks =>
    let (s, played) := s.run ticks
    some (s, .played played)
  | .reset => some (s.reset, .done)
  | .restore snapshot =>
    match s.restore snapshot with
    | (s, none) => some (s, .done)
    | (s, some e) => some (s, .notRestored e)

end Stage

end Playhouse

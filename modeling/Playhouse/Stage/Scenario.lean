import Playhouse.Stage.Snapshot

/-!
# Scenarios

A scenario describes a run: a configuration, the actors with their programs, and the number of
ticks. An actor without a position is placed at random, and without any actors the two default ones
play.
-/

namespace Playhouse

open Codec Fields

/-- An actor of a scenario. -/
structure Part where
  position : Option (Float × Float)
  tokens : List String

structure Scenario where
  config : Config
  parts : List Part
  ticks : Nat

def Part.codec : Codec Part :=
  record
    (.cons "position" (optional (pair float float)) (some none)
      (.cons "program" (list text) (some []) .nil))
    true (fun p => (p.position, p.tokens, ())) fun (position, tokens, ()) => ⟨position, tokens⟩

namespace Scenario

def codec : Codec Scenario :=
  record
    (.cons "config" Config.codec (some .default)
      (.cons "actors" (list Part.codec) (some []) (.cons "ticks" word64 (some 0) .nil)))
    true (fun s => (s.config, s.parts, s.ticks, ())) fun (config, parts, ticks, ()) =>
      ⟨config, parts, ticks⟩

/-- Reads a scenario whose configuration can be used. -/
def ofText (s : String) : Except LoadError Scenario := do
  let scenario ← (codec.ofText s).mapError .parse
  scenario.config.check.mapError .invalid
  pure scenario

/-- Why a scenario cannot be set up. -/
inductive BuildError where
  | invalid (error : ConfigError)
  /-- The canvas is too large for a random position. -/
  | placement

/-- Adds an actor with its program. -/
def addPart (s : Stage) (part : Part) : Except BuildError Stage := do
  let added := match part.position with
    | some (x, y) => some (s.addActorAt x y)
    | none => s.addActor
  match added with
  | some (s, id) => pure (s.setProgram id part.tokens)
  | none => throw .placement

/-- The stage at the start of the run, stopped. -/
def build (s : Scenario) : Except BuildError Stage := do
  let stage ← (Stage.new s.config).mapError .invalid
  if s.parts.isEmpty then pure stage.addDefaultActors.1
  else s.parts.foldlM addPart stage

/-- The stage at the end of the run, stopped. -/
def run (s : Scenario) : Except BuildError Stage := do
  let stage ← s.build
  pure (stage.start.run s.ticks).1.stop

end Scenario

end Playhouse

import Playhouse.Blake3
import Playhouse.Format.Config
import Playhouse.Format.Scene
import Playhouse.Stage.Basic

/-!
# Snapshots

A snapshot holds all that decides the further course of a stage, and a fingerprint of it: the digest
of its JSON text. Restoring checks the configuration and the fingerprint first. A restored stage is
stopped.
-/

namespace Playhouse

open Codec Fields

/-- What a snapshot records of a stage. -/
structure Record where
  config : Config
  scene : Scene
  bubbles : Bubbles
  random : Random
  ticks : Nat
deriving BEq

structure Snapshot where
  record : Record
  hash : String

/-- Why a snapshot is not restored. -/
inductive RestoreError where
  | invalidConfig (error : ConfigError)
  | hashMismatch (recorded computed : String)

def RestoreError.message : RestoreError → String
  | .invalidConfig error => "snapshot carries an invalid configuration: " ++ error.message
  | .hashMismatch recorded computed =>
    "snapshot hash mismatch: recorded " ++ recorded ++ " but recomputed " ++ computed

def Random.codec : Codec Random :=
  record (.cons "state" word128 none (.cons "increment" word128 none .nil)) false
    (fun r => (r.state, r.increment, ())) fun (state, increment, ()) => ⟨state, increment⟩

namespace Record

def codec : Codec Record :=
  record
    (.cons "config" Config.codec none
      (.cons "state" Scene.codec none
        (.cons "bubbles" Bubbles.codec none
          (.cons "rng" Random.codec none (.cons "tick_counter" word64 none .nil)))))
    false (fun r => (r.config, r.scene, r.bubbles, r.random, r.ticks, ()))
    fun (config, scene, bubbles, random, ticks, ()) => ⟨config, scene, bubbles, random, ticks⟩

/-- The digest of the JSON text. -/
def fingerprint (r : Record) : String :=
  Blake3.hex (codec.compact r)

/-- A stopped stage with the recorded content. -/
def toStage (r : Record) : Stage :=
  let stage : Stage :=
    { config := r.config
      offset := r.config.bubbleOffset
      world := ⟨r.scene, r.bubbles⟩
      random := r.random
      ticks := r.ticks
      running := false
      diagnostics := .none }
  { stage with world.bubbles := r.bubbles.suspend stage.time }

end Record

namespace Snapshot

def codec : Codec Snapshot :=
  Codec.record
    (.cons "config" Config.codec none
      (.cons "state" Scene.codec none
        (.cons "bubbles" Bubbles.codec none
          (.cons "rng" Random.codec none
            (.cons "tick_counter" word64 none (.cons "hash" text none .nil))))))
    false
    (fun s =>
      (s.record.config, s.record.scene, s.record.bubbles, s.record.random, s.record.ticks, s.hash,
        ()))
    fun (config, scene, bubbles, random, ticks, hash, ()) =>
      ⟨⟨config, scene, bubbles, random, ticks⟩, hash⟩

end Snapshot

namespace Stage

def record (s : Stage) : Record :=
  ⟨s.config, s.world.scene, s.world.bubbles, s.random, s.ticks⟩

/-- The fingerprint of what a snapshot records. -/
def fingerprint (s : Stage) : String :=
  s.record.fingerprint

def capture (s : Stage) : Snapshot :=
  ⟨s.record, s.fingerprint⟩

/-- The stage that a snapshot describes. -/
def ofSnapshot (s : Snapshot) : Except RestoreError Stage := do
  s.record.config.check.mapError .invalidConfig
  let computed := s.record.fingerprint
  if computed ≠ s.hash then throw (.hashMismatch s.hash computed)
  pure s.record.toStage

/-- Goes back to a snapshot. A stage stays as it is if the snapshot is not restored. -/
def restore (s : Stage) (snapshot : Snapshot) : Stage × Option RestoreError :=
  match ofSnapshot snapshot with
  | .ok restored => (restored, none)
  | .error e => (s, some e)

end Stage

end Playhouse

import Playhouse.Json.Codec
import Playhouse.Stage.Config

/-!
# Configurations in JSON

Every field may be missing and has its default then.
-/

namespace Playhouse

open Codec Fields

def word64Seed : Codec UInt64 :=
  word64.via UInt64.toNat fun n => some (UInt64.ofNat n)

namespace Config

def codec : Codec Config :=
  record
    (.cons "canvas_width" float (some default.canvasWidth)
      (.cons "canvas_height" float (some default.canvasHeight)
        (.cons "actor_width" float (some default.actorWidth)
          (.cons "actor_height" float (some default.actorHeight)
            (.cons "fixed_dt" float (some default.tickSeconds)
              (.cons "bubble_offset" float (some default.bubbleOffset)
                (.cons "seed" word64Seed (some default.seed) .nil)))))))
    true
    (fun c =>
      (c.canvasWidth, c.canvasHeight, c.actorWidth, c.actorHeight, c.tickSeconds, c.bubbleOffset,
        c.seed, ()))
    fun (canvasWidth, canvasHeight, actorWidth, actorHeight, tickSeconds, bubbleOffset, seed, ()) =>
      ⟨canvasWidth, canvasHeight, actorWidth, actorHeight, tickSeconds, bubbleOffset, seed⟩

end Config

/-- Why a configuration or a scenario could not be loaded. -/
inductive LoadError where
  /-- There is no such file. -/
  | missing
  /-- The file is not text in UTF-8. -/
  | notText
  /-- The text is not what it should be. -/
  | parse (fault : Fault)
  /-- The configuration cannot be used. -/
  | invalid (error : ConfigError)

/-- The text of a file, given its bytes if it is there. -/
def fileText : Option ByteArray → Except LoadError String
  | none => .error .missing
  | some bytes =>
    match String.fromUTF8? bytes with
    | some s => .ok s
    | none => .error .notText

/-- Reads a configuration that can be used. -/
def Config.ofText (s : String) : Except LoadError Config := do
  let config ← (Config.codec.ofText s).mapError .parse
  config.check.mapError .invalid
  pure config

end Playhouse

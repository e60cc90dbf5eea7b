import Playhouse.Decimal.Layout

/-!
# Blocks and programs

A program is a list of blocks. An actor performs one block a tick: it moves, turns, speaks, or goes
back to the first block.
-/

namespace Playhouse

inductive SpeechKind where
  | say
  | think
deriving DecidableEq, Repr

def SpeechKind.name : SpeechKind → String
  | .say => "say"
  | .think => "think"

inductive Block where
  | move (dx dy : Float)
  | turn (angle : Float)
  | speak (kind : SpeechKind) (text : String) (seconds : Float)
  /-- Go on with the first block. -/
  | restart
deriving BEq

namespace Block

def isRestart : Block → Bool
  | .restart => true
  | _ => false

def isSpeech : Block → Bool
  | .speak .. => true
  | _ => false

/-! ## Labels -/

/-- How a block is shown to people. A move along one axis names only that axis, and a turn to the
left is given as a positive angle. -/
def label : Block → String
  | .move dx dy =>
    if dy == 0.0 then "Move X by " ++ plainText dx ++ " steps"
    else if dx == 0.0 then "Move Y by " ++ plainText dy ++ " steps"
    else "Move by X: " ++ plainText dx ++ " steps, Y: " ++ plainText dy ++ " steps"
  | .turn angle =>
    if angle < 0.0 then "Rotate left by " ++ plainText (-angle) ++ " degrees"
    else "Rotate by " ++ plainText angle ++ " degrees"
  | .speak .say text seconds => "Say: \"" ++ text ++ "\" for " ++ plainText seconds ++ "s"
  | .speak .think text seconds => "Think: \"" ++ text ++ "\" for " ++ plainText seconds ++ "s"
  | .restart => "Repeat forever"

end Block

abbrev Program := List Block

namespace Program

/-- Does the program start over instead of ending? -/
def repeats (p : Program) : Bool :=
  p.any Block.isRestart

end Program

end Playhouse

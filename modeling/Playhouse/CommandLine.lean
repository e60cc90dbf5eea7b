import Playhouse.Stage.Scenario

/-!
# The command line

The program takes a scenario file, plays it, and prints the snapshot of the final stage. If anything
fails it prints nothing and its exit code tells so.
-/

namespace Playhouse

structure Exit where
  code : UInt32
  output : String

namespace Exit

def failure : Exit := ⟨1, ""⟩

/-- The exit of a run that cannot go on. -/
def abort : Exit := ⟨101, ""⟩

end Exit

/-- Plays the scenario in a file, given its bytes if it is there. -/
def playFile (file : Option ByteArray) : Exit :=
  match fileText file >>= Scenario.ofText with
  | .error _ => .failure
  | .ok scenario =>
    match scenario.run with
    | .ok stage => ⟨0, Snapshot.codec.pretty stage.capture ++ "\n"⟩
    | .error (.invalid _) => .failure
    | .error .placement => .abort

end Playhouse

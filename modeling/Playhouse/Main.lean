import Playhouse.CommandLine

/-!
# The program

`playhouse <scenario.json>` plays a scenario and prints the final snapshot.
-/

namespace Playhouse

def usage : String :=
  "usage: playhouse <scenario.json>"

/-- The bytes of a file, if it can be read. -/
def readBytes (path : String) : IO (Option ByteArray) := do
  try
    pure (some (← IO.FS.readBinFile path))
  catch _ =>
    pure none

end Playhouse

open Playhouse in
def main (args : List String) : IO UInt32 := do
  match args with
  | [] =>
    IO.eprintln usage
    pure Exit.failure.code
  | path :: _ =>
    let exit := playFile (← readBytes path)
    IO.print exit.output
    if exit.output.isEmpty then IO.eprintln ("failed to play scenario " ++ path)
    pure exit.code

import FilterQuery.Shell.Program

/-!
The command line program. Every turn of it is that of `FilterQuery.Program`; this module reads and prints.
-/

namespace FilterQuery.Main

def putText (stream : IO.FS.Stream) (t : Text) : IO Unit := do
  stream.putStr (String.ofList t)
  stream.flush

def content? (path : Text) : IO (Option Text) := do
  try
    return some (← IO.FS.readFile (String.ofList path)).toList
  catch _ => return none

partial def talk (turn : Turn) : IO UInt32 := do
  putText (← IO.getStderr) turn.err
  putText (← IO.getStdout) turn.out
  match turn.next with
  | .inr code => return code.toUInt32
  | .inl shell =>
    let line ← (← IO.getStdin).getLine
    talk (Program.answer shell (if line.isEmpty then none else some line.toList))

def run (arguments : List Text) : IO UInt32 := do
  let content ← match Arguments.parse arguments with
    | .ok { config := some path, .. } => content? path
    | _ => pure none
  talk (Program.start (fun _ => content) arguments)

end FilterQuery.Main

def main (arguments : List String) : IO UInt32 := FilterQuery.Main.run (arguments.map String.toList)

import GameHall.Desk

/-!
# The program

`game-hall [DIRECTORY]` sets a server up from the rule book in a directory and keeps it until it is
told to stop. The first line of input, or the end of it, stops new games; the second stops the
server.
-/

namespace GameHall

/-- What is found in the place of the file of a document. -/
def contentsAt (directory : String) (doc : Rules.Document) : IO Rules.FileContents := do
  try
    return .bytes (← IO.FS.readBinFile (directory ++ "/" ++ doc.file))
  catch
    | .noFileOrDirectory .. => return .missing
    | e => throw e

/-- The files of a rule book. -/
def filesAt (directory : String) : IO (Rules.Document → Rules.FileContents) := do
  let colors ← contentsAt directory .color
  let suits ← contentsAt directory .suit
  let variants ← contentsAt directory .variant
  return fun
    | .color => colors
    | .suit => suits
    | .variant => variants

/-- Keeps the desk of a server until it is told to stop. -/
def attend (d : Desk) : IO Unit := do
  let input ← IO.getStdin
  discard input.getLine
  let (result, d) := d.attend (Desk.call .windDown)
  match result with
  | .ok running => IO.eprintln ("no new games; " ++ toString running ++ " are running")
  | .error e => IO.eprintln e.message
  discard input.getLine
  let (worker, _) := d.shutdown
  if worker = .exited then IO.eprintln "the server has stopped"

end GameHall

open GameHall in
/-- Runs a server. -/
def main (args : List String) : IO UInt32 := do
  let config := { Config.standard with dataDir := args.headD Config.standard.dataDir }
  match Server.build config (← filesAt config.dataDir) with
  | .error fault =>
    IO.eprintln ("failed to start: " ++ fault.message)
    return 1
  | .ok srv =>
    IO.eprintln ("running with the rule book in " ++ config.dataDir)
    attend (Desk.ofHall srv.hall)
    return 0

import LineMachine.Cli.Command
import LineMachine.Cli.Decoding

/-! At the edge of the program: the command in a file system that is a value. -/

namespace LineMachine.Files

open Cli

/-- A watcher of files to which nothing happens. -/
def watcher : Watcher (StateM Files) where
  start := return none
  add path := do
    let files ← get
    match files.locate (Path.clean path) with
    | .error error => return some error.text
    | .ok location =>
      return if (files.lookup? location).isSome then none else some FileError.notFound.text
  next := return none

def environment (input : Text) : Environment (StateM Files) where
  storage := storage
  watcher := watcher
  input := return input
  decode := Configuration.yaml

end LineMachine.Files

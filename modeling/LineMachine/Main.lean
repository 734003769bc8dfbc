import LineMachine.Cli.Command
import LineMachine.Cli.Decoding
import LineMachine.Terminal

/-! At the edge of the program: the command on a real disk with real streams. -/

namespace LineMachine.Disk

open Cli (Watcher)

/-- Bytes as a text. -/
def textOf (bytes : ByteArray) : Text := bytes.data.toList

def bytesOf (text : Text) : ByteArray := ⟨text.toArray⟩

/-- The name of a path, if it is valid. -/
def nameOf? (path : Text) : Option String := String.fromUTF8? (bytesOf path)

def errorOf : IO.Error → FileError
  | .noFileOrDirectory _ _ _ => .notFound
  | .inappropriateType _ 20 _ => .notDirectory
  | .inappropriateType _ _ _ => .isDirectory
  | .permissionDenied _ _ _ => .denied
  | error => .other (utf8 error.toString)

/-- Storage on a real disk. A directory can be opened, but not read. -/
def storage : Storage IO where
  fetch path := do
    match nameOf? path with
    | none => return .error .notFound
    | some name =>
      try return .ok { bytes := textOf (← IO.FS.readBinFile name) }
      catch error =>
        match errorOf error with
        | .isDirectory => return .ok { bytes := [], failure := some .isDirectory }
        | other => return .error other
  write path content := do
    match nameOf? path with
    | none => pure ()
    | some name => try IO.FS.writeBinFile name (bytesOf content) catch _ => pure ()
  makeDirectories path := do
    match nameOf? path with
    | none => return false
    | some name =>
      try
        IO.FS.createDirAll name
        return true
      catch _ => return false

/-- A watcher that takes every file that can be opened and tells nothing, so that a watched file is
run once. -/
def watcher : Watcher IO where
  start := return none
  add path := do
    match ← storage.fetch path with
    | .ok _ => return none
    | .error error => return some error.text
  next := return none

/-- All of a stream that can be read. -/
partial def readAll (stream : IO.FS.Stream) (before : ByteArray) : IO ByteArray := do
  let bytes ← stream.read 65536
  if bytes.isEmpty then return before else readAll stream (before ++ bytes)

/-- More steps than a program can take in a lifetime. -/
def patience : Nat := 4611686018427387904

end LineMachine.Disk

open LineMachine

def main (arguments : List String) : IO UInt32 := do
  let input : IO Text := return Disk.textOf (← Disk.readAll (← IO.getStdin) .empty)
  let home := (← IO.getEnv "HOME").map utf8
  let described : TerminalEnvironment :=
    { term := (← IO.getEnv "TERM").map utf8, noColor := (← IO.getEnv "NO_COLOR").map utf8 }
  let supportsColor := (Terminal.detect described (← (← IO.getStderr).isTty) none).color
  let environment : Cli.Environment IO :=
    { storage := Disk.storage, watcher := Disk.watcher, input, decode := Cli.Configuration.yaml }
  let result ← Cli.Command.run Disk.patience environment
    { arguments := arguments.map utf8, home, supportsColor, consoleColor := supportsColor }
  (← IO.getStdout).write (Disk.bytesOf result.output)
  (← IO.getStderr).write (Disk.bytesOf (result.console ++ result.errors))
  return UInt32.ofNat result.exit

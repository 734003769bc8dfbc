import LineMachine.Storage

namespace LineMachine.Cli

/-- What a watcher tells about a file: it has changed and is quiet again, something else has happened
to it, or watching has failed this time. -/
inductive WatchEvent where
  | changed
  | other
  | failed (reason : Text)
deriving DecidableEq, Repr

/-- A watcher of files. There may be a reason why it cannot start or cannot take a path. It tells one
event after another until it is stopped. -/
structure Watcher (m : Type → Type) where
  start : m (Option Text)
  add : Text → m (Option Text)
  next : m (Option WatchEvent)

/-- What comes of watching a file: a content to be run, or an error to be told. -/
inductive Episode where
  | read (content : Text)
  | unread (reason : Text)
  | failed (reason : Text)
deriving DecidableEq, Repr

namespace Watcher

variable {m : Type → Type} [Monad m] (storage : Storage m) (watcher : Watcher m) (path : Text)

def reread : m Episode := do
  match ← storage.read path with
  | .ok content => return .read content
  | .error reason => return .unread reason

/-- What comes of so many events at most. A file that was replaced has to be added again. -/
def episodes : Nat → m (List Episode)
  | 0 => return []
  | rounds + 1 => do
    match ← watcher.next with
    | none => return []
    | some .other => episodes rounds
    | some (.failed reason) =>
      let later ← episodes rounds
      return .failed reason :: later
    | some .changed =>
      let _ ← watcher.add path
      let now ← reread storage path
      let later ← episodes rounds
      return now :: later

/-- Reads a file, and reads it again after every change. There may be a reason why the file cannot be
watched. -/
def watch (rounds : Nat) : m (List Episode × Option Text) := do
  if let some reason ← watcher.start then return ([], some (utf8 "watch: " ++ reason))
  let first ← reread storage path
  if let some reason ← watcher.add path then return ([first], some (utf8 "watch: " ++ reason))
  let later ← episodes storage watcher path rounds
  return (first :: later, none)

end Watcher

end LineMachine.Cli

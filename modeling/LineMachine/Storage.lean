import LineMachine.Files

namespace LineMachine

/-- What the command needs of a disk, which may be a value or a real one. Writing and making may
fail silently. -/
structure Storage (m : Type → Type) where
  /-- Opens a file and reads it. -/
  fetch : Text → m (Except FileError Delivery)
  write : Text → Text → m Unit
  /-- Makes a directory and those above it, and says whether it is there in the end. -/
  makeDirectories : Text → m Bool

/-- The error of an operation on a path. -/
def FileError.during (error : FileError) (operation : String) (path : Text) : Text :=
  utf8 operation ++ 32 :: path ++ utf8 ": " ++ error.text

/-- All of a file, if nothing went wrong on the way to its end. -/
def Delivery.whole (path : Text) : Except FileError Delivery → Except Text Text
  | .error error => .error (error.during "open" path)
  | .ok { failure := some error, .. } => .error (error.during "read" path)
  | .ok { bytes, failure := none } => .ok bytes

/-- Reads all of a file. -/
def Storage.read {m : Type → Type} [Monad m] (storage : Storage m) (path : Text) :
    m (Except Text Text) :=
  return Delivery.whole path (← storage.fetch path)

/-- Storage on a file system that is a value. -/
def Files.storage : Storage (StateM Files) where
  fetch path := return (← get).fetch path
  write path content := do
    match (← get).write path content with
    | .ok files => set files
    | .error _ => pure ()
  makeDirectories path := do
    let (files, made) := (← get).makeDirectories path
    set files
    return made

end LineMachine

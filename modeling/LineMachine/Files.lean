import LineMachine.Path

namespace LineMachine

inductive FileEntry where
  | file (content : Text)
  | directory
deriving DecidableEq, Repr

inductive FileError where
  | notFound
  | notDirectory
  | isDirectory
  | nameTooLong
  | invalidName
  | denied
  | other (reason : Text)
deriving DecidableEq, Repr

def FileError.text : FileError → Text
  | .notFound => utf8 "no such file or directory"
  | .notDirectory => utf8 "not a directory"
  | .isDirectory => utf8 "is a directory"
  | .nameTooLong => utf8 "file name too long"
  | .invalidName => utf8 "invalid argument"
  | .denied => utf8 "permission denied"
  | .other reason => reason

/-- The names that lead from the root to an entry. -/
abbrev Location := List Text

/-- Regular files and directories, with a working directory in which relative paths begin. -/
structure Files where
  entries : List (Location × FileEntry)
  workingDirectory : Location := []
deriving DecidableEq, Repr

/-- What an opened file delivers: some bytes, and then its end or an error. -/
structure Delivery where
  bytes : Text
  failure : Option FileError := none
deriving DecidableEq, Repr

namespace Files

/-- A working directory without anything in it. -/
def empty (workingDirectory : Location) : Files := { entries := [], workingDirectory }

/-- The working directory is always there, and so are the directories above it. -/
def lookup? (files : Files) (location : Location) : Option FileEntry :=
  if location.isPrefixOf files.workingDirectory then some .directory
  else files.entries.lookup location

def put (files : Files) (location : Location) (entry : FileEntry) : Files :=
  { files with entries := files.entries.filter (·.1 != location) ++ [(location, entry)] }

/-- A name has at most so many bytes. -/
def nameLimit : Nat := 255

/-- A path has fewer bytes than this. -/
def pathLimit : Nat := 4096

/-- Follows names through directories. The last name need not exist, and the root is above
itself. -/
def walk (files : Files) (here : Location) : List Text → Except FileError Location
  | [] => .ok here
  | name :: rest =>
    match files.lookup? here with
    | none => .error .notFound
    | some (.file _) => .error .notDirectory
    | some .directory =>
      if name.isEmpty || name == utf8 "." then walk files here rest
      else if name == utf8 ".." then walk files here.dropLast rest
      else if nameLimit < name.length then .error .nameTooLong
      else walk files (here ++ [name]) rest

/-- Where a path begins: at the root, or else in the working directory. -/
def beginning (files : Files) (path : Text) : Location :=
  if Path.isRooted path then [] else files.workingDirectory

/-- Where a path leads to. -/
def locate (files : Files) (path : Text) : Except FileError Location :=
  if path.contains 0 then .error .invalidName
  else if path.isEmpty then .error .notFound
  else if pathLimit ≤ path.length then .error .nameTooLong
  else walk files (files.beginning path) (Path.names path)

/-- What is read of a path. A directory can be opened, but there is nothing to be read. -/
def fetch (files : Files) (path : Text) : Except FileError Delivery :=
  match files.locate path with
  | .error error => .error error
  | .ok location =>
    match files.lookup? location with
    | some (.file content) => .ok { bytes := content }
    | some .directory => .ok { bytes := [], failure := some .isDirectory }
    | none => .error .notFound

/-- The last name of a path for a new file must be a name of its own. -/
def endsInName (path : Text) : Bool :=
  match (Path.names path).getLast? with
  | some name => !(name.isEmpty || name == utf8 "." || name == utf8 "..")
  | none => false

/-- Writes a regular file into a directory that exists. -/
def write (files : Files) (path content : Text) : Except FileError Files :=
  match files.locate path with
  | .error error => .error error
  | .ok location =>
    if !endsInName path || files.lookup? location == some .directory then .error .isDirectory
    else .ok (files.put location (.file content))

/-- Makes the directories named one after the other, as far as that is possible, and says whether
all of them are there in the end. -/
def makeEach (files : Files) (here : Location) : List Text → Files × Bool
  | [] => (files, true)
  | name :: rest =>
    if name.isEmpty || name == utf8 "." then makeEach files here rest
    else if name == utf8 ".." then makeEach files here.dropLast rest
    else
      let next := here ++ [name]
      match files.lookup? next with
      | some .directory => makeEach files next rest
      | some (.file _) => (files, false)
      | none =>
        if nameLimit < name.length then (files, false)
        else makeEach (files.put next .directory) next rest

/-- Makes a directory and those above it. -/
def makeDirectories (files : Files) (path : Text) : Files × Bool :=
  if path.contains 0 || path.isEmpty || pathLimit ≤ path.length then (files, false)
  else files.makeEach (files.beginning path) (Path.names path)

/-- The regular files below the working directory that an earlier file system does not hold with the
same content, by their paths from there. -/
def changes (earlier later : Files) : List (Text × Text) :=
  later.entries.filterMap fun (location, entry) =>
    match entry with
    | .directory => none
    | .file content =>
      let below := later.workingDirectory.isPrefixOf location
      if !below || earlier.lookup? location == some entry then none
      else some (Text.joinWith [47] (location.drop later.workingDirectory.length), content)

/-- The directory for the files of a user, if there is a home directory. -/
def userDirectory : Option Text → Option Text
  | none => none
  | some home => if home.isEmpty then none else some (Path.join [home, utf8 ".ppl"])

/-- The history file of a user, whose directory is made; it is empty where that fails. -/
def historyFile (files : Files) (home : Option Text) : Files × Text :=
  match userDirectory home with
  | none => (files, [])
  | some directory =>
    match files.makeDirectories directory with
    | (after, true) => (after, Path.join [directory, utf8 "history"])
    | (after, false) => (after, [])

end Files
end LineMachine

import LineMachine.Cli.Configuration
import LineMachine.Cli.Options
import LineMachine.Cli.Watch
import LineMachine.Interactive

namespace LineMachine.Cli

/-- What the command is called with. -/
structure Invocation where
  arguments : List Text
  home : Option Text
  /-- Whether the error stream shows colours. -/
  supportsColor : Bool := false
  /-- Whether the console of the process shows colours, which need not be the error stream. -/
  consoleColor : Bool := false

/-- What the command finds around it. -/
structure Environment (m : Type → Type) where
  storage : Storage m
  watcher : Watcher m
  input : m Text
  decode : Configuration.Decoder

/-- What the command leaves behind. -/
structure Result where
  exit : Nat := 0
  output : Text := []
  errors : Text := []
  console : Text := []
deriving DecidableEq, Repr

namespace Command

/-- A message, which is emphasised where messages are coloured. -/
def message (colored : Bool) (text : Text) : Text :=
  if colored then Log.Logger.emphasis ++ text ++ Log.Logger.plain else text

/-- The named categories in a list; blanks around a name and its case do not count. -/
def categories (names : List Text) : List Log.Category :=
  (names.map fun name => name.trim.lower).filter Log.Category.all.contains

/-- The configuration with the options that were given put in. -/
def override (options : Options) (configuration : Configuration) : Configuration :=
  { configuration with
    debug := options.debug.getD configuration.debug
    trace := options.trace.getD configuration.trace
    color := options.color.getD configuration.color }

/-- Messages are coloured always, never, or else where the error stream shows colours. -/
def isColored (supportsColor : Bool) (configuration : Configuration) : Bool :=
  if configuration.color == utf8 "always" then true
  else if configuration.color == utf8 "never" then false
  else supportsColor

/-- The command computes with words of sixty-four bits. -/
def interpreter (colored : Bool) (configuration : Configuration) (filename : Text) :
    Interpreter Int64 :=
  let interpreter : Interpreter Int64 := Interpreter.new
    { debug := configuration.debug
      trace := configuration.trace
      categories := categories configuration.logCategories
      filename }
  { interpreter with logger := { interpreter.logger with colored } }

/-- What an interpreter wrote. -/
def written (exit : Nat) (interpreter : Interpreter Int64) : Result :=
  { exit, output := interpreter.output.toList.flatten, errors := interpreter.log.toList.flatten }

/-- The result of a failure, which is told after everything else. -/
def failed (result : Result) (colored : Bool) (text : Text) : Result :=
  { result with exit := 1, errors := result.errors ++ message colored text }

/-- An interactive session on piped input. -/
def runInteractive (patience : Nat) (colored : Bool) (configuration : Configuration)
    (input : Text) : Result :=
  let start := interpreter colored configuration (utf8 "<stdin>")
  let (after, _, tooLong) := Interactive.runPiped patience start input
  if tooLong then
    failed (written 0 after) colored
      (utf8 "Error reading input: bufio.Scanner: token too long\n")
  else written 0 after

/-- Runs the program of a file. A fault of the program is part of its output and not a failure of the
command. -/
def runContent (patience : Nat) (colored : Bool) (configuration : Configuration)
    (path content : Text) : Result :=
  written 0 ((interpreter colored configuration path).executeFile patience content path).1

/-- Runs the program of a file that can be read. -/
def runFile (patience : Nat) (colored : Bool) (configuration : Configuration) (path : Text) :
    Except Text Text → Result
  | .ok content => runContent patience colored configuration path content
  | .error _ => failed {} colored (utf8 "Error: file not found: " ++ path ++ utf8 "\n")

/-- The interpreter of a watched file, what was told on the console, and whether the file has been
run before. -/
structure Watching where
  interpreter : Interpreter Int64
  console : Text := []
  begun : Bool := false

namespace Watching

/-- An error between two runs is told on the console. -/
def tell (watching : Watching) (consoleColor : Bool) (text : Text) : Watching :=
  { watching with console := watching.console ++ message consoleColor text }

/-- Every run but the first is announced. -/
def announce (watching : Watching) (path : Text) : Interpreter Int64 :=
  let interpreter := watching.interpreter
  if watching.begun then
    { interpreter with
      output := interpreter.output.push
        (utf8 "\n=== " ++ path ++ utf8 " changed, re-running ===\n") }
  else interpreter

def see (patience : Nat) (consoleColor : Bool) (path : Text) (watching : Watching) :
    Episode → Watching
  | .read content =>
    { watching with
      interpreter := ((watching.announce path).executeFile patience content path).1
      begun := true }
  | .unread reason =>
    watching.tell consoleColor (utf8 "Error reading " ++ path ++ utf8 ": " ++ reason ++ utf8 "\n")
  | .failed reason => watching.tell consoleColor (utf8 "Watch error: " ++ reason ++ utf8 "\n")

end Watching

/-- Runs a file that is watched. -/
def runWatched (patience : Nat) (consoleColor colored : Bool) (configuration : Configuration)
    (path : Text) (episodes : List Episode) (failure : Option Text) : Result :=
  let watching := episodes.foldl (Watching.see patience consoleColor path)
    { interpreter := interpreter colored configuration path }
  let result := { written 0 watching.interpreter with console := watching.console }
  match failure with
  | none => result
  | some reason => failed result colored (utf8 "Error: " ++ reason ++ utf8 "\n")

/-- What the command has to do. -/
inductive Task where
  | session (input : Text)
  | file (path : Text) (content : Except Text Text)
  | watch (path : Text) (episodes : List Episode) (failure : Option Text)
  | usage

def perform (patience : Nat) (consoleColor colored : Bool) (configuration : Configuration) :
    Task → Result
  | .session input => runInteractive patience colored configuration input
  | .file path content => runFile patience colored configuration path content
  | .watch path episodes failure =>
    runWatched patience consoleColor colored configuration path episodes failure
  | .usage => { exit := 2, errors := usage }

/-- The warning about a configuration that is not used. -/
def warning (supportsColor : Bool) : Option ConfigurationError → Text
  | none => []
  | some error =>
    message supportsColor (utf8 "Warning: " ++ error.text ++ utf8 " (using defaults)\n")

/-- The configuration to go on with after loading one: the defaults, if there was an error. -/
def usable (loaded : Configuration × Option ConfigurationError) : Configuration :=
  if loaded.2.isSome then {} else loaded.1

variable {m : Type → Type} [Monad m]

/-- What the options ask for. The input is read only if it is needed, and a file is watched for so
many events at most. -/
def task (rounds : Nat) (environment : Environment m) (options : Options) : m Task := do
  if options.interactive then return .session (← environment.input)
  match options.arguments with
  | [path] =>
    if options.watch then
      let (episodes, failure) ← environment.watcher.watch environment.storage path rounds
      return .watch path episodes failure
    else return .file path (← environment.storage.read path)
  | _ => return .usage

/-- Runs the command. -/
def run (patience : Nat) (environment : Environment m) (invocation : Invocation) : m Result := do
  match Options.parse invocation.arguments with
  | .error error => return { exit := 2, errors := error.text ++ usage }
  | .ok options =>
    if options.license then return { output := license }
    let path := options.config.getD (Configuration.defaultPath invocation.home)
    let loaded ← Configuration.load environment.decode environment.storage path
    let warned := warning invocation.supportsColor loaded.2
    match (override options (usable loaded)).validate with
    | (_, some error) =>
      let refusal := message invocation.supportsColor (utf8 "Error: " ++ error.text ++ utf8 "\n")
      return { exit := 2, errors := warned ++ refusal }
    | (configuration, none) =>
      let colored := isColored invocation.supportsColor configuration
      let result := perform patience invocation.consoleColor colored configuration
        (← task patience environment options)
      return { result with errors := warned ++ result.errors }

end Command
end LineMachine.Cli

import LineMachine.Cli.Texts
import LineMachine.Storage
import LineMachine.Text.Blank
import LineMachine.Text.Case
import LineMachine.Text.Quoted

namespace LineMachine.Cli

structure Configuration where
  debug : Bool := false
  trace : Bool := false
  logCategories : List Text := []
  /-- Whether messages are coloured: always, never, or as the destination allows. -/
  color : Text := utf8 "auto"
  historyFile : Text := []
deriving DecidableEq, Repr, Inhabited

/-- Why a configuration could not be used. -/
inductive ConfigurationError where
  | unreadable (path : Text) (error : FileError)
  | unparsed (path reason : Text)
  | badColor (color : Text)
deriving DecidableEq, Repr

def ConfigurationError.text : ConfigurationError → Text
  | .unreadable path error => utf8 "config: " ++ error.during "open" path
  | .unparsed path reason => utf8 "config: parse " ++ path ++ utf8 ": " ++ reason
  | .badColor color =>
    utf8 "config: color must be auto, always or never, got " ++ Text.quote color

namespace Configuration

/-- The colour in small letters without blanks around it; none stands for the default. -/
def normalizeColor (color : Text) : Text :=
  let color := color.trim.lower
  if color.isEmpty then utf8 "auto" else color

/-- Normalizes the colour and checks it. -/
def validate (configuration : Configuration) : Configuration × Option ConfigurationError :=
  let color := normalizeColor configuration.color
  let accepted := [utf8 "auto", utf8 "always", utf8 "never"].contains color
  ({ configuration with color }, if accepted then none else some (.badColor color))

/-- The configuration file of a user, if there is a home directory. -/
def defaultPath (home : Option Text) : Text :=
  match Files.userDirectory home with
  | some directory => Path.join [directory, utf8 "config.yaml"]
  | none => []

/-- A reader of configurations fills one in from the bytes of a file. They may be followed by an
error of reading, and what they say may be refused with a reason. -/
abbrev Decoder := Configuration → Text → Option Text → Except Text Configuration

/-- What a configuration file says. An error leaves the defaults, but a bad colour is kept. -/
def ofDelivery (decode : Decoder) (path : Text) (delivery : Delivery) :
    Configuration × Option ConfigurationError :=
  match decode {} delivery.bytes (delivery.failure.map (·.during "read" path)) with
  | .ok configuration => configuration.validate
  | .error reason => ({}, some (.unparsed path reason))

/-- Loads a configuration file and makes it if there is none. No path stands for the defaults. -/
def load {m : Type → Type} [Monad m] (decode : Decoder) (storage : Storage m) (path : Text) :
    m (Configuration × Option ConfigurationError) := do
  if path.isEmpty then return ({}, none)
  match ← storage.fetch path with
  | .ok delivery => return ofDelivery decode path delivery
  | .error .notFound =>
    if ← storage.makeDirectories (Path.parent path) then
      storage.write path initialConfiguration
    return ({}, none)
  | .error error => return ({}, some (.unreadable path error))

end Configuration
end LineMachine.Cli

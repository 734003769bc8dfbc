import LineMachine.Text.Quoted

namespace LineMachine.Cli

structure Options where
  license : Bool := false
  interactive : Bool := false
  watch : Bool := false
  /-- These are known only if they were given. -/
  debug : Option Bool := none
  trace : Option Bool := none
  config : Option Text := none
  color : Option Text := none
  arguments : List Text := []
deriving DecidableEq, Repr

inductive OptionError where
  | help
  | badForm (argument : Text)
  | unknown (name : Text)
  | badTruth (value name : Text)
  | noValue (name : Text)
deriving DecidableEq, Repr

/-- The message of an error; asking for help needs none. -/
def OptionError.text : OptionError → Text
  | .help => []
  | .badForm argument => utf8 "bad flag syntax: " ++ argument ++ utf8 "\n"
  | .unknown name => utf8 "flag provided but not defined: -" ++ name ++ utf8 "\n"
  | .badTruth value name =>
    utf8 "invalid boolean value " ++ Text.quote value ++ utf8 " for -" ++ name ++
      utf8 ": parse error\n"
  | .noValue name => utf8 "flag needs an argument: -" ++ name ++ utf8 "\n"

/-- What an option sets. -/
inductive Setting where
  | switch (set : Options → Bool → Options)
  | text (set : Options → Text → Options)

namespace Setting

/-- The options there are. -/
def all : List (Text × Setting) := [
  (utf8 "license", .switch fun options on => { options with license := on }),
  (utf8 "debug", .switch fun options on => { options with debug := some on }),
  (utf8 "d", .switch fun options on => { options with debug := some on }),
  (utf8 "trace", .switch fun options on => { options with trace := some on }),
  (utf8 "i", .switch fun options on => { options with interactive := on }),
  (utf8 "watch", .switch fun options on => { options with watch := on }),
  (utf8 "config", .text fun options path => { options with config := some path }),
  (utf8 "color", .text fun options mode => { options with color := some mode })]

end Setting

namespace Options

/-- The spellings of truth values. -/
def truth? (value : Text) : Option Bool :=
  if ["1", "t", "T", "true", "TRUE", "True"].any (utf8 · == value) then some true
  else if ["0", "f", "F", "false", "FALSE", "False"].any (utf8 · == value) then some false
  else none

/-- What an argument is. -/
inductive Argument where
  | operand
  | divider
  | malformed
  | option (name : Text) (value : Option Text)
deriving DecidableEq, Repr

/-- A name and the value behind an equals sign, which cannot come first. -/
def Argument.ofName : Text → Argument
  | [] => .malformed
  | first :: rest =>
    if first = 45 || first = 61 then .malformed
    else
      let name := first :: rest.takeWhile (· != 61)
      match rest.dropWhile (· != 61) with
      | [] => .option name none
      | _ :: value => .option name (some value)

def Argument.of : Text → Argument
  | [45, 45] => .divider
  | 45 :: 45 :: name => .ofName name
  | 45 :: first :: rest => .ofName (first :: rest)
  | _ => .operand

/-- Why a name is not known: some names ask for help. -/
def unknownName (name : Text) : OptionError :=
  if name == utf8 "help" || name == utf8 "h" then .help else .unknown name

/-- Reads arguments into options. -/
def read (options : Options) : List Text → Except OptionError Options
  | [] => .ok options
  | argument :: rest =>
    match Argument.of argument with
    | .operand => .ok { options with arguments := argument :: rest }
    | .divider => .ok { options with arguments := rest }
    | .malformed => .error (.badForm argument)
    | .option name value =>
      match Setting.all.lookup name, value with
      | none, _ => .error (unknownName name)
      | some (.switch set), none => read (set options true) rest
      | some (.switch set), some value =>
        match truth? value with
        | some on => read (set options on) rest
        | none => .error (.badTruth value name)
      | some (.text set), some value => read (set options value) rest
      | some (.text set), none =>
        match rest with
        | [] => .error (.noValue name)
        | value :: rest => read (set options value) rest

/-- The options among some arguments. -/
def parse (arguments : List Text) : Except OptionError Options := read {} arguments

end Options
end LineMachine.Cli

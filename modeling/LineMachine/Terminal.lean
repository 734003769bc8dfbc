import LineMachine.Text.Case

namespace LineMachine

/-- The variables of the environment that describe a terminal. -/
structure TerminalEnvironment where
  term : Option Text
  noColor : Option Text
deriving DecidableEq, Repr

structure Terminal where
  name : Text
  interactive : Bool
  redirected : Bool
  color : Bool
  width : Nat
  height : Nat
deriving DecidableEq, Repr

namespace Terminal

/-- Colour is allowed unless the environment forbids it or the terminal is a dumb one. -/
def colorAllowed (environment : TerminalEnvironment) (name : Text) : Bool :=
  environment.noColor.isNone && name.lower != utf8 "dumb"

/-- What is known of a destination that is a terminal of some size or not a terminal. A size that is
not known is the customary one. -/
def detect (environment : TerminalEnvironment) (interactive : Bool) (size : Option (Nat × Nat)) :
    Terminal :=
  let given := environment.term.getD []
  let name := if given.isEmpty then utf8 "unknown" else given
  let (width, height) := (size.filter fun size => 0 < size.1 && 0 < size.2).getD (80, 24)
  { name
    interactive
    redirected := !interactive
    color := interactive && colorAllowed environment name
    width := if interactive then width else 80
    height := if interactive then height else 24 }

end Terminal
end LineMachine

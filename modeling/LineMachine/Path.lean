import LineMachine.Text.Basic

namespace LineMachine.Path

/-- The names between the slashes; some may be empty. -/
def names (path : Text) : List Text := path.pieces 47

def isRooted (path : Text) : Bool := path.head? == some 47

/-- One more name on a cleaned path, whose names are listed last first. -/
def push (rooted : Bool) (stack : List Text) (name : Text) : List Text :=
  if name.isEmpty || name == utf8 "." then stack
  else if name == utf8 ".." then
    match stack with
    | top :: rest => if top == utf8 ".." then name :: stack else rest
    | [] => if rooted then [] else [name]
  else name :: stack

/-- The shortest text for the same path. -/
def clean (path : Text) : Text :=
  let rooted := isRooted path
  let kept := ((names path).foldl (push rooted) []).reverse
  let body := Text.joinWith [47] kept
  if rooted then 47 :: body else if body.isEmpty then utf8 "." else body

/-- The cleaned path through several parts; empty parts do not count. -/
def join (parts : List Text) : Text :=
  let kept := parts.filter (!·.isEmpty)
  if kept.isEmpty then [] else clean (Text.joinWith [47] kept)

/-- The cleaned path of the directory that holds the last name. -/
def parent (path : Text) : Text :=
  clean (Text.joinWith [47] ((names path).dropLast ++ [[]]))

end LineMachine.Path

import LineMachine.Text.Base64
import LineMachine.Text.Quoted
import LineMachine.Yaml.Node.Reader

namespace LineMachine.Yaml

/-- What a scalar means: nothing, a truth value, a text, or something of another kind. -/
inductive Meaning where
  | null
  | truth (value : Bool)
  | text (value : Text)
  | other
deriving DecidableEq, Repr

namespace Meaning

/-- The tags that a text has to agree with. -/
def checkedTags : List Text :=
  [Node.boolTag, Node.intTag, Node.floatTag, Node.nullTag, Node.timestampTag]

/-- An integer will do for a floating point number, unless it needs all sixty-four bits. -/
def agrees (found tag value : Text) : Bool :=
  found == tag ||
    (tag == Node.floatTag && found == Node.intTag &&
      (Implicit.integer? (Implicit.withoutUnderscores value)).all (· < (Text.wordLimit : Int)))

/-- What a scalar with a tag means. -/
def ofScalar (tag value : Text) : Except Problem Meaning :=
  if checkedTags.contains tag then
    let found := Implicit.tagOf (tag == Node.timestampTag) value
    if !agrees found tag value then
      .error (.meaning (utf8 "cannot decode " ++ found ++ utf8 " `" ++ value ++ utf8 "` as a " ++
        tag))
    else if tag == Node.nullTag then .ok .null
    else if tag == Node.boolTag then .ok (.truth (value.head? == some 116 || value.head? == some 84))
    else .ok .other
  else if tag == Node.binaryTag then
    match Text.Base64.decode value with
    | some bytes => .ok (.text bytes)
    | none => .error (.meaning (utf8 "!!binary value contains invalid base64 data"))
  else .ok (.text value)

end Meaning

namespace Node

def tag : Node → Text
  | .scalar tag _ _ _ | .sequence tag _ _ | .mapping tag _ _ | .enclosing _ tag _ => tag
  | .alias _ _ _ => []

/-- The text of a scalar. -/
def value : Node → Text
  | .scalar _ value _ _ => value
  | .alias name _ _ => name
  | _ => []

/-- Two keys are the same if they are of the same sort and have the same text. -/
def sameKey : Node → Node → Bool
  | .scalar _ first _ _, .scalar _ second _ _ => first == second
  | .alias first _ _, .alias second _ _ => first == second
  | .sequence _ _ _, .sequence _ _ _ => true
  | .mapping _ _ _, .mapping _ _ _ => true
  | _, _ => false

/-- A plain key that asks for the entries of other mappings. -/
def isMerge : Node → Bool
  | .scalar tag value _ _ => tag == mergeTag && value == utf8 "<<"
  | _ => false

end Node

/-- What has been decoded so far: the mismatches that were noted, the number of nodes that were
visited, how many of them through aliases, and in how many aliases the present node is. -/
structure Progress where
  mismatches : Array Text := #[]
  visited : Nat := 0
  aliased : Nat := 0
  depth : Nat := 0

/-- Whether too large a part of the nodes comes through aliases. In small documents these may be 99
of 100, and in large ones 10 of 100. -/
def Progress.isExcessive (progress : Progress) : Bool :=
  let allowed :=
    if progress.visited ≤ 400000 then 99 * 3600000
    else if 4000000 ≤ progress.visited then 10 * 3600000
    else 99 * 3600000 - 89 * (progress.visited - 400000)
  100 < progress.aliased && 1000 < progress.visited &&
    progress.visited * allowed < progress.aliased * (100 * 3600000)

/-- Decoding collects what does not fit, so that all mismatches of a document are told together. A
contradiction inside a node ends everything. -/
abbrev Decoding := StateT Progress (Except Problem)

namespace Decoding

def note (line : Nat) (message : Text) : Decoding Unit :=
  modify fun progress =>
    { progress with
      mismatches := progress.mismatches.push
        (utf8 "line " ++ Text.ofNat line ++ utf8 ": " ++ message) }

/-- Counts one more node. -/
def count : Decoding Unit := do
  modify fun progress =>
    { progress with
      visited := progress.visited + 1
      aliased := if progress.depth = 0 then progress.aliased else progress.aliased + 1 }
  if (← get).isExcessive then
    throw (.meaning (utf8 "document contains excessive aliasing"))

/-- Visits a node. An alias stands for its target. -/
def visit {α : Type} (node : Node) (decode : Node → Decoding α) : Decoding α := do
  count
  match node with
  | .alias _ target _ =>
    modify fun progress => { progress with depth := progress.depth + 1 }
    count
    let decoded ← decode target
    modify fun progress => { progress with depth := progress.depth - 1 }
    return decoded
  | node => decode node

/-- A long text is cut off. -/
def excerpt (text : Text) : Text :=
  if 10 < text.length then text.take 7 ++ utf8 "..." else text

/-- Notes that a node does not fit a type. -/
def mismatch (node : Node) (type : String) : Decoding Unit :=
  let shown :=
    if node.tag == Node.sequenceTag || node.tag == Node.mappingTag then node.value
    else utf8 " `" ++ excerpt node.value ++ utf8 "`"
  note node.line (utf8 "cannot unmarshal " ++ node.tag ++ shown ++ utf8 " into " ++ utf8 type)

def meaningOf (tag value : Text) : Decoding Meaning := monadLift (Meaning.ofScalar tag value)

/-- The repeated keys among some entries, each with the line of the earlier one. -/
def repeatedKeys : List (Node × Node) → List (Node × Nat)
  | [] => []
  | (key, _) :: rest =>
    (rest.filter (fun (later, _) => key.sameKey later)).map (fun (later, _) => (later, key.line)) ++
      repeatedKeys rest

/-- Notes the repeated keys and says whether there are none. -/
def noRepeats (entries : List (Node × Node)) : Decoding Bool := do
  let repeated := repeatedKeys entries
  for (key, line) in repeated do
    note key.line (utf8 "mapping key " ++ Text.quote key.value ++ utf8 " already defined at line " ++
      Text.ofNat line)
  return repeated.isEmpty

/-- Notes that a node which is no scalar does not fit; a mapping with repeated keys is told for
those only. -/
def mismatchCollection (node : Node) (type : String) : Decoding Unit := do
  match node with
  | .mapping _ entries _ => if ← noRepeats entries then mismatch node type
  | _ => mismatch node type

/-- The text of a node, if it has one. -/
def text? (node : Node) : Decoding (Option Text) :=
  visit node fun
    | .scalar tag value _ _ => do
      match ← meaningOf tag value with
      | .null => return none
      | .text text => return some text
      | _ => return some value
    | other => do
      mismatchCollection other "string"
      return none

/-- The words that stand for truth values where one is wanted. -/
def truthWord? (word : Text) : Option Bool :=
  if [utf8 "y", utf8 "Y", utf8 "yes", utf8 "on"].contains word then some true
  else if [utf8 "n", utf8 "N", utf8 "no", utf8 "off"].contains word then some false
  else none

/-- The truth value of a node, if it has one. -/
def truth? (node : Node) : Decoding (Option Bool) :=
  visit node fun node => do
    match node with
    | .scalar tag value _ _ =>
      match ← meaningOf tag value with
      | .null => return none
      | .truth value => return some value
      | meaning =>
        let word := match meaning with
          | .text word => truthWord? word
          | _ => none
        if word.isNone then mismatch node "bool"
        return word
    | _ =>
      mismatchCollection node "bool"
      return none

/-- The texts in a sequence, if there is one; items without a text are left out. -/
def texts? (node : Node) : Decoding (Option (List Text)) :=
  visit node fun node => do
    match node with
    | .scalar tag value _ _ =>
      match ← meaningOf tag value with
      | .null => return some []
      | _ =>
        mismatch node "[]string"
        return none
    | .sequence _ items _ => return some ((← items.mapM text?).filterMap id)
    | _ =>
      mismatchCollection node "[]string"
      return none

end Decoding
end LineMachine.Yaml

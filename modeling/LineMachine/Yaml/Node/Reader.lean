import LineMachine.Yaml.Implicit
import LineMachine.Yaml.Token.Stream

namespace LineMachine.Yaml

/-- What is known while nodes are read: the handles of tags, and the nodes that have a name. -/
structure Names where
  handles : List (Text × Text) := []
  anchors : Array (Text × Node) := #[]

/-- The handles that need no directive. -/
def Names.customary : List (Text × Text) := [(utf8 "!", utf8 "!"), (utf8 "!!", Node.tagSpace)]

abbrev Composing := StateT Names Reading

/-- A tag, a name, and the place where the node begins. -/
structure Properties where
  start : Mark
  anchor : Option Text := none
  tag : Text := []

namespace Composing

def peek : Composing Token := monadLift Reading.peek

def dropToken : Composing Unit := monadLift Reading.dropToken

def refuse {α : Type} (context problem : Mark) (message : String) : Composing α :=
  throw (.structure context problem (utf8 message))

/-- Gives a node a name and tells under which number it is kept. -/
def putAnchor (properties : Properties) (node : Node) : Composing Nat := do
  let names ← get
  match properties.anchor with
  | some name => set { names with anchors := names.anchors.push (name, node) }
  | none => pure ()
  return names.anchors.size

/-- Puts a finished node in the place of the one that stood for it while it was read. -/
def finishAnchor (properties : Properties) (number : Nat) (node : Node) : Composing Node := do
  match properties.anchor with
  | some name =>
    modify fun names => { names with anchors := names.anchors.setIfInBounds number (name, node) }
  | none => pure ()
  return node

def aliasNode (name : Text) (start : Mark) : Composing Node := do
  match (← get).anchors.toList.reverse.find? (·.1 == name) with
  | some (_, target) => return .alias name target (start.line + 1)
  | none => throw (.meaning (utf8 "unknown anchor '" ++ name ++ utf8 "' referenced"))

/-- The tag that a handle and a suffix stand for. -/
def expandTag (start place : Mark) (handle suffix : Text) : Composing Text := do
  if handle.isEmpty then return suffix
  match (← get).handles.find? (·.1 == handle) with
  | some (_, expansion) =>
    if (expansion ++ suffix).isEmpty then refuse start place "found undefined tag handle"
    return expansion ++ suffix
  | none => refuse start place "found undefined tag handle"

def anchorToken : Composing (Option Text) := do
  match (← peek).kind with
  | .anchor name =>
    dropToken
    return some name
  | _ => return none

def tagToken : Composing (Option (Mark × Text × Text)) := do
  let token ← peek
  match token.kind with
  | .tag handle suffix =>
    dropToken
    return some (token.start, handle, suffix)
  | _ => return none

/-- The name and the tag in front of a node, in either order. -/
def properties : Composing Properties := do
  let start := (← peek).start
  let first ← anchorToken
  let tag ← tagToken
  let anchor ← if first.isNone && tag.isSome then anchorToken else pure first
  match tag with
  | some (place, handle, suffix) =>
    return { start, anchor, tag := ← expandTag start place handle suffix }
  | none => return { start, anchor }

/-- A single exclamation mark is no tag of its own. -/
def ownTag? (tag : Text) : Option Text :=
  if tag.isEmpty || tag == utf8 "!" then none else some (Node.shortTag tag)

def scalarTag (style : ScalarStyle) (content : Text) : Text :=
  if style != .plain then Node.stringTag
  else if content == utf8 "<<" then Node.mergeTag
  else Implicit.tagOf true content

def scalarNode (tag content : Text) (style : ScalarStyle) (start : Mark) : Node :=
  .scalar ((ownTag? tag).getD (scalarTag style content)) content style (start.line + 1)

def emptyNode (place : Mark) : Node := scalarNode [] [] .plain place

/-- A scalar together with its properties. -/
def namedScalar (properties : Properties) (content : Text) (style : ScalarStyle) :
    Composing Node := do
  let node := scalarNode properties.tag content style properties.start
  finishAnchor properties (← putAnchor properties node) node

/-- A sequence or a mapping; while it is read, its name stands for the open node. -/
def collection {α : Type} (properties : Properties) (isMapping : Bool) (content : Composing α)
    (build : Text → α → Nat → Node) : Composing Node := do
  let customary := if isMapping then Node.mappingTag else Node.sequenceTag
  let tag := (ownTag? properties.tag).getD customary
  let line := properties.start.line + 1
  let number ← putAnchor properties (.enclosing isMapping tag line)
  let content ← content
  finishAnchor properties number (build tag content line)

/-- A node, unless one of some tokens comes next. -/
def nodeUnless (stops : List TokenKind) (node : Composing Node) (place : Token → Mark) :
    Composing Node := do
  let token ← peek
  if stops.contains token.kind then return emptyNode (place token) else node

/-- What may follow a value indicator, or its absence. -/
def entryValue (stops : List TokenKind) (node : Composing Node)
    (place : (indicator next : Token) → Mark) : Composing Node := do
  let token ← peek
  if token.kind = .value then
    dropToken
    nodeUnless stops node (place token)
  else return emptyNode token.start

def blockItems (context : Mark) (node : Composing Node) : Nat → Composing (List Node)
  | 0 => return []
  | fuel + 1 => do
    let token ← peek
    match token.kind with
    | .blockEntry =>
      dropToken
      let item ← nodeUnless [.blockEntry, .blockEnd] node fun _ => token.stop
      return item :: (← blockItems context node fuel)
    | .blockEnd =>
      dropToken
      return []
    | _ => refuse context token.start "did not find expected '-' indicator"

/-- The items of a sequence that is not indented more than the mapping around it. -/
def alignedItems (node : Composing Node) : Nat → Composing (List Node)
  | 0 => return []
  | fuel + 1 => do
    let token ← peek
    match token.kind with
    | .blockEntry =>
      dropToken
      let item ← nodeUnless [.blockEntry, .key, .value, .blockEnd] node fun _ => token.stop
      return item :: (← alignedItems node fuel)
    | _ => return []

def blockEntries (context : Mark) (node : Composing Node) : Nat → Composing (List (Node × Node))
  | 0 => return []
  | fuel + 1 => do
    let token ← peek
    let stops : List TokenKind := [.key, .value, .blockEnd]
    match token.kind with
    | .key =>
      dropToken
      let key ← nodeUnless stops node fun _ => token.stop
      let value ← entryValue stops node fun indicator _ => indicator.stop
      return (key, value) :: (← blockEntries context node fuel)
    | .blockEnd =>
      dropToken
      return []
    | _ => refuse context token.start "did not find expected key"

/-- Passes the comma between two items of a flow. -/
def separator (isFirst : Bool) (stop : TokenKind) (context : Mark) (message : String) :
    Composing Unit := do
  let token ← peek
  if !isFirst && token.kind ≠ stop then
    if token.kind = .flowEntry then dropToken else refuse context token.start message

/-- A mapping of a single entry inside a flow sequence. -/
def pair (start : Mark) (node : Composing Node) : Composing Node := do
  let token ← peek
  let key ←
    if token.kind = .value || token.kind = .flowEntry || token.kind = .flowSequenceEnd then do
      dropToken
      pure (emptyNode token.stop)
    else node
  let value ← entryValue [.flowEntry, .flowSequenceEnd] node fun _ next => next.start
  return .mapping Node.mappingTag [(key, value)] (start.line + 1)

def flowItems (context : Mark) (node : Composing Node) : Nat → Bool → Composing (List Node)
  | 0, _ => return []
  | fuel + 1, isFirst => do
    separator isFirst .flowSequenceEnd context "did not find expected ',' or ']'"
    let token ← peek
    match token.kind with
    | .flowSequenceEnd =>
      dropToken
      return []
    | .key =>
      dropToken
      let item ← pair token.start node
      return item :: (← flowItems context node fuel false)
    | _ =>
      let item ← node
      return item :: (← flowItems context node fuel false)

def flowEntries (context : Mark) (node : Composing Node) :
    Nat → Bool → Composing (List (Node × Node))
  | 0, _ => return []
  | fuel + 1, isFirst => do
    separator isFirst .flowMappingEnd context "did not find expected ',' or '\x7d'"
    let token ← peek
    match token.kind with
    | .flowMappingEnd =>
      dropToken
      return []
    | .key =>
      dropToken
      let key ← nodeUnless [.value, .flowEntry, .flowMappingEnd] node Token.start
      let value ← entryValue [.flowEntry, .flowMappingEnd] node fun _ next => next.start
      return (key, value) :: (← flowEntries context node fuel false)
    | _ =>
      let key ← node
      let value := emptyNode (← peek).start
      return (key, value) :: (← flowEntries context node fuel false)

/-- A node. Inside a block it may be a block itself; the value of a block's entry may also be a
sequence that is not indented. -/
def node : Nat → (block aligned : Bool) → Composing Node
  | 0, _, _ => return emptyNode {}
  | fuel + 1, block, aligned => do
    let first ← peek
    if let .alias name := first.kind then
      dropToken
      return ← aliasNode name first.start
    let properties ← properties
    let token ← peek
    let sequence := fun items => collection properties false items Node.sequence
    let mapping := fun entries => collection properties true entries Node.mapping
    match token.kind with
    | .scalar content style =>
      dropToken
      namedScalar properties content style
    | .flowSequenceStart =>
      sequence do dropToken; flowItems token.start (node fuel false false) fuel true
    | .flowMappingStart =>
      mapping do dropToken; flowEntries token.start (node fuel false false) fuel true
    | kind =>
      if kind = .blockEntry && aligned then sequence (alignedItems (node fuel true false) fuel)
      else if kind = .blockSequenceStart && block then
        sequence do dropToken; blockItems token.start (node fuel true false) fuel
      else if kind = .blockMappingStart && block then
        mapping do dropToken; blockEntries token.start (node fuel true true) fuel
      else if properties.anchor.isSome || !properties.tag.isEmpty then
        namedScalar properties [] .plain
      else refuse properties.start token.start "did not find expected node content"

/-- The directives in front of a document. -/
def directives : Nat → (versioned : Bool) → Composing Unit
  | 0, _ => pure ()
  | fuel + 1, versioned => do
    let token ← peek
    match token.kind with
    | .versionDirective major minor =>
      if versioned then refuse {} token.start "found duplicate %YAML directive"
      if major ≠ 1 || minor ≠ 1 then refuse {} token.start "found incompatible YAML document"
      dropToken
      directives fuel true
    | .tagDirective handle expansion =>
      let names ← get
      if names.handles.any (·.1 == handle) then
        refuse {} token.start "found duplicate %TAG directive"
      set { names with handles := names.handles ++ [(handle, expansion)] }
      dropToken
      directives fuel versioned
    | _ => modify fun names => { names with handles := names.handles ++ Names.customary }

/-- The first document, if there is one. -/
def document (fuel : Nat) : Composing (Option Node) := do
  let _ ← peek
  dropToken
  let token ← peek
  let root ←
    match token.kind with
    | .streamEnd => pure none
    | .versionDirective _ _ | .tagDirective _ _ | .documentStart => do
      directives fuel false
      let start ← peek
      if start.kind ≠ .documentStart then
        refuse {} start.start "did not find expected <document start>"
      dropToken
      let next ← peek
      match next.kind with
      | .versionDirective _ _ | .tagDirective _ _ | .documentStart | .documentEnd | .streamEnd =>
        pure (some (emptyNode next.start))
      | _ => some <$> node fuel true false
    | _ => do
      directives fuel false
      some <$> node fuel true false
  if root.isSome then
    let _ ← peek
  return root

end Composing

/-- The root of the first document in some bytes. -/
def Node.ofBytes? (bytes : Text) : Except Problem (Option Node) := do
  let ((root, _), _) ←
    ((Composing.document (4 * bytes.length + 16)).run {}).run { source := .ofBytes bytes }
  return root

end LineMachine.Yaml

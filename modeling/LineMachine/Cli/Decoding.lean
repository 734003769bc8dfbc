import LineMachine.Cli.Configuration
import LineMachine.Yaml.Decoding

namespace LineMachine.Cli.Configuration

open Yaml (Node Problem Decoding)

/-- What a configuration is called in messages. -/
def typeName : String := "main.CLIConfig"

/-- A configuration that is being filled in. While mappings are merged, the names that are taken
stand beside it. -/
structure Filling where
  configuration : Configuration
  taken : Option (List Text) := none

/-- Sets one field; nothing changes if the value does not fit. There may be no such field. -/
def setField? (name : Text) (value : Node) (configuration : Configuration) :
    Option (Decoding Configuration) :=
  if name == utf8 "debug" then
    some do
      return { configuration with debug := (← Decoding.truth? value).getD configuration.debug }
  else if name == utf8 "trace" then
    some do
      return { configuration with trace := (← Decoding.truth? value).getD configuration.trace }
  else if name == utf8 "log_categories" then
    some do
      let categories := (← Decoding.texts? value).getD configuration.logCategories
      return { configuration with logCategories := categories }
  else if name == utf8 "color" then
    some do
      return { configuration with color := (← Decoding.text? value).getD configuration.color }
  else if name == utf8 "history_file" then
    some do
      let file := (← Decoding.text? value).getD configuration.historyFile
      return { configuration with historyFile := file }
  else none

/-- Fills in the entries of a mapping, given the fields that it has already set. A name that is
taken is passed over. -/
def fillEntries (done : List Text) : List (Node × Node) → Filling → Decoding Filling
  | [], filling => return filling
  | (key, value) :: rest, filling => do
    if key.isMerge then return ← fillEntries done rest filling
    let some name ← Decoding.text? key | fillEntries done rest filling
    if filling.taken.any (·.contains name) then return ← fillEntries done rest filling
    let filling := { filling with taken := filling.taken.map (name :: ·) }
    match setField? name value filling.configuration with
    | none =>
      Decoding.note key.line (utf8 "field " ++ name ++ utf8 " not found in type " ++ utf8 typeName)
      fillEntries done rest filling
    | some set =>
      if done.contains name then
        Decoding.note key.line
          (utf8 "field " ++ name ++ utf8 " already set in type " ++ utf8 typeName)
        fillEntries done rest filling
      else
        fillEntries (name :: done) rest { filling with configuration := ← set }

/-- The names of a mapping's own entries. -/
def ownNames (entries : List (Node × Node)) : Decoding (List Text) := do
  let names ← entries.mapM fun (key, _) =>
    Decoding.visit key fun
      | .scalar tag value _ _ => do
        match ← Decoding.meaningOf tag value with
        | .text name => return some name
        | _ => return none
      | _ => return none
  return names.filterMap id

/-- Only mappings can be merged. -/
def unmergeable : Problem :=
  .meaning (utf8 "map merge requires map or sequence of maps as the value")

/-- Checks that a node stands for a mapping, where one is wanted for merging. -/
def checkMergeable : Node → Except Problem Unit
  | .mapping _ _ _ | .alias _ (.mapping _ _ _) _ => .ok ()
  | .alias name (.enclosing true _ _) _ =>
    .error (.meaning (utf8 "anchor '" ++ name ++ utf8 "' value contains itself"))
  | _ => .error unmergeable

/-- Fills in a configuration from a node. The entries of merged mappings come last and only where
no name is taken. -/
def fill : Nat → Node → Filling → Decoding Filling
  | 0, _, filling => return filling
  | fuel + 1, node, filling => do
    match node with
    | .scalar tag value _ _ =>
      if (← Decoding.meaningOf tag value) ≠ .null then Decoding.mismatch node typeName
      return filling
    | .mapping _ entries _ =>
      if !(← Decoding.noRepeats entries) then return filling
      let filled ← fillEntries [] entries filling
      let some (_, merge) := (entries.filter (·.1.isMerge)).getLast? | return filled
      let taken ← match filled.taken with
        | some taken => pure taken
        | none => ownNames entries
      let start := { filled with taken := some taken }
      let fillFrom (filling : Filling) (item : Node) : Decoding Filling := do
        checkMergeable item
        Decoding.visit item fun node => fill fuel node filling
      let merged ← match merge with
        | .sequence _ items _ => items.foldlM fillFrom start
        | single => fillFrom start single
      return { merged with taken := if filled.taken.isSome then merged.taken else none }
    | other =>
      Decoding.mismatch other typeName
      return filling

/-- The configuration in some bytes; what they do not mention stays as it is. -/
def ofBytes (configuration : Configuration) (bytes : Text) : Except Problem Configuration := do
  match ← Node.ofBytes? bytes with
  | none => return configuration
  | some root =>
    -- The document is a node, too.
    let decoding : Decoding Filling := do
      Decoding.count
      Decoding.visit root fun node => fill (bytes.length + 1) node { configuration }
    let (filling, progress) ← decoding.run {}
    if progress.mismatches.isEmpty then return filling.configuration
    else throw (.mismatches progress.mismatches.toList)

/-- The decoder of YAML documents. -/
def yaml : Decoder
  | configuration, bytes, none => (ofBytes configuration bytes).mapError Problem.text
  | _, _, some failure => .error (Problem.text (.input (utf8 "input error: " ++ failure)))

end LineMachine.Cli.Configuration

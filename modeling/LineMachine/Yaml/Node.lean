import LineMachine.Yaml.Token

namespace LineMachine.Yaml

inductive Node where
  | scalar (tag value : Text) (style : ScalarStyle) (line : Nat)
  | sequence (tag : Text) (items : List Node) (line : Nat)
  | mapping (tag : Text) (entries : List (Node × Node)) (line : Nat)
  | alias (name : Text) (target : Node) (line : Nat)
  | enclosing (isMapping : Bool) (tag : Text) (line : Nat)

namespace Node

instance : Inhabited Node := ⟨.scalar [] [] .plain 0⟩

/-- The customary tags. -/
def stringTag : Text := utf8 "!!str"
def boolTag : Text := utf8 "!!bool"
def intTag : Text := utf8 "!!int"
def floatTag : Text := utf8 "!!float"
def nullTag : Text := utf8 "!!null"
def timestampTag : Text := utf8 "!!timestamp"
def sequenceTag : Text := utf8 "!!seq"
def mappingTag : Text := utf8 "!!map"
def mergeTag : Text := utf8 "!!merge"
def binaryTag : Text := utf8 "!!binary"

/-- The namespace of the customary tags. -/
def tagSpace : Text := utf8 "tag:yaml.org,2002:"

/-- A tag of the customary namespace is written with two exclamation marks. -/
def shortTag (tag : Text) : Text :=
  if tagSpace.isPrefixOf tag then utf8 "!!" ++ tag.drop tagSpace.length else tag

def line : Node → Nat
  | .scalar _ _ _ line | .sequence _ _ line | .mapping _ _ line | .alias _ _ line
  | .enclosing _ _ line => line

end Node
end LineMachine.Yaml

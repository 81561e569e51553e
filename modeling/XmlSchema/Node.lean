import XmlSchema.Grammar.Kind
import XmlSchema.Ids
import XmlSchema.Name
import XmlSchema.Occurs
import XmlSchema.Table
import XmlSchema.Text.Blank

set_option autoImplicit false

namespace XmlSchema

abbrev Attributes := Table String String

namespace Attributes

def flag (attributes : Attributes) (name : String) : Bool :=
  match attributes.get? name with
  | some value => Text.trim value == "true" || Text.trim value == "1"
  | none => false

/-- The value of an attribute whose lowercase name is `name`. The lowercase spelling comes first. -/
def choose (written : List (String × String)) (name : String) : Option String :=
  match written.lookup name with
  | some value => some value
  | none => (written.find? fun entry => entry.1.toLower == name).map (·.2)

def keep (kind : Kind) (written : List (String × String)) : Attributes :=
  kind.attributeNames.foldl (fun kept name =>
    match choose written name with
    | some value => kept.insert name value
    | none => kept) .empty

end Attributes

inductive TypeRef where
  | resolved (node : NodeId)
  | unresolved (name : QName)
  deriving DecidableEq, Repr

inductive Derivation where
  | extension
  | restriction
  deriving DecidableEq, Repr

structure Node where
  kind : Kind
  attributes : Attributes
  source : Option SourceId
  line : Nat
  /-- The scope of everything declared inside the tag. -/
  scope : ScopeId
  parent : Option NodeId
  name : Option QName
  occurs : Occurs
  text : String
  typeRef : Option TypeRef
  base : Option TypeRef
  derivation : Option Derivation
  /-- What the attribute `ref` leads to. -/
  referent : Option NodeId
  /-- The elements that may stand in for this one. -/
  substitutes : List NodeId
  memberTypes : List TypeRef
  enumeration : List String
  documentation : List String
  isBuiltin : Bool
  anyContent : Bool
  anyAttribute : Bool
  /-- Nothing about the tag is left to look up. -/
  isResolved : Bool
  deriving DecidableEq, Repr

namespace Node

def fresh (kind : Kind) (scope : ScopeId) : Node where
  kind := kind
  attributes := .empty
  source := none
  line := 0
  scope := scope
  parent := none
  name := none
  occurs := .once
  text := ""
  typeRef := none
  base := none
  derivation := none
  referent := none
  substitutes := []
  memberTypes := []
  enumeration := []
  documentation := []
  isBuiltin := false
  anyContent := false
  anyAttribute := false
  isResolved := false

instance : Inhabited Node := ⟨fresh .annotationTag ⟨0⟩⟩

def isAbstract (node : Node) : Bool := node.attributes.flag "abstract"

def attribute? (node : Node) (name : String) : Option String := node.attributes.get? name

def withText (node : Node) (piece : String) : Node :=
  { node with
    text := if node.text.isEmpty then Text.trim piece else node.text ++ " " ++ Text.trim piece }

end Node

end XmlSchema

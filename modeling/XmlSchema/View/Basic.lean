import XmlSchema.Content

set_option autoImplicit false

namespace XmlSchema

inductive TypeCategory where
  | complex
  | simple
  | builtin
  deriving DecidableEq, Repr

mutual

structure MemberView where
  name : String
  typeName : Option String
  nameless : Option TypeView
  isRecursive : Bool
  isGlobal : Bool
  occurs : Occurs
  documentation : List String

structure TypeView where
  name : Option String
  category : TypeCategory
  parent : Option String
  derivation : Option Derivation
  isAbstract : Bool
  attributes : List MemberView
  elements : List MemberView
  anyContent : Bool
  anyAttribute : Bool
  enumeration : List String
  itemType : Option String
  memberTypes : List String
  documentation : List String

end

structure NamespaceView where
  name : String
  url : Option String
  short : Option String
  references : List String
  elements : List MemberView
  attributes : List MemberView
  types : List TypeView

structure SchemaView where
  root : Option String
  namespaces : List NamespaceView

namespace Model

def typeLabel (model : Model) : TypeRef -> Option String
  | .resolved id => (model.node id).name.map QName.text
  | .unresolved name => some ("unresolved:" ++ name.text)

/-- The nameless type that a member has of its own. That of a global is written out only where the
globals are listed. -/
def namelessOf (model : Model) (ofGlobals : Bool) (id : NodeId) : Option NodeId :=
  match model.typeOf id with
  | some (.resolved type) =>
      if (model.node type).name.isNone && (ofGlobals || !model.isGlobal id) then some type else none
  | _ => none

def memberView (model : Model) (ofGlobals : Bool) (around : List NodeId)
    (expand : NodeId -> Option TypeView) (member : Member) : MemberView :=
  let nameless := model.namelessOf ofGlobals member.node
  { name := member.name.text
    typeName := (model.typeOf member.node).bind model.typeLabel
    nameless := nameless.bind expand
    isRecursive := nameless.any around.contains
    isGlobal := model.isGlobal member.node
    occurs := member.occurs
    documentation := (model.node member.node).documentation }

def category (node : Node) : TypeCategory :=
  if node.isBuiltin then .builtin
  else if node.kind = .complexType then .complex
  else .simple

def own (model : Model) (id : NodeId) (kind : Symbols) : List Member :=
  (model.members id kind).filter fun member => !member.inherited

def itemType (model : Model) (node : Node) : Option String :=
  match category node with
  | .simple => node.typeRef.bind model.typeLabel
  | _ => none

def memberTypes (model : Model) (node : Node) : List String :=
  match category node with
  | .simple => node.memberTypes.filterMap model.typeLabel
  | _ => []

def typeView (model : Model) (around : List NodeId) (id : NodeId) : TypeView :=
  let inside := id :: around
  let expand := fun type : NodeId =>
    if type.index < model.nodes.size ∧ type.index ∉ inside.map NodeId.index then
      some (model.typeView inside type)
    else none
  let node := model.node id
  { name := node.name.map QName.text
    category := category node
    parent := node.base.bind model.typeLabel
    derivation := node.derivation
    isAbstract := node.isAbstract
    attributes := (model.own id .attributes).map (model.memberView false inside expand)
    elements := (model.own id .elements).map (model.memberView false inside expand)
    anyContent := node.anyContent
    anyAttribute := node.anyAttribute
    enumeration := node.enumeration
    itemType := model.itemType node
    memberTypes := model.memberTypes node
    documentation := node.documentation }
termination_by Graph.unseen model.nodes.size ((id :: around).map NodeId.index)
decreasing_by exact Graph.unseen_cons_lt ‹_ ∧ _›.1 ‹_ ∧ _›.2

def globalView (model : Model) (member : Member) : MemberView :=
  model.memberView true [] (fun type => some (model.typeView [] type)) member

def namespaceView (model : Model) (id : NamespaceId) : NamespaceView :=
  let entry := model.namespaces.get id
  { name := entry.name.getD ""
    url := entry.url
    short := entry.short
    references := entry.references.filterMap fun used => (model.namespaces.get used).name
    elements := (model.globals id .elements).map model.globalView
    attributes := (model.globals id .attributes).map model.globalView
    types := (model.globals id .types).map fun member => model.typeView [] member.node }

end Model

namespace Compilation

def view (compilation : Compilation) : SchemaView where
  root := compilation.rootSource.bind fun source => source.prefixes.targetUri
  namespaces := compilation.model.definedNamespaces.map compilation.model.namespaceView

end Compilation

def hasLocalName (localName name : String) : Bool :=
  ('\x7d' :: localName.toList).isSuffixOf name.toList || name == localName

namespace SchemaView

def find (view : SchemaView) (uri : String) : Option NamespaceView :=
  view.namespaces.find? fun entry => entry.name == uri

end SchemaView

namespace NamespaceView

def findType (view : NamespaceView) (localName : String) : Option TypeView :=
  view.types.find? fun type => type.name.any (hasLocalName localName)

def findElement (view : NamespaceView) (localName : String) : Option MemberView :=
  view.elements.find? fun element => hasLocalName localName element.name

end NamespaceView

end XmlSchema

import XmlSchema.Compilation.Basic

set_option autoImplicit false

namespace XmlSchema

structure Member where
  name : QName
  node : NodeId
  occurs : Occurs
  inherited : Bool
  deriving DecidableEq, Repr

namespace Member

def ofEntry (entry : QName × Definition) : Member :=
  ⟨entry.1, entry.2.target, entry.2.occurs, entry.2.inherited⟩

end Member

namespace Model

def substitution (model : Model) : Graph where
  size := model.nodes.size
  next := fun index => (model.node ⟨index⟩).substitutes.map NodeId.index

def alternatives (model : Model) (element : NodeId) : List NodeId :=
  ((model.substitution.preorder [element.index]).map NodeId.mk).filter fun id =>
    !(model.node id).isAbstract

/-- The members that an element of a body stands for. None of several is required. -/
def expand (model : Model) (entry : QName × Definition) : List Member :=
  let found := model.alternatives entry.2.target
  let occurs := if 1 < found.length then entry.2.occurs.optionalized else entry.2.occurs
  found.map fun id =>
    let name := if id = entry.2.target then entry.1 else (model.node id).name.getD entry.1
    ⟨name, id, occurs, entry.2.inherited⟩

def members (model : Model) (id : NodeId) (kind : Symbols) : List Member :=
  let entries := (model.scopes.table (model.node id).scope kind).entries
  match kind with
  | .elements => entries.flatMap model.expand
  | _ => entries.map Member.ofEntry

def globals (model : Model) (id : NamespaceId) (kind : Symbols) : List Member :=
  (model.scopes.table (model.namespaces.get id).root kind).entries.map Member.ofEntry

def global (model : Model) (kind : Symbols) (name : QName) : Option NodeId :=
  match model.namespaces.find name.uriText with
  | none => none
  | some home =>
      (model.scopes.findLocal (model.namespaces.get home).root kind name).map Definition.target

def typeOf (model : Model) (id : NodeId) : Option TypeRef :=
  let node := model.node id
  match node.referent with
  | some referent => (model.node referent).typeRef
  | none => node.typeRef

def isGlobal (model : Model) (id : NodeId) : Bool :=
  match (model.node id).parent with
  | some parent => decide ((model.node parent).kind = .schema)
  | none => false

def definedNamespaces (model : Model) : List NamespaceId :=
  ((List.range model.namespaces.size).map NamespaceId.mk).filter fun id =>
    !(model.namespaces.get id).sources.isEmpty

end Model

end XmlSchema

import XmlSchema.Builtin
import XmlSchema.Failure
import XmlSchema.Model.Queue
import XmlSchema.Namespaces
import XmlSchema.Prefixes

set_option autoImplicit false

namespace XmlSchema

structure Source where
  url : Url
  requested : Url
  target : NamespaceId
  defaultNamespace : Option NamespaceId
  prefixes : Prefixes
  deriving DecidableEq, Repr

instance : Inhabited Source := ⟨⟨default, default, default, none, .empty⟩⟩

structure Skipped where
  position : Position
  name : QName
  deriving DecidableEq, Repr

structure Model where
  namespaces : Namespaces
  scopes : Scopes
  nodes : Array Node
  sources : Array Source
  queue : Queue
  /-- The references that failed, in the order in which they were tried. -/
  unresolved : Array Unresolved
  skipped : Array Skipped
  /-- The deferred tags in the order in which they were done. -/
  order : Array NodeId

namespace Model

def empty : Model :=
  let schema := (Namespaces.empty Builtin.scope).register Builtin.scopes (some schemaUri) none
    (some "xsd")
  { namespaces := schema.namespaces
    scopes := schema.scopes
    nodes := Builtin.nodes.toArray
    sources := #[]
    queue := .empty
    unresolved := #[]
    skipped := #[]
    order := #[] }

instance : Inhabited Model := ⟨empty⟩

def node (model : Model) (id : NodeId) : Node := model.nodes[id.index]?.getD default

def source (model : Model) (id : SourceId) : Source := model.sources[id.index]?.getD default

def addNode (model : Model) (node : Node) : Model :=
  { model with nodes := model.nodes.push node }

def nextNode (model : Model) : NodeId := ⟨model.nodes.size⟩

def changeNode (model : Model) (id : NodeId) (f : Node -> Node) : Model :=
  { model with nodes := model.nodes.modify id.index f }

def sourceOf? (model : Model) (id : NodeId) : Option Source :=
  (model.node id).source.map model.source

def position (model : Model) (id : NodeId) : Position :=
  ⟨((model.sourceOf? id).map fun source => source.url.text).getD "", (model.node id).line⟩

def targetUri (model : Model) (id : NodeId) : Option String :=
  (model.sourceOf? id).bind fun source => source.prefixes.targetUri

def ancestors (model : Model) (id : NodeId) : List NodeId :=
  match (model.node id).parent with
  | none => []
  | some parent => if parent.index < id.index then parent :: model.ancestors parent else []
termination_by id.index

def enclosing (model : Model) (id : NodeId) (accepts : Kind -> Bool) : Option NodeId :=
  (model.ancestors id).find? fun outer => accepts (model.node outer).kind

def upTo (accepts : NodeId -> Bool) : List NodeId -> List NodeId
  | [] => []
  | id :: rest => if accepts id then [id] else id :: upTo accepts rest

/-- The nodes whose bodies a node may add to: itself and those around it, as far as the nearest
element or attribute. -/
def fed (model : Model) (id : NodeId) : List NodeId :=
  id :: upTo (fun outer => (model.node outer).kind.isBoundary) (model.ancestors id)

def defer (model : Model) (id : NodeId) : Model :=
  { model with queue := model.queue.push id (model.fed id) }

def markWildcard (model : Model) (id : NodeId) (mark : Node -> Node) : Model :=
  match model.enclosing id Kind.ownsWildcards with
  | some owner => model.changeNode owner mark
  | none => model

def markAnyContent (model : Model) (id : NodeId) : Model :=
  model.markWildcard id fun owner => { owner with anyContent := true }

def markAnyAttribute (model : Model) (id : NodeId) : Model :=
  model.markWildcard id fun owner => { owner with anyAttribute := true }

def define (model : Model) (scope : ScopeId) (kind : Symbols) (name : QName) (target : NodeId)
    (occurs : Occurs) : Model :=
  { model with scopes := model.scopes.define scope kind name target occurs }

def register (model : Model) (name url short : Option String) : Model × NamespaceId :=
  let registered := model.namespaces.register model.scopes name url short
  ({ model with namespaces := registered.namespaces, scopes := registered.scopes }, registered.id)

def missing (model : Model) (id : NodeId) (name : QName) : Model :=
  { model with
    unresolved := model.unresolved.push
      (.missing (model.node id).kind name (model.position id)) }

def circular (model : Model) (id : NodeId) (name : QName) : Model :=
  { model with
    unresolved := model.unresolved.push
      (.circular (model.node id).kind name (model.position id)) }

theorem node_changeNode (model : Model) (id other : NodeId) (f : Node -> Node) :
    (model.changeNode id f).node other =
      if other = id ∧ other.index < model.nodes.size then f (model.node other)
      else model.node other := by
  obtain ⟨i⟩ := id
  obtain ⟨j⟩ := other
  simpa [node, changeNode] using Numbered.getD_modify model.nodes i j f

theorem node_addNode (model : Model) (node : Node) (id : NodeId) :
    (model.addNode node).node id = if id = model.nextNode then node else model.node id := by
  obtain ⟨i⟩ := id
  simpa [Model.node, addNode, nextNode] using Numbered.getD_push model.nodes node i

theorem node_of_size_le (model : Model) {id : NodeId} (outside : model.nodes.size ≤ id.index) :
    model.node id = default :=
  Numbered.getD_of_size_le model.nodes outside

@[simp] theorem size_changeNode (model : Model) (id : NodeId) (f : Node -> Node) :
    (model.changeNode id f).nodes.size = model.nodes.size := by
  simp [changeNode]

@[simp] theorem size_addNode (model : Model) (node : Node) :
    (model.addNode node).nodes.size = model.nodes.size + 1 := by
  simp [addNode]

theorem keeps_changeNode {α : Type} (look : Node -> α) (model : Model) (id other : NodeId)
    {f : Node -> Node} (keeps : ∀ node, look (f node) = look node) :
    look ((model.changeNode id f).node other) = look (model.node other) := by
  rw [node_changeNode]
  split
  · exact keeps _
  · rfl

theorem mem_ancestors_lt {model : Model} {id outer : NodeId} (inside : outer ∈ model.ancestors id) :
    outer.index < id.index := by
  fun_induction ancestors model id with
  | case1 => simp at inside
  | case2 id parent found lower ih =>
      rcases List.mem_cons.mp inside with rfl | further
      · exact lower
      · exact Nat.lt_trans (ih further) lower
  | case3 => simp at inside

theorem nodup_ancestors (model : Model) (id : NodeId) : (id :: model.ancestors id).Nodup := by
  fun_induction ancestors model id with
  | case1 => simp
  | case2 id parent found lower ih =>
      refine List.nodup_cons.mpr ⟨?_, ih⟩
      intro inside
      rcases List.mem_cons.mp inside with rfl | further
      · exact Nat.lt_irrefl _ lower
      · exact Nat.lt_irrefl _ (Nat.lt_trans (mem_ancestors_lt further) lower)
  | case3 => simp

theorem sublist_upTo (accepts : NodeId -> Bool) (ids : List NodeId) :
    (upTo accepts ids).Sublist ids := by
  induction ids with
  | nil => simp [upTo]
  | cons id rest ih =>
      simp only [upTo]
      split
      · exact List.Sublist.cons_cons id (List.nil_sublist rest)
      · exact ih.cons_cons id

theorem nodup_fed (model : Model) (id : NodeId) : (model.fed id).Nodup :=
  (nodup_ancestors model id).sublist ((sublist_upTo _ _).cons_cons id)

end Model

end XmlSchema

import Mathlib.Data.List.Forall2
import XmlSchema.Proofs.Reading.Moves

set_option autoImplicit false

namespace XmlSchema

namespace Node

/-- What was written in a tag, wherever the tag stands. -/
def label (node : Node) : Kind × Attributes × Nat := (node.kind, node.attributes, node.line)

def asks (node : Node) : Bool :=
  decide (node.kind = .importTag ∨ node.kind = .includeTag) &&
    (node.attribute? "schemalocation").isSome

variable {a b : Node}

theorem label_of_written (same : a.written = b.written) : a.label = b.label :=
  (congrArg label same :)

theorem label_of_core (same : a.core = b.core) : a.label = b.label :=
  (congrArg label same :)

theorem label_of_declared (same : a.declared = b.declared) : a.label = b.label :=
  (congrArg label same :)

theorem attribute?_of_label (same : a.label = b.label) (name : String) :
    a.attribute? name = b.attribute? name := by
  have attributes : a.attributes = b.attributes :=
    (congrArg (fun label : Kind × Attributes × Nat => label.2.1) same :)
  simp only [attribute?, attributes]

theorem asks_of_label (same : a.label = b.label) : a.asks = b.asks := by
  have kind : a.kind = b.kind :=
    (congrArg (fun label : Kind × Attributes × Nat => label.1) same :)
  simp only [asks, kind, attribute?_of_label same]

end Node

namespace Import

structure MadeBy (asked : Import) (base : Url) (node : Node) : Prop where
  kind : asked.kind = node.kind
  line : asked.line = node.line
  location : ∃ written, node.attribute? "schemalocation" = some written ∧
    base.join (Text.trim written) = .ok asked.location
  uri : node.kind = .importTag -> asked.uri = node.attribute? "namespace"

theorem MadeBy.congr {asked : Import} {base : Url} {old new : Node} (made : asked.MadeBy base old)
    (same : new.label = old.label) : asked.MadeBy base new where
  kind := made.kind.trans
    (congrArg (fun label : Kind × Attributes × Nat => label.1) same.symm :)
  line := made.line.trans
    (congrArg (fun label : Kind × Attributes × Nat => label.2.2) same.symm :)
  location := by
    rw [Node.attribute?_of_label same]
    exact made.location
  uri import_ := by
    rw [Node.attribute?_of_label same]
    exact made.uri ((congrArg (fun label : Kind × Attributes × Nat => label.1) same.symm :).trans
      import_)

theorem MadeBy.within {asked : Import} {base : Url} {model : Model} {id : NodeId}
    (made : asked.MadeBy base (model.node id)) : id.index < model.nodes.size := by
  refine Nat.not_le.mp fun outside => ?_
  obtain ⟨written, there, -⟩ := made.location
  rw [Model.node_of_size_le model outside] at there
  cases there

end Import

namespace Model

def asking (model : Model) (first : Nat) : List NodeId :=
  ((List.range' first (model.nodes.size - first)).map NodeId.mk).filter fun id =>
    (model.node id).asks

theorem asking_congr {old new : Model} (size : new.nodes.size = old.nodes.size)
    (label : ∀ id, (new.node id).label = (old.node id).label) (first : Nat) :
    new.asking first = old.asking first := by
  unfold asking
  rw [size]
  exact List.filter_congr fun id _ => Node.asks_of_label (label id)

theorem label_declareSource (model : Model) (document : Document) (id : NodeId) :
    (model.declareSource document id).1.nodes.size = model.nodes.size ∧
      ∀ other, ((model.declareSource document id).1.node other).label =
        (model.node other).label := by
  have nodes := (model.stores_registerRoot document).1
  rw [declareSource_eq]
  generalize (model.registerRoot document).1 = root at nodes ⊢
  refine ⟨(size_changeNode ..).trans (congrArg Array.size nodes), fun other => ?_⟩
  refine Eq.trans ?_ (congrArg Node.label (Draft.node_congr nodes other))
  exact keeps_changeNode Node.label _ id other fun _ => rfl

end Model

namespace Draft

structure Lists (first : Nat) (draft : Draft) : Prop where
  above : first ≤ draft.model.nodes.size
  listed : List.Forall₂ (fun asked id =>
      asked.MadeBy draft.document.url (draft.model.node id))
    draft.document.imports.toList (draft.model.asking first)

variable {first : Nat} {draft new : Draft}

theorem Lists.congr (lists : draft.Lists first)
    (size : new.model.nodes.size = draft.model.nodes.size)
    (label : ∀ id, (new.model.node id).label = (draft.model.node id).label)
    (imports : new.document.imports = draft.document.imports)
    (url : new.document.url = draft.document.url) : new.Lists first where
  above := size ▸ lists.above
  listed := by
    rw [imports, url, Model.asking_congr size label]
    exact lists.listed.imp fun _ id made => made.congr (label id)

theorem asking_withTag (draft : Draft) (outer : ScopeId) (node : Node)
    (above : first ≤ draft.model.nodes.size) :
    (draft.withTag outer node).model.asking first =
      draft.model.asking first ++ if node.asks then [draft.model.nextNode] else [] := by
  have size : (draft.withTag outer node).model.nodes.size = draft.model.nodes.size + 1 :=
    Model.size_addNode ..
  have more : draft.model.nodes.size + 1 - first = draft.model.nodes.size - first + 1 := by omega
  have last : first + (draft.model.nodes.size - first) = draft.model.nodes.size := by omega
  have before : ∀ id ∈ (List.range' first (draft.model.nodes.size - first)).map NodeId.mk,
      ((draft.withTag outer node).model.node id).asks = (draft.model.node id).asks := by
    intro id member
    obtain ⟨index, within, rfl⟩ := List.mem_map.mp member
    have bounds := List.mem_range'_1.mp within
    rw [node_withTag, if_neg]
    intro same
    have there : index = draft.model.nodes.size := congrArg NodeId.index same
    omega
  unfold Model.asking
  rw [size, more, List.range'_concat, List.map_append, List.filter_append,
    List.filter_congr before, Nat.one_mul, last]
  congr 1
  have self : (draft.withTag outer node).model.node ⟨draft.model.nodes.size⟩ = node := by
    rw [node_withTag]
    exact if_pos rfl
  by_cases asks : node.asks = true
  · simp [self, asks, Model.nextNode]
  · simp [self, asks]

theorem MadeBy_withTag {asked : Import} {base : Url} {id : NodeId} (outer : ScopeId) (node : Node)
    (made : asked.MadeBy base (draft.model.node id)) :
    asked.MadeBy base ((draft.withTag outer node).model.node id) := by
  have within := made.within
  rw [node_withTag, if_neg]
  · exact made
  · rintro rfl
    exact Nat.lt_irrefl _ within

theorem registerImport_nodes (draft : Draft) (id : NodeId) :
    (draft.registerImport id).model.nodes = draft.model.nodes := by
  unfold registerImport
  split <;> rfl

theorem declareImport_nodes (draft : Draft) (id : NodeId) :
    (draft.declareImport id).state.model.nodes = draft.model.nodes := by
  have register := draft.registerImport_nodes id
  unfold declareImport
  dsimp only
  split
  next => exact register
  next => split <;> exact register

theorem label_declare (draft : Draft) (id : NodeId) :
    (draft.declare id).state.model.nodes.size = draft.model.nodes.size ∧
      ∀ other, ((draft.declare id).state.model.node other).label =
        (draft.model.node other).label := by
  have import_ := draft.declareImport_nodes id
  unfold declare
  split
  next =>
    unfold declareSchema
    split
    · exact ⟨rfl, fun _ => rfl⟩
    · exact Model.label_declareSource ..
  next => exact ⟨congrArg Array.size import_, fun other => congrArg _ (node_congr import_ other)⟩
  next => exact ⟨congrArg Array.size import_, fun other => congrArg _ (node_congr import_ other)⟩
  next =>
    have retains := Model.retains_declare draft.model id
    exact ⟨retains.size, fun other => Node.label_of_written (retains.written other)⟩

theorem asks_eq_false_of_kind {node : Node} (import_ : node.kind ≠ .importTag)
    (include_ : node.kind ≠ .includeTag) : node.asks = false := by
  simp [Node.asks, import_, include_]

theorem asks_of_import {node : Node} (kind : node.kind = .importTag ∨ node.kind = .includeTag) :
    node.asks = (node.attribute? "schemalocation").isSome := by
  simp [Node.asks, kind]

theorem declareImport_imports {id : NodeId} (going : (draft.declareImport id).failure = none) :
    (draft.model.node id).attribute? "schemalocation" = none ∧
        (draft.declareImport id).state.document.imports = draft.document.imports ∨
      ((draft.model.node id).attribute? "schemalocation").isSome ∧
        ∃ asked : Import, asked.MadeBy draft.document.url (draft.model.node id) ∧
          (draft.declareImport id).state.document.imports = draft.document.imports.push asked := by
  have document := draft.document_registerImport id
  have nodes := node_congr (draft.registerImport_nodes id) id
  unfold declareImport at going ⊢
  dsimp only at going ⊢
  rw [document] at going ⊢
  split
  next silent => exact .inl ⟨silent, congrArg Document.imports document⟩
  next written there =>
    rw [there] at going
    dsimp only at going
    split
    next fault failed => simp [failed, Attempt.stopped] at going
    next location joined =>
      refine .inr ⟨by simp [there], _, ⟨rfl, rfl, ⟨written, there, joined⟩, fun import_ => ?_⟩, rfl⟩
      change draft.importUri id = _
      unfold importUri
      rw [import_]

theorem declare_imports {id : NodeId} (going : (draft.declare id).failure = none) :
    (draft.model.node id).asks = false ∧
        (draft.declare id).state.document.imports = draft.document.imports ∨
      (draft.model.node id).asks = true ∧
        ∃ asked : Import, asked.MadeBy draft.document.url (draft.model.node id) ∧
          (draft.declare id).state.document.imports = draft.document.imports.push asked := by
  unfold declare at going ⊢
  split at going
  next kind =>
    refine .inl ⟨asks_eq_false_of_kind (by simp [kind]) (by simp [kind]), ?_⟩
    unfold declareSchema
    split <;> rfl
  next kind =>
    have asks := asks_of_import (.inl kind)
    rcases declareImport_imports going with ⟨silent, same⟩ | ⟨given, made⟩
    · exact .inl ⟨by rw [asks, silent]; rfl, same⟩
    · exact .inr ⟨asks.trans given, made⟩
  next kind =>
    have asks := asks_of_import (.inr kind)
    rcases declareImport_imports going with ⟨silent, same⟩ | ⟨given, made⟩
    · exact .inl ⟨by rw [asks, silent]; rfl, same⟩
    · exact .inr ⟨asks.trans given, made⟩
  next plain import_ include_ => exact .inl ⟨asks_eq_false_of_kind import_ include_, rfl⟩

theorem url_of_header {old new : Document} (same : new.header = old.header) : new.url = old.url :=
  (congrArg Document.url same :)

theorem Lists.tag (lists : draft.Lists first) (outer : ScopeId) (node : Node)
    (going : ((draft.withTag outer node).declare draft.model.nextNode).failure = none) :
    ((draft.withTag outer node).declare draft.model.nextNode).state.Lists first := by
  have self : (draft.withTag outer node).model.node draft.model.nextNode = node := by
    rw [node_withTag, if_pos rfl]
  obtain ⟨size, label⟩ := label_declare (draft.withTag outer node) draft.model.nextNode
  have url := url_of_header (header_declare (draft.withTag outer node) draft.model.nextNode)
  have before := lists.listed.imp fun _ _ made => MadeBy_withTag outer node made
  have asking := asking_withTag draft outer node lists.above
  have added : (draft.withTag outer node).model.nodes.size = draft.model.nodes.size + 1 :=
    Model.size_addNode ..
  refine ⟨by rw [size, added]; exact Nat.le_succ_of_le lists.above, ?_⟩
  rw [url, Model.asking_congr size label, asking]
  refine List.Forall₂.imp (fun _ id made => Import.MadeBy.congr made (label id)) ?_
  rcases declare_imports going with ⟨silent, imports⟩ | ⟨asks, asked, made, imports⟩
  · rw [self] at silent
    rw [imports, silent, if_neg Bool.false_ne_true, List.append_nil]
    exact before
  · rw [self] at asks
    rw [imports, asks, Array.toList_push, if_pos rfl]
    exact List.rel_append before (.cons made .nil)

theorem Move.lists {attempt : Attempt Draft} (move : draft.Move attempt)
    (going : attempt.failure = none) (lists : draft.Lists first) : attempt.state.Lists first := by
  cases move with
  | root attributes =>
      have same : (draft.document.withRoot attributes).imports = draft.document.imports ∧
          (draft.document.withRoot attributes).url = draft.document.url := by
        unfold Document.withRoot
        split <;> exact ⟨rfl, rfl⟩
      exact lists.congr rfl (fun _ => rfl) same.1 same.2
  | still model tasks still =>
      exact lists.congr still.size
        (fun id => Node.label_of_written (Node.written_of_told (still.told id))) rfl rfl
  | body outer skipped => exact lists.congr rfl (fun _ => rfl) rfl rfl
  | tag outer node fresh scope source read outermost inside => exact lists.tag outer node going

theorem lists_read {draft : Draft} (imports : draft.document.imports = #[]) {limits : Limits}
    {bytes : List UInt8} (going : (draft.read limits bytes).failure = none) :
    (draft.read limits bytes).state.Lists draft.model.nodes.size := by
  refine (moves_read draft limits bytes).1.keeps_going going ⟨Nat.le_refl _, ?_⟩
    fun move going lists => move.lists going lists
  rw [imports, Model.asking, Nat.sub_self]
  exact .nil

end Draft

end XmlSchema

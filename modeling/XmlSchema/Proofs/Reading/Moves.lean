import XmlSchema.Proofs.Inlining
import XmlSchema.Proofs.Reading.Edit
import XmlSchema.Proofs.Reading.Header
import XmlSchema.Proofs.Reading.Outcomes

set_option autoImplicit false

namespace XmlSchema

namespace Node

/-- What was written in a tag, and where the tag stands. -/
def written (node : Node) : Node :=
  { Node.fresh node.kind node.scope with
    attributes := node.attributes
    source := node.source
    line := node.line
    parent := node.parent }

/-- A node but for its text, what documents it, and whether anything is left to look up. -/
def told (node : Node) : Node := { node with text := "", documentation := [], isResolved := false }

variable {a b : Node}

theorem written_of_told (same : a.told = b.told) : a.written = b.written :=
  (congrArg written same :)

theorem written_of_declared (same : a.declared = b.declared) : a.written = b.written :=
  (congrArg written same :)

theorem kind_of_written (same : a.written = b.written) : a.kind = b.kind :=
  (congrArg kind same :)

theorem scope_of_written (same : a.written = b.written) : a.scope = b.scope :=
  (congrArg scope same :)

theorem source_of_written (same : a.written = b.written) : a.source = b.source :=
  (congrArg source same :)

end Node

namespace Model

def Enters (model : Model) (id : NodeId) (name : QName) : Prop :=
  ∃ kind, (model.node id).kind.symbols? = some kind ∧
    (model.scopes.table (model.scopes.surrounding (model.node id).scope) kind).get? name ≠ none

theorem Enters.mono {old new : Model} {id : NodeId} {name : QName} (enters : old.Enters id name)
    (written : (new.node id).written = (old.node id).written)
    (parent : (new.scopes.get (old.node id).scope).parent =
      (old.scopes.get (old.node id).scope).parent)
    (tables : old.scopes.Grows new.scopes) : new.Enters id name := by
  obtain ⟨kind, symbols, entry⟩ := enters
  obtain ⟨before, there⟩ := Option.ne_none_iff_exists'.mp entry
  obtain ⟨after, found, -⟩ := tables _ kind name before there
  refine ⟨kind, (congrArg Kind.symbols? (Node.kind_of_written written)).trans symbols, ?_⟩
  rw [Node.scope_of_written written, Scopes.surrounding, parent, ← Scopes.surrounding, found]
  exact Option.some_ne_none _

/-- The tags are the same, and their scopes stand where they stood. A new name is in the target
namespace of its tag's document. -/
structure Retains (old new : Model) : Prop where
  size : new.nodes.size = old.nodes.size
  written : ∀ id, (new.node id).written = (old.node id).written
  scopes : new.scopes.size = old.scopes.size
  parent : ∀ id, (new.scopes.get id).parent = (old.scopes.get id).parent
  home : ∀ id, (new.scopes.get id).home = (old.scopes.get id).home
  namespaces : new.namespaces = old.namespaces
  sources : new.sources = old.sources
  tables : old.scopes.Grows new.scopes
  named : ∀ id name, (new.node id).name = some name -> (old.node id).name = some name ∨
    (old.node id).kind ≠ .schema ∧ name.uri = old.targetUri id ∧
      ((old.scopes.surrounding (old.node id).scope).index < old.scopes.size -> new.Enters id name)

namespace Retains

theorem refl (model : Model) : model.Retains model :=
  ⟨rfl, fun _ => rfl, rfl, fun _ => rfl, fun _ => rfl, rfl, rfl, .refl _, fun _ _ => .inl⟩

theorem scope {old new : Model} (retains : old.Retains new) (id : NodeId) :
    (new.node id).scope = (old.node id).scope :=
  Node.scope_of_written (retains.written id)

theorem surrounding {old new : Model} (retains : old.Retains new) (id : ScopeId) :
    new.scopes.surrounding id = old.scopes.surrounding id := by
  unfold Scopes.surrounding
  rw [retains.parent]

theorem targetUri {old new : Model} (retains : old.Retains new) (id : NodeId) :
    new.targetUri id = old.targetUri id := by
  unfold Model.targetUri Model.sourceOf? Model.source
  rw [retains.sources, Node.source_of_written (retains.written id)]

theorem trans {one two three : Model} (first : one.Retains two) (second : two.Retains three) :
    one.Retains three where
  size := second.size.trans first.size
  written id := (second.written id).trans (first.written id)
  scopes := second.scopes.trans first.scopes
  parent id := (second.parent id).trans (first.parent id)
  home id := (second.home id).trans (first.home id)
  namespaces := second.namespaces.trans first.namespaces
  sources := second.sources.trans first.sources
  tables := first.tables.trans second.tables
  named id name there := by
    rcases second.named id name there with before | ⟨plain, uri, enters⟩
    next =>
      refine (first.named id name before).imp_right fun ⟨plain, uri, enters⟩ =>
        ⟨plain, uri, fun inside => ?_⟩
      exact (enters inside).mono (second.written id) (second.parent _) second.tables
    next =>
      rw [Node.kind_of_written (first.written id)] at plain
      refine .inr ⟨plain, uri.trans (first.targetUri id), fun inside => enters ?_⟩
      rw [first.scope, first.surrounding, first.scopes]
      exact inside

end Retains

theorem retains_changeNode (model : Model) (id : NodeId) {f : Node -> Node}
    (keeps : ∀ node, (f node).written = node.written) (name : ∀ node, (f node).name = node.name) :
    model.Retains (model.changeNode id f) :=
  ⟨size_changeNode .., fun other => keeps_changeNode Node.written model id other keeps, rfl,
    fun _ => rfl, fun _ => rfl, rfl, rfl, .refl _, fun other _ there =>
      .inl ((keeps_changeNode Node.name model id other name).symm.trans there)⟩

theorem retains_setType (model : Model) (scope : ScopeId) (id : NodeId) :
    model.Retains { model with scopes := model.scopes.setType scope id } :=
  ⟨rfl, fun _ => rfl, Scopes.size_setType .., fun _ => Scopes.parent_setType ..,
    fun other => Scopes.keeps_change Scope.home model.scopes scope other fun _ => rfl, rfl, rfl,
    .of_tables fun _ _ => Scopes.table_setType .., fun _ _ => .inl⟩

theorem retains_enter (model : Model) {id : NodeId} {kind : Symbols} {name : QName}
    (symbols : (model.node id).kind.symbols? = some kind) (uri : name.uri = model.targetUri id) :
    model.Retains (model.enter id kind name) := by
  have written (other : NodeId) :
      ((model.enter id kind name).node other).written = (model.node other).written :=
    keeps_changeNode Node.written model id other fun _ => rfl
  have parent (other : ScopeId) : ((model.enter id kind name).scopes.get other).parent =
      (model.scopes.get other).parent := Scopes.parent_changeTable ..
  refine ⟨size_changeNode .., written, Scopes.size_changeTable .., parent,
    fun _ => Scopes.home_changeTable .., rfl, rfl, Scopes.Grows.add _ _ _ _ _, fun other label there => ?_⟩
  have named : (model.enter id kind name).node other =
      if other = id ∧ other.index < model.nodes.size then { model.node other with name := some name }
      else model.node other := node_changeNode ..
  rw [named] at there
  split at there
  next same =>
    obtain ⟨rfl, -⟩ := same
    obtain rfl : name = label := Option.some.inj there
    refine .inr ⟨fun schema => ?_, uri, fun inside => ⟨kind, ?_, ?_⟩⟩
    · rw [schema] at symbols
      cases symbols
    · exact (congrArg Kind.symbols? (Node.kind_of_written (written other))).trans symbols
    · have scopes : (model.enter other kind name).scopes =
          model.scopes.define (model.node other).scope kind name other (model.node other).occurs :=
        rfl
      rw [Node.scope_of_written (written other), Scopes.surrounding, parent, ← Scopes.surrounding,
        scopes, Scopes.define, Scopes.add, Scopes.table_changeTable_self _ _ _ inside,
        SymbolTable.add, Table.get?_put_self]
      exact Option.some_ne_none _
  next => exact .inl there

theorem retains_declareName (model : Model) {id : NodeId} {kind : Symbols}
    (symbols : (model.node id).kind.symbols? = some kind) :
    model.Retains (model.declareName id kind).state := by
  unfold declareName
  dsimp only
  split
  next => exact .refl _
  next written _ =>
    split
    next => exact .refl _
    next => exact retains_enter model symbols rfl

theorem retains_setOccurs (model : Model) (id : NodeId) (occurs : Occurs) :
    model.Retains (model.setOccurs id occurs) :=
  retains_changeNode model id (fun _ => rfl) fun _ => rfl

theorem retains_declareOccurs (model : Model) (id : NodeId) :
    model.Retains (model.declareOccurs id).state := by
  unfold declareOccurs
  dsimp only
  split
  next => exact .refl _
  next => exact retains_setOccurs ..

theorem retains_andThen {attempt : Attempt Model} {next : Model -> Attempt Model} {model : Model}
    (first : model.Retains attempt.state)
    (second : ∀ between : Model, model.Retains between -> between.Retains (next between).state) :
    model.Retains (attempt.andThen next).state := by
  unfold Attempt.andThen
  split
  · exact first.trans (second _ first)
  · exact first

theorem retains_declareType (model : Model) {id : NodeId}
    (symbols : (model.node id).kind.symbols? = some .types) :
    model.Retains (model.declareType id).state := by
  unfold declareType
  split
  next => exact retains_declareName model symbols
  next =>
    unfold declareNamelessType
    dsimp only [Attempt.done]
    split
    next => exact retains_changeNode model _ (fun _ => rfl) fun _ => rfl
    next =>
      split
      · exact retains_setType ..
      · exact .refl _

theorem retains_declareEnumeration (model : Model) (id : NodeId) :
    model.Retains (model.declareEnumeration id).state := by
  unfold declareEnumeration
  split
  next => exact .refl _
  next =>
    split
    · exact retains_changeNode model _ (fun _ => rfl) fun _ => rfl
    · exact .refl _

theorem retains_markWildcard (model : Model) (id : NodeId) {mark : Node -> Node}
    (keeps : ∀ node, (mark node).written = node.written)
    (name : ∀ node, (mark node).name = node.name) : model.Retains (model.markWildcard id mark) := by
  unfold markWildcard
  split
  · exact retains_changeNode model _ keeps name
  · exact .refl _

theorem retains_declare (model : Model) (id : NodeId) :
    model.Retains (model.declare id).state := by
  have bounded := retains_declareOccurs model id
  have named (between : Model) (retains : model.Retains between) {kind : Symbols}
      (symbols : (model.node id).kind.symbols? = some kind) :
      between.Retains (between.declareName id kind).state := by
    refine retains_declareName between ?_
    rw [Node.kind_of_written (retains.written id)]
    exact symbols
  have setOccurs := retains_setOccurs model id
  unfold declare
  cases kind : (model.node id).kind with
  | element =>
      exact retains_andThen bounded fun between retains => named between retains (by rw [kind]; rfl)
  | attributeTag => exact (setOccurs _).trans (named _ (setOccurs _) (by rw [kind]; rfl))
  | complexType => exact retains_declareType model (by rw [kind]; rfl)
  | simpleType => exact retains_declareType model (by rw [kind]; rfl)
  | group =>
      exact retains_andThen bounded fun between retains => named between retains (by rw [kind]; rfl)
  | attributeGroup => exact named model (.refl model) (by rw [kind]; rfl)
  | sequence => exact bounded
  | choice => exact bounded
  | all => exact bounded
  | any =>
      exact retains_andThen bounded fun between _ =>
        retains_markWildcard between id (fun _ => rfl) fun _ => rfl
  | anyAttribute => exact retains_markWildcard model id (fun _ => rfl) fun _ => rfl
  | enumeration => exact retains_declareEnumeration ..
  | _ => exact .refl _

def registerRoot (model : Model) (document : Document) : Model × Option NamespaceId :=
  let prefixes := document.prefixes.getD .empty
  ((model.register (some (prefixes.targetUri.getD "")) (some document.url.text)
    none).1.registerPrefixes prefixes.bound).registerDefault prefixes.defaultUri

def newSource (model : Model) (document : Document) : Source :=
  let prefixes := document.prefixes.getD .empty
  ⟨document.url, document.requested,
    (model.register (some (prefixes.targetUri.getD "")) (some document.url.text) none).2,
    (model.registerRoot document).2, prefixes⟩

theorem declareSource_eq (model : Model) (document : Document) (id : NodeId) :
    model.declareSource document id =
      ({ (model.registerRoot document).1 with
          sources := (model.registerRoot document).1.sources.push (model.newSource document)
          namespaces := (model.registerRoot document).1.namespaces.addSource
            (model.newSource document).target
            ⟨(model.registerRoot document).1.sources.size⟩ }.changeNode id fun node =>
          { node with
            source := some ⟨(model.registerRoot document).1.sources.size⟩
            scope := ((model.registerRoot document).1.namespaces.get
              (model.newSource document).target).root },
        ⟨(model.registerRoot document).1.sources.size⟩) := rfl

theorem getD_push_source (model : Model) (source : Source) (other : SourceId) :
    (model.sources.push source)[other.index]?.getD default =
      if other.index = model.sources.size then source else model.source other :=
  Numbered.getD_push ..

theorem getD_push_source_of_lt (model : Model) (source : Source) {other : SourceId}
    (inside : other.index < model.sources.size) :
    (model.sources.push source)[other.index]?.getD default = model.source other := by
  rw [getD_push_source, if_neg (Nat.ne_of_lt inside)]

theorem source_declareSource (model : Model) (document : Document) (id : NodeId) :
    (model.declareSource document id).2.index < (model.declareSource document id).1.sources.size ∧
      ((model.declareSource document id).1.source
        (model.declareSource document id).2).prefixes = document.prefixes.getD .empty := by
  unfold declareSource
  dsimp only [changeNode, Model.source]
  simp

theorem stores_registerPrefixes (model : Model) (bound : List (String × String)) :
    (model.registerPrefixes bound).nodes = model.nodes ∧
      (model.registerPrefixes bound).sources = model.sources := by
  induction bound generalizing model with
  | nil => exact ⟨rfl, rfl⟩
  | cons entry rest ih => exact ih (model.register (some entry.2) none (some entry.1)).1

theorem stores_registerDefault (model : Model) (uri : Option String) :
    (model.registerDefault uri).1.nodes = model.nodes ∧
      (model.registerDefault uri).1.sources = model.sources := by
  unfold registerDefault
  split <;> exact ⟨rfl, rfl⟩

theorem stores_registerRoot (model : Model) (document : Document) :
    (model.registerRoot document).1.nodes = model.nodes ∧
      (model.registerRoot document).1.sources = model.sources := by
  unfold registerRoot
  dsimp only
  obtain ⟨nodes, sources⟩ := stores_registerDefault ((model.register
    (some ((document.prefixes.getD .empty).targetUri.getD "")) (some document.url.text)
    none).1.registerPrefixes (document.prefixes.getD .empty).bound)
    (document.prefixes.getD .empty).defaultUri
  rw [nodes, sources]
  exact stores_registerPrefixes ..

structure Still (old new : Model) : Prop where
  size : new.nodes.size = old.nodes.size
  told : ∀ id, (new.node id).told = (old.node id).told
  scopes : new.scopes = old.scopes
  namespaces : new.namespaces = old.namespaces
  sources : new.sources = old.sources

theorem Still.refl (model : Model) : model.Still model := ⟨rfl, fun _ => rfl, rfl, rfl, rfl⟩

theorem Still.trans {one two three : Model} (first : one.Still two) (second : two.Still three) :
    one.Still three where
  size := second.size.trans first.size
  told id := (second.told id).trans (first.told id)
  scopes := second.scopes.trans first.scopes
  namespaces := second.namespaces.trans first.namespaces
  sources := second.sources.trans first.sources

theorem still_changeNode (model : Model) (id : NodeId) {f : Node -> Node}
    (keeps : ∀ node, (f node).told = node.told) : model.Still (model.changeNode id f) :=
  ⟨size_changeNode .., fun other => keeps_changeNode Node.told model id other keeps, rfl, rfl, rfl⟩

theorem still_document (model : Model) (id : NodeId) :
    model.Still (Reading.document model id) := by
  unfold Reading.document
  dsimp only
  split
  · split
    · exact still_changeNode model _ fun _ => rfl
    · exact .refl _
  · exact .refl _

theorem still_defer (model : Model) (id : NodeId) : model.Still (model.defer id) :=
  ⟨rfl, fun _ => rfl, rfl, rfl, rfl⟩

end Model

theorem Reading.closeNode_still (draft : Draft) (id : NodeId) :
    ∃ model tasks, closeNode draft id = ⟨model, { draft.document with tasks := tasks }⟩ ∧
      draft.model.Still model := by
  have noted := Model.still_document draft.model id
  unfold closeNode
  dsimp only
  split
  · exact ⟨_, _, rfl, noted.trans (Model.still_defer ..)⟩
  · exact ⟨_, draft.document.tasks, rfl, noted.trans (Model.still_changeNode _ id fun _ => rfl)⟩

namespace Draft

def Around (draft : Draft) (outer : ScopeId) (id : NodeId) : Prop :=
  id.index < draft.model.nodes.size ∧ (draft.model.node id).scope = outer ∧
    (draft.model.node id).source = draft.document.source

def withTag (draft : Draft) (outer : ScopeId) (node : Node) : Draft :=
  ⟨{ draft.model with scopes := draft.model.scopes.createChild outer }.addNode node, draft.document⟩

/-- What one event does to a draft, as far as it goes. -/
inductive Move : Draft -> Attempt Draft -> Prop where
  | root (draft : Draft) (attributes : List (String × String)) :
      Move draft (.done ⟨draft.model, draft.document.withRoot attributes⟩)
  | still (draft : Draft) (model : Model) (tasks : Array TaskId)
      (still : draft.model.Still model) :
      Move draft (.done ⟨model, { draft.document with tasks := tasks }⟩)
  | body (draft : Draft) (outer : ScopeId) (skipped : Array Skipped) :
      Move draft (.done ⟨{ draft.model with
        scopes := draft.model.scopes.createChild outer
        skipped := skipped }, draft.document⟩)
  | tag (draft : Draft) (outer : ScopeId) (node : Node) (fresh : node.written = node)
      (scope : node.scope = draft.model.scopes.next)
      (source : node.source = draft.document.source) (read : draft.document.prefixes ≠ none)
      (outermost : draft.document.source = none -> node.kind = .schema)
      (inside : node.kind ≠ .schema ->
        ∃ parent, node.parent = some parent ∧ draft.Around outer parent) :
      Move draft ((draft.withTag outer node).declare draft.model.nextNode)

def Goes (old new : Draft) : Prop := Move old (.done new)

def Gets (old new : Draft) : Prop := ∃ attempt, Move old attempt ∧ attempt.state = new

structure Moves (draft : Draft) (attempt : Attempt Draft) : Prop where
  gets : ∃ between, Relation.ReflTransGen Goes draft between ∧
    (attempt.state = between ∨ Gets between attempt.state)
  goes : attempt.failure = none -> Relation.ReflTransGen Goes draft attempt.state

variable {draft : Draft}

theorem Moves.refl (draft : Draft) : draft.Moves (.done draft) :=
  ⟨⟨draft, .refl, .inl rfl⟩, fun _ => .refl⟩

theorem Moves.stopped (draft : Draft) (failure : Failure) :
    draft.Moves (.stopped draft failure) :=
  ⟨⟨draft, .refl, .inl rfl⟩, fun going => by cases going⟩

theorem Moves.single {attempt : Attempt Draft} (move : Move draft attempt) :
    draft.Moves attempt := by
  refine ⟨⟨draft, .refl, .inr ⟨attempt, move, rfl⟩⟩, fun going => .single ?_⟩
  obtain ⟨state, failure⟩ := attempt
  cases going
  exact move

theorem Moves.after {next : Draft} (before : Relation.ReflTransGen Goes draft next)
    {attempt : Attempt Draft} (moves : next.Moves attempt) : draft.Moves attempt := by
  obtain ⟨between, further, last⟩ := moves.gets
  exact ⟨⟨between, before.trans further, last⟩, fun going => before.trans (moves.goes going)⟩

theorem node_withTag (draft : Draft) (outer : ScopeId) (node : Node) (id : NodeId) :
    (draft.withTag outer node).model.node id =
      if id = draft.model.nextNode then node else draft.model.node id :=
  Model.node_addNode ..

theorem kind_withTag (draft : Draft) (outer : ScopeId) (node : Node) :
    ((draft.withTag outer node).model.node draft.model.nextNode).kind = node.kind := by
  rw [node_withTag, if_pos rfl]

theorem document_registerImport (draft : Draft) (id : NodeId) :
    (draft.registerImport id).document = draft.document := by
  unfold registerImport
  split <;> rfl

theorem source_declareImport (draft : Draft) (id : NodeId) :
    (draft.declareImport id).state.document.source = draft.document.source := by
  have register := congrArg Document.source (draft.document_registerImport id)
  unfold declareImport
  dsimp only
  split
  next => exact register
  next => split <;> exact register

theorem source_declare {id : NodeId}
    (outermost : draft.document.source = none -> (draft.model.node id).kind = .schema) :
    (draft.declare id).state.document.source ≠ none := by
  by_cases schema : (draft.model.node id).kind = .schema
  next => exact source_declareSchema schema
  next =>
    have begun : draft.document.source ≠ none := fun none_ => schema (outermost none_)
    unfold declare
    split
    next kind => exact absurd kind schema
    next => exact source_declareImport draft id ▸ begun
    next => exact source_declareImport draft id ▸ begun
    next => exact begun

/-- What a tag that opens does: a schema tag makes its document's source or is refused, an import or
an include makes a namespace known and asks for a document, and all others are about the model. -/
inductive Tells (draft : Draft) (id : NodeId) : Draft -> Prop where
  | source (kind : (draft.model.node id).kind = .schema) (unsourced : draft.document.source = none) :
      Tells draft id ⟨(draft.model.declareSource draft.document id).1,
        { draft.document with source := some (draft.model.declareSource draft.document id).2 }⟩
  | second (kind : (draft.model.node id).kind = .schema)
      (sourced : draft.document.source ≠ none) : Tells draft id draft
  | request (kind : (draft.model.node id).kind ≠ .schema) (imports : Array Import) :
      Tells draft id ⟨(draft.registerImport id).model, { draft.document with imports := imports }⟩
  | other (kind : (draft.model.node id).kind ≠ .schema) :
      Tells draft id ⟨(draft.model.declare id).state, draft.document⟩

theorem tells_declareImport {id : NodeId} (kind : (draft.model.node id).kind ≠ .schema) :
    draft.Tells id (draft.declareImport id).state := by
  have same : draft.registerImport id = ⟨(draft.registerImport id).model, draft.document⟩ :=
    congrArg (Draft.mk (draft.registerImport id).model) (draft.document_registerImport id)
  have unchanged : draft.Tells id (draft.registerImport id) := by
    rw [same]
    exact .request kind draft.document.imports
  unfold declareImport
  dsimp only
  split
  next => exact unchanged
  next =>
    split
    next => exact unchanged
    next =>
      rw [same]
      exact .request kind _

theorem tells_declare (draft : Draft) (id : NodeId) : draft.Tells id (draft.declare id).state := by
  unfold declare
  split
  next kind =>
    unfold declareSchema
    split
    next sourced => exact .second kind (Option.isSome_iff_ne_none.mp sourced)
    next unsourced => exact .source kind (Option.not_isSome_iff_eq_none.mp unsourced)
  next kind => exact tells_declareImport (by simp [kind])
  next kind => exact tells_declareImport (by simp [kind])
  next schema _ _ => exact .other schema

theorem registerImport_sources (draft : Draft) (id : NodeId) :
    (draft.registerImport id).model.nodes = draft.model.nodes ∧
      (draft.registerImport id).model.sources = draft.model.sources := by
  unfold registerImport
  split <;> exact ⟨rfl, rfl⟩

theorem stopped_second {id : NodeId} (kind : (draft.model.node id).kind = .schema)
    (sourced : draft.document.source ≠ none) : (draft.declare id).failure ≠ none := by
  unfold declare declareSchema
  rw [kind]
  dsimp only
  rw [if_pos (Option.isSome_iff_ne_none.mpr sourced)]
  exact Option.some_ne_none _

structure Opened (id : NodeId) (old new : Draft) : Prop where
  size : new.model.nodes.size = old.model.nodes.size
  others : ∀ other, other ≠ id ->
    (new.model.node other).written = (old.model.node other).written
  kind : (new.model.node id).kind = (old.model.node id).kind
  begun : old.document.source ≠ none -> new.document.source = old.document.source
  home : id.index < old.model.nodes.size ->
    (old.model.node id).source = old.document.source ->
      (new.model.node id).source = new.document.source

theorem Tells.opened {id : NodeId} {new : Draft} (tells : draft.Tells id new) :
    Opened id draft new := by
  cases tells with
  | source kind unsourced =>
      have nodes := (draft.model.stores_registerRoot draft.document).1
      rw [Model.declareSource_eq]
      generalize (draft.model.registerRoot draft.document).1 = root at nodes
      refine ⟨(Model.size_changeNode ..).trans (congrArg Array.size nodes), fun other apart => ?_,
        ?_, fun sourced => absurd unsourced sourced, fun inside _ => ?_⟩
      · dsimp only
        rw [Model.node_changeNode, if_neg fun same => apart same.1]
        exact congrArg Node.written (node_congr nodes other)
      · rw [← node_congr nodes id]
        exact Model.keeps_changeNode Node.kind _ id id fun _ => rfl
      · dsimp only
        rw [Model.node_changeNode, if_pos ⟨rfl, nodes ▸ inside⟩]
  | second => exact ⟨rfl, fun _ _ => rfl, rfl, fun _ => rfl, fun _ home => home⟩
  | request kind imports =>
      have nodes := (registerImport_sources draft id).1
      have node := node_congr nodes
      exact ⟨congrArg Array.size nodes, fun other _ => congrArg Node.written (node other),
        congrArg Node.kind (node id), fun _ => rfl,
        fun _ home => (congrArg Node.source (node id)).trans home⟩
  | other kind =>
      have retains := Model.retains_declare draft.model id
      exact ⟨retains.size, fun other _ => retains.written other,
        Node.kind_of_written (retains.written id), fun _ => rfl,
        fun _ home => (Node.source_of_written (retains.written id)).trans home⟩

end Draft

namespace Reading

structure Placed (reading : Reading) : Prop where
  outside : reading.draft.document.source = none ->
    ∀ frame ∈ reading.frames, ∀ kind, frame.place ≠ some (.tag kind)
  inside : ∀ frame ∈ reading.frames, ∀ kind, frame.place = some (.tag kind) ->
    ∃ id, frame.node = some id ∧ reading.draft.Around frame.scope id

structure Moved (reading : Reading) (attempt : Attempt Reading) : Prop where
  moves : reading.draft.Moves (attempt.map Reading.draft)
  placed : attempt.failure = none -> attempt.state.Placed

section

variable {reading : Reading}

theorem placed_start (model : Model) (document : Document) :
    (Reading.start model document).Placed := by
  constructor
  · intro _ frame member kind same
    rw [List.mem_singleton.mp member] at same
    cases same
  · intro frame member kind same
    rw [List.mem_singleton.mp member] at same
    cases same

theorem Moved.stopped (reading : Reading) (failure : Failure) :
    reading.Moved (.stopped reading failure) :=
  ⟨.stopped _ failure, fun going => by cases going⟩

theorem Placed.mono {other : Reading} (placed : reading.Placed)
    (source : other.draft.document.source = reading.draft.document.source)
    (size : reading.model.nodes.size ≤ other.model.nodes.size)
    (written : ∀ id : NodeId, id.index < reading.model.nodes.size ->
      (other.model.node id).written = (reading.model.node id).written)
    (frames : ∀ frame ∈ other.frames, frame ∈ reading.frames) : other.Placed where
  outside none_ frame member := placed.outside (source ▸ none_) frame (frames frame member)
  inside frame member kind place := by
    obtain ⟨id, node, within, scope, home⟩ := placed.inside frame (frames frame member) kind place
    have same := written id within
    refine ⟨id, node, Nat.lt_of_lt_of_le within size, ?_, ?_⟩
    · exact (Node.scope_of_written same).trans scope
    · exact (Node.source_of_written same).trans (home.trans source.symm)

theorem source_withRoot (document : Document) (attributes : List (String × String)) :
    (document.withRoot attributes).source = document.source := by
  unfold Document.withRoot
  split <;> rfl

theorem Placed.rooted (placed : reading.Placed) (attributes : List (String × String)) :
    (reading.rooted attributes).Placed :=
  placed.mono (source_withRoot _ _) (Nat.le_refl _) (fun _ _ => rfl) fun _ member => member

theorem Placed.plain (placed : reading.Placed) {place : Option Place} {scope : ScopeId}
    {capture : Option NodeId} (free : place = none ∨ place = some .anything) (outer : ScopeId)
    (skipped : Array Skipped) :
    reading.Moved (.done
      ⟨⟨{ reading.model with
            scopes := reading.model.scopes.createChild outer, skipped := skipped },
          reading.draft.document⟩,
        ⟨place, scope, none, capture⟩ :: reading.frames⟩) := by
  have aside {kind : Kind} : place ≠ some (.tag kind) := by
    rintro rfl
    rcases free with none_ | free
    · cases none_
    · cases free
  refine ⟨.single (.body reading.draft outer skipped), fun _ => ⟨?_, ?_⟩⟩
  · intro none_ frame member kind same
    rcases List.mem_cons.mp member with rfl | further
    · exact aside same
    · exact placed.outside none_ frame further kind same
  · intro frame member kind same
    rcases List.mem_cons.mp member with rfl | further
    · exact absurd same aside
    · exact placed.inside frame further kind same

theorem Placed.opens (placed : reading.Placed) {outer : Frame} {rest : List Frame}
    (frames : reading.frames = outer :: rest) {kind : Kind} {name : QName}
    (child : (outer.place.bind fun place => place.child name) = some (.tag kind))
    (plain : kind ≠ .schema) :
    ∃ parent, reading.nearestNode = some parent ∧ reading.draft.Around outer.scope parent ∧
      ∃ around, outer.place = some (.tag around) := by
  obtain ⟨place, there, member⟩ : ∃ place, outer.place = some place ∧ kind ∈ place.childKinds := by
    obtain ⟨place, there, child⟩ := Option.bind_eq_some_iff.mp child
    exact ⟨place, there, Place.mem_childKinds child⟩
  cases place with
  | document => exact absurd (by simpa [Place.childKinds, Place.content] using member) plain
  | anything => simp [Place.childKinds, Place.content] at member
  | tag around =>
      obtain ⟨parent, node, inside⟩ := placed.inside outer (frames ▸ List.mem_cons_self) around there
      refine ⟨parent, ?_, inside, around, there⟩
      unfold nearestNode
      rw [frames, List.findSome?_cons, node]

theorem Placed.openNode (placed : reading.Placed) (read : reading.draft.document.prefixes ≠ none)
    (line : Nat) (attributes : List (String × String)) {outer : Frame} {rest : List Frame}
    (frames : reading.frames = outer :: rest) {kind : Kind} {name : QName}
    (child : (outer.place.bind fun place => place.child name) = some (.tag kind)) :
    reading.Moved (reading.openNode line attributes outer kind) := by
  let node : Node := { Node.fresh kind reading.model.scopes.next with
    attributes := .keep kind attributes
    source := reading.draft.document.source
    line := line
    parent := reading.nearestNode }
  -- before the schema tag has opened no frame is that of a tag in which others may stand
  have outermost (none_ : reading.draft.document.source = none) : kind = .schema := by
    refine Decidable.byContradiction fun plain => ?_
    obtain ⟨_, _, _, around, there⟩ := placed.opens frames child plain
    exact placed.outside none_ outer (frames ▸ List.mem_cons_self) around there
  have inside (plain : kind ≠ .schema) :
      ∃ parent, node.parent = some parent ∧ reading.draft.Around outer.scope parent := by
    obtain ⟨parent, nearest, around, -⟩ := placed.opens frames child plain
    exact ⟨parent, nearest, around⟩
  have move := Draft.Moves.single
    (.tag reading.draft outer.scope node rfl rfl rfl read outermost inside)
  have sourced := @Draft.source_declare (reading.draft.withTag outer.scope node)
    reading.model.nextNode fun none_ => (Draft.kind_withTag ..).trans (outermost none_)
  have size : (reading.draft.withTag outer.scope node).model.nodes.size =
      reading.model.nodes.size + 1 := Model.size_addNode ..
  have opened := (Draft.tells_declare (reading.draft.withTag outer.scope node)
    reading.model.nextNode).opened
  unfold Reading.openNode
  dsimp only
  split
  next failure stopped => exact ⟨⟨move.gets, fun going => by cases going⟩, fun going => by cases going⟩
  next going =>
    refine ⟨⟨move.gets, fun _ => move.goes going⟩, fun _ => ⟨fun none_ => absurd none_ sourced, ?_⟩⟩
    have next : reading.model.nextNode.index < (reading.draft.withTag outer.scope node).model.nodes.size :=
      size ▸ Nat.lt_succ_self _
    intro frame member kind place
    rcases List.mem_cons.mp member with rfl | further
    · refine ⟨_, rfl, Nat.lt_of_lt_of_eq next opened.size.symm, rfl, opened.home next ?_⟩
      exact congrArg Node.source ((Draft.node_withTag ..).trans (if_pos rfl))
    · -- an open tag is one from before, in a document that had a source then
      obtain ⟨id, node_, within, scope, source⟩ := placed.inside frame further kind place
      have there : reading.draft.document.source ≠ none := fun none_ =>
        placed.outside none_ frame further kind place
      have apart : id ≠ reading.model.nextNode := by
        rintro rfl
        exact Nat.lt_irrefl _ within
      have old : (reading.draft.withTag outer.scope node).model.node id =
          reading.draft.model.node id := (Draft.node_withTag ..).trans (if_neg apart)
      have written := opened.others id apart
      rw [old] at written
      refine ⟨id, node_, ?_, (Node.scope_of_written written).trans scope,
        (Node.source_of_written written).trans (source.trans (opened.begun there).symm)⟩
      exact Nat.lt_of_lt_of_eq (Nat.lt_succ_of_lt within) (size.symm.trans opened.size.symm)

theorem Placed.still (placed : reading.Placed) {model : Model} (still : reading.model.Still model)
    (tasks : Array TaskId) {frames : List Frame}
    (further : ∀ frame ∈ frames, frame ∈ reading.frames) :
    reading.Moved (.done ⟨⟨model, { reading.draft.document with tasks := tasks }⟩, frames⟩) :=
  ⟨.single (.still reading.draft model tasks still), fun _ =>
    placed.mono rfl (Nat.le_of_eq still.size.symm)
      (fun id _ => Node.written_of_told (still.told id)) further⟩

theorem Placed.addText (placed : reading.Placed) (content : String) :
    reading.Moved (.done (reading.addText content)) := by
  unfold Reading.addText
  split
  next id _ =>
    refine placed.still ?_ reading.draft.document.tasks fun _ member => member
    exact Model.still_changeNode reading.model id fun _ => rfl
  next => exact ⟨.refl _, fun _ => placed⟩

theorem Placed.step (placed : reading.Placed) (limits : Limits) (item : Markup.Item) :
    reading.Moved (reading.step limits item) := by
  -- what the root tag says is settled by a move of its own
  have after {attributes : List (String × String)} {attempt : Attempt Reading}
      (moved : (reading.rooted attributes).Moved attempt) : reading.Moved attempt :=
    ⟨moved.moves.after (.single (.root reading.draft attributes)), moved.placed⟩
  have outcome := reading.outcome_step limits item
  generalize reading.step limits item = attempt at outcome ⊢
  cases outcome with
  | stopped failure => exact .stopped reading failure
  | misplaced attributes failure => exact after (.stopped (reading.rooted attributes) failure)
  | node opens around child =>
      exact after ((placed.rooted _).openNode (Document.prefixes_withRoot _ _) _ _ around child)
  | plain name skipped opens around free => exact after ((placed.rooted _).plain free _ skipped)
  | text takes => exact placed.addText _
  | closes closing frames node =>
      obtain ⟨model, tasks, closed, still⟩ := closeNode_still reading.draft _
      rw [closed]
      exact placed.still still tasks fun _ member => frames ▸ List.mem_cons_of_mem _ member
  | passes closing frames node =>
      exact placed.still (.refl _) reading.draft.document.tasks fun _ member =>
        frames ▸ List.mem_cons_of_mem _ member

theorem Placed.steps (placed : reading.Placed) (limits : Limits) (items : List Markup.Item) :
    reading.Moved (reading.steps limits items) := by
  induction items generalizing reading with
  | nil => exact ⟨.refl _, fun _ => placed⟩
  | cons item rest ih =>
      have first := placed.step limits item
      unfold Reading.steps
      dsimp only
      split
      next going =>
        have next := ih (first.placed going)
        exact ⟨next.moves.after (first.moves.goes going), next.placed⟩
      next => exact first

end

end Reading

namespace Draft

variable {draft : Draft}

/-- Reading a document is a run of moves. -/
theorem moves_read (draft : Draft) (limits : Limits) (bytes : List UInt8) :
    draft.Moves (draft.read limits bytes) ∧ ((draft.read limits bytes).failure = none ->
      (draft.read limits bytes).state.document.source ≠ none) := by
  have placed := Reading.placed_start draft.model draft.document
  have moved := (placed.steps limits (Markup.scan bytes).items).moves
  refine ⟨⟨?_, fun ended => ?_⟩, fun ended => ?_⟩
  · rw [state_read]
    exact moved.gets
  · rw [state_read]
    exact moved.goes (ended_read ended).1
  · rw [state_read]
    exact (ended_read ended).2.2

theorem Moves.keeps_until {attempt : Attempt Draft} (moves : draft.Moves attempt)
    {fit holds : Draft -> Prop} (start : fit draft)
    (step : ∀ {before : Draft} {after : Attempt Draft}, Move before after -> fit before ->
      holds after.state)
    (goes : ∀ {before : Draft} {after : Attempt Draft}, Move before after ->
      after.failure = none -> fit before -> fit after.state)
    (enough : ∀ {draft : Draft}, fit draft -> holds draft) : holds attempt.state := by
  obtain ⟨between, going, last⟩ := moves.gets
  have before : fit between := by
    clear last
    induction going with
    | refl => exact start
    | tail _ move ih => exact goes move rfl ih
  rcases last with same | ⟨after, move, same⟩
  · exact same ▸ enough before
  · exact same ▸ step move before

theorem Moves.keeps {attempt : Attempt Draft} (moves : draft.Moves attempt) {holds : Draft -> Prop}
    (start : holds draft)
    (step : ∀ {before : Draft} {after : Attempt Draft}, Move before after -> holds before ->
      holds after.state) : holds attempt.state :=
  moves.keeps_until start step (fun move _ => step move) fun holds => holds

theorem Moves.keeps_going {attempt : Attempt Draft} (moves : draft.Moves attempt)
    (going : attempt.failure = none) {holds : Draft -> Prop} (start : holds draft)
    (step : ∀ {before : Draft} {after : Attempt Draft}, Move before after ->
      after.failure = none -> holds before -> holds after.state) : holds attempt.state := by
  have goes := moves.goes going
  generalize attempt.state = ended at goes
  clear moves going
  induction goes with
  | refl => exact start
  | tail _ goes ih => exact step goes rfl ih

end Draft

end XmlSchema

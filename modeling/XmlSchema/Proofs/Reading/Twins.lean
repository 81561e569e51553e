import XmlSchema.Proofs.Reading.Header
import XmlSchema.Proofs.Reading.Moves

set_option autoImplicit false

namespace XmlSchema

variable {first : Nat} {here there : Option String}

namespace Node

structure Twins (here there : Option String) (node twin : Node) : Prop where
  same : twin = { node with scope := twin.scope, name := twin.name }
  names : ∃ written : Option String,
    node.name = written.map (QName.mk here) ∧ twin.name = written.map (QName.mk there)

def Plain (f : Node -> Node) : Prop :=
  ∀ node scope name, f { node with scope := scope, name := name } =
    { f node with scope := scope, name := name }

theorem Plain.name {f : Node -> Node} (plain : Plain f) (node : Node) : (f node).name = node.name :=
  (congrArg Node.name (plain node node.scope node.name) :)

theorem Twins.map {node twin : Node} (twins : node.Twins here there twin) {f : Node -> Node}
    (plain : Plain f) : (f node).Twins here there (f twin) := by
  have scope : (f twin).scope = twin.scope :=
    (congrArg Node.scope (plain twin twin.scope twin.name) :)
  constructor
  next =>
    rw [scope, plain.name twin, ← plain node, ← twins.same]
  next =>
    rw [plain.name, plain.name]
    exact twins.names

end Node

namespace Model

/-- Models that differ in what has been read since there were so many nodes, and there in scopes,
namespaces and the namespaces of names alone. -/
structure Twins (first : Nat) (here there : Option String) (model twin : Model) : Prop where
  size : twin.nodes.size = model.nodes.size
  grown : first ≤ model.nodes.size
  before : ∀ id : NodeId, id.index < first -> twin.node id = model.node id
  since : ∀ id : NodeId, first ≤ id.index -> (model.node id).Twins here there (twin.node id)
  sources : twin.sources.size = model.sources.size
  queue : twin.queue = model.queue
  skipped : twin.skipped.map (fun skipped => (skipped.position, skipped.name.localName)) =
    model.skipped.map fun skipped => (skipped.position, skipped.name.localName)

def Rescoped (old new : Model) : Prop :=
  new = { old with namespaces := new.namespaces, scopes := new.scopes }

theorem Rescoped.refl (model : Model) : model.Rescoped model := rfl

theorem Rescoped.trans {one two three : Model} (former : one.Rescoped two)
    (latter : two.Rescoped three) : one.Rescoped three := by
  unfold Rescoped at former latter ⊢
  rw [former] at latter
  exact latter

namespace Twins

variable {model twin : Model}

theorem same (twins : model.Twins first here there twin) (id : NodeId) :
    twin.node id =
      { model.node id with scope := (twin.node id).scope, name := (twin.node id).name } := by
  by_cases since : first ≤ id.index
  next => exact (twins.since id since).same
  next => rw [twins.before id (Nat.lt_of_not_le since)]

theorem kind (twins : model.Twins first here there twin) (id : NodeId) :
    (twin.node id).kind = (model.node id).kind :=
  (congrArg Node.kind (twins.same id) :)

theorem parent (twins : model.Twins first here there twin) (id : NodeId) :
    (twin.node id).parent = (model.node id).parent :=
  (congrArg Node.parent (twins.same id) :)

theorem source (twins : model.Twins first here there twin) (id : NodeId) :
    (twin.node id).source = (model.node id).source :=
  (congrArg Node.source (twins.same id) :)

theorem attribute? (twins : model.Twins first here there twin) (id : NodeId) (name : String) :
    (twin.node id).attribute? name = (model.node id).attribute? name :=
  (congrArg (fun node => node.attribute? name) (twins.same id) :)

theorem ancestors (twins : model.Twins first here there twin) (id : NodeId) :
    twin.ancestors id = model.ancestors id := by
  fun_induction Model.ancestors model id with
  | case1 id outermost =>
    rw [Model.ancestors, twins.parent, outermost]
  | case2 id parent inside lower ih =>
    rw [Model.ancestors, twins.parent, inside]
    simp only [lower, ↓reduceIte, ih]
  | case3 id parent inside higher =>
    rw [Model.ancestors, twins.parent, inside]
    simp only [higher, ↓reduceIte]

theorem enclosing (twins : model.Twins first here there twin) (id : NodeId)
    (accepts : Kind -> Bool) : twin.enclosing id accepts = model.enclosing id accepts := by
  simp only [Model.enclosing, twins.ancestors, twins.kind]

theorem fed (twins : model.Twins first here there twin) (id : NodeId) :
    twin.fed id = model.fed id := by
  simp only [Model.fed, twins.ancestors, twins.kind]

theorem changeBoth (twins : model.Twins first here there twin) {id : NodeId}
    (own : first ≤ id.index) {f g : Node -> Node}
    (pair : ∀ node other : Node, node.Twins here there other ->
      (f node).Twins here there (g other)) :
    (model.changeNode id f).Twins first here there (twin.changeNode id g) where
  size := by simpa using twins.size
  grown := by simpa using twins.grown
  before other below := by
    have apart : other ≠ id := by
      rintro rfl
      omega
    simpa [node_changeNode, apart] using twins.before other below
  since other above := by
    rw [node_changeNode, node_changeNode, twins.size]
    split
    next => exact pair _ _ (twins.since other above)
    next => exact twins.since other above
  sources := twins.sources
  queue := twins.queue
  skipped := twins.skipped

theorem changeNode (twins : model.Twins first here there twin) (id : NodeId) {f : Node -> Node}
    (plain : Node.Plain f) :
    (model.changeNode id f).Twins first here there (twin.changeNode id f) := by
  by_cases own : first ≤ id.index
  next => exact twins.changeBoth own fun _ _ pair => pair.map plain
  next =>
    refine ⟨by simpa using twins.size, by simpa using twins.grown, fun other below => ?_,
      fun other above => ?_, twins.sources, twins.queue, twins.skipped⟩
    · simp only [node_changeNode, twins.size, twins.before other below]
    · have apart : other ≠ id := by
        rintro rfl
        exact own above
      simpa [node_changeNode, apart] using twins.since other above

theorem rescoped (twins : model.Twins first here there twin) {model' twin' : Model}
    (left : model.Rescoped model') (right : twin.Rescoped twin') :
    model'.Twins first here there twin' := by
  unfold Rescoped at left right
  rw [left, right]
  exact ⟨twins.size, twins.grown, twins.before, twins.since, twins.sources, twins.queue,
    twins.skipped⟩

theorem createChild (twins : model.Twins first here there twin) (outer outer' : ScopeId) :
    { model with scopes := model.scopes.createChild outer }.Twins first here there
      { twin with scopes := twin.scopes.createChild outer' } :=
  twins.rescoped rfl rfl

theorem addNode (twins : model.Twins first here there twin) {node other : Node}
    (pair : node.Twins here there other) :
    (model.addNode node).Twins first here there (twin.addNode other) := by
  have next : twin.nextNode = model.nextNode := congrArg NodeId.mk twins.size
  refine ⟨by simpa using twins.size, by have := twins.grown; simp; omega, fun id below => ?_,
    fun id above => ?_, twins.sources, twins.queue, twins.skipped⟩
  · have apart : id ≠ model.nextNode := by
      rintro rfl
      exact absurd twins.grown (Nat.not_le_of_lt below)
    simpa [node_addNode, next, apart] using twins.before id below
  · rw [node_addNode, node_addNode, next]
    split
    next => exact pair
    next => exact twins.since id above

end Twins

end Model

structure Attempt.Agree {σ : Type} (agree : σ -> σ -> Prop) (attempt twin : Attempt σ) : Prop where
  failure : twin.failure = attempt.failure
  state : agree attempt.state twin.state

namespace Attempt.Agree

variable {σ τ : Type} {agree : σ -> σ -> Prop}

theorem done {state twin : σ} (same : agree state twin) : Agree agree (.done state) (.done twin) :=
  ⟨rfl, same⟩

theorem stopped {state twin : σ} (same : agree state twin) (failure : Failure) :
    Agree agree (.stopped state failure) (.stopped twin failure) :=
  ⟨rfl, same⟩

theorem andThen {attempt twin : Attempt σ} (same : Agree agree attempt twin)
    {next next' : σ -> Attempt σ}
    (both : agree attempt.state twin.state ->
      Agree agree (next attempt.state) (next' twin.state)) :
    Agree agree (attempt.andThen next) (twin.andThen next') := by
  unfold Attempt.andThen
  rw [same.failure]
  cases attempt.failure with
  | none => exact both same.state
  | some failure => exact same

theorem map {attempt twin : Attempt σ} (same : Agree agree attempt twin) {f g : σ -> τ}
    {agree' : τ -> τ -> Prop}
    (maps : agree attempt.state twin.state -> agree' (f attempt.state) (g twin.state)) :
    Agree agree' (attempt.map f) (twin.map g) :=
  ⟨same.failure, maps same.state⟩

end Attempt.Agree

namespace Model.Twins

open Attempt (Agree)

variable {model twin : Model} {id : NodeId}

theorem declareName (twins : model.Twins first here there twin) (own : first ≤ id.index)
    (targets : model.targetUri id = here ∧ twin.targetUri id = there) (kind : Symbols) :
    Agree (Twins first here there) (model.declareName id kind) (twin.declareName id kind) := by
  unfold Model.declareName
  simp only [twins.attribute?]
  split
  next => exact .done twins
  next written _ =>
    split
    next => exact .stopped twins _
    next =>
      have named := twins.changeBoth own
        (f := fun node => { node with name := some ⟨here, Text.trim written⟩ })
        (g := fun node => { node with name := some ⟨there, Text.trim written⟩ })
        fun node other pair => ⟨by rw [pair.same], some (Text.trim written), rfl, rfl⟩
      rw [targets.1, targets.2]
      exact .done (named.rescoped rfl rfl)

theorem declareOccurs (twins : model.Twins first here there twin) (id : NodeId) :
    Agree (Twins first here there) (model.declareOccurs id) (twin.declareOccurs id) := by
  unfold Model.declareOccurs
  simp only [twins.attribute?]
  split
  next => exact .stopped twins _
  next => exact .done (twins.changeNode id fun _ _ _ => rfl)

theorem declareNamelessType (twins : model.Twins first here there twin) (id : NodeId) :
    (model.declareNamelessType id).Twins first here there (twin.declareNamelessType id) := by
  unfold Model.declareNamelessType
  simp only [twins.parent, twins.kind]
  split
  next => exact twins.changeNode _ fun _ _ _ => rfl
  next =>
    -- where a nameless type is entered is a matter of scopes
    refine twins.rescoped ?_ ?_ <;> split <;> rfl

theorem declareType (twins : model.Twins first here there twin) (own : first ≤ id.index)
    (targets : model.targetUri id = here ∧ twin.targetUri id = there) :
    Agree (Twins first here there) (model.declareType id) (twin.declareType id) := by
  unfold Model.declareType
  rw [twins.attribute?]
  split
  next => exact twins.declareName own targets .types
  next => exact .done (twins.declareNamelessType id)

theorem declareEnumeration (twins : model.Twins first here there twin) (id : NodeId) :
    Agree (Twins first here there) (model.declareEnumeration id) (twin.declareEnumeration id) := by
  unfold Model.declareEnumeration
  simp only [twins.attribute?, twins.enclosing]
  split
  next => exact .stopped twins _
  next =>
    split
    next => exact .done (twins.changeNode _ fun _ _ _ => rfl)
    next => exact .done twins

theorem markWildcard (twins : model.Twins first here there twin) (id : NodeId)
    {mark : Node -> Node} (plain : Node.Plain mark) :
    (model.markWildcard id mark).Twins first here there (twin.markWildcard id mark) := by
  unfold Model.markWildcard
  rw [twins.enclosing]
  split
  next => exact twins.changeNode _ plain
  next => exact twins

theorem declare (twins : model.Twins first here there twin) (own : first ≤ id.index)
    (targets : model.targetUri id = here ∧ twin.targetUri id = there) :
    Agree (Twins first here there) (model.declare id) (twin.declare id) := by
  have occurs := twins.declareOccurs id
  have bounded (kind : Symbols) : Agree (Twins first here there)
      ((model.declareOccurs id).andThen fun model => model.declareName id kind)
      ((twin.declareOccurs id).andThen fun model => model.declareName id kind) := by
    refine occurs.andThen fun next => next.declareName own ⟨?_, ?_⟩ kind
    · rw [(retains_declareOccurs model id).targetUri, targets.1]
    · rw [(retains_declareOccurs twin id).targetUri, targets.2]
  have used : Agree (Twins first here there) (model.declareAttribute id)
      (twin.declareAttribute id) := by
    unfold Model.declareAttribute
    rw [twins.attribute?]
    refine (twins.changeNode id fun _ _ _ => rfl).declareName own ⟨?_, ?_⟩ .attributes
    · exact ((retains_setOccurs model id _).targetUri id).trans targets.1
    · exact ((retains_setOccurs twin id _).targetUri id).trans targets.2
  unfold Model.declare
  rw [twins.kind]
  cases (model.node id).kind with
  | element => exact bounded .elements
  | attributeTag => exact used
  | complexType => exact twins.declareType own targets
  | simpleType => exact twins.declareType own targets
  | group => exact bounded .groups
  | attributeGroup => exact twins.declareName own targets .attributeGroups
  | sequence => exact occurs
  | choice => exact occurs
  | all => exact occurs
  | any =>
    exact occurs.andThen fun next => .done (next.markWildcard id fun _ _ _ => rfl)
  | anyAttribute => exact .done (twins.markWildcard id fun _ _ _ => rfl)
  | enumeration => exact twins.declareEnumeration id
  | _ => exact .done twins

theorem rescoped_registerRoot (model : Model) (document : Document) :
    model.Rescoped (model.registerRoot document).1 := by
  have prefixes (model : Model) (bound : List (String × String)) :
      model.Rescoped (model.registerPrefixes bound) := by
    induction bound generalizing model with
    | nil => exact .refl model
    | cons entry rest ih =>
      have one : model.Rescoped (model.register (some entry.2) none (some entry.1)).1 := rfl
      exact one.trans (ih _)
  have default_ (model : Model) (uri : Option String) :
      model.Rescoped (model.registerDefault uri).1 := by
    unfold registerDefault
    split <;> rfl
  have target : model.Rescoped (model.register
      (some ((document.prefixes.getD .empty).targetUri.getD "")) (some document.url.text) none).1 :=
    rfl
  exact (target.trans (prefixes _ _)).trans (default_ _ _)

theorem pushSource (twins : model.Twins first here there twin) (source other : Source) :
    { model with sources := model.sources.push source }.Twins first here there
      { twin with sources := twin.sources.push other } :=
  { twins with sources := by simp [twins.sources] }

theorem declareSource (twins : model.Twins first here there twin) (document other : Document)
    (own : first ≤ id.index) :
    (model.declareSource document id).1.Twins first here there (twin.declareSource other id).1 ∧
      (twin.declareSource other id).2 = (model.declareSource document id).2 := by
  have rooted := twins.rescoped (rescoped_registerRoot model document)
    (rescoped_registerRoot twin other)
  rw [declareSource_eq, declareSource_eq, rooted.sources]
  refine ⟨Twins.changeBoth ?_ own fun node twin pair => ⟨by rw [pair.same], pair.names⟩, rfl⟩
  exact (rooted.pushSource (model.newSource document) (twin.newSource other)).rescoped rfl rfl

end Model.Twins

def Prefixes.into (target : Option String) (prefixes : Prefixes) : Prefixes :=
  { prefixes with targetUri := target }

namespace Document

structure Twins (here there : Option String) (document twin : Document) : Prop where
  url : twin.url = document.url
  requested : twin.requested = document.requested
  isChameleon : twin.isChameleon = document.isChameleon
  source : twin.source = document.source
  tasks : twin.tasks = document.tasks
  imports : twin.imports.map (fun asked => (asked.kind, asked.location, asked.line)) =
    document.imports.map fun asked => (asked.kind, asked.location, asked.line)
  adopted : document.adopted.filter (· ≠ "") = here ∧ twin.adopted.filter (· ≠ "") = there
  prefixes : ∃ bound : Option Prefixes,
    document.prefixes = bound.map (.into here) ∧ twin.prefixes = bound.map (.into there)

namespace Twins

variable {document twin : Document}

theorem unread (twins : document.Twins here there twin) :
    twin.prefixes = none ↔ document.prefixes = none := by
  obtain ⟨bound, left, right⟩ := twins.prefixes
  rw [left, right]
  cases bound <;> simp

theorem withRoot (twins : document.Twins here there twin) {attributes : List (String × String)}
    (silent : document.prefixes = none -> declaresTarget attributes = false) :
    (document.withRoot attributes).Twins here there (twin.withRoot attributes) := by
  by_cases unread : document.prefixes = none
  next =>
    have target := filter_declaredTarget (silent unread)
    unfold Document.withRoot
    rw [unread, twins.unread.mpr unread]
    refine { twins with
      isChameleon := rfl
      prefixes := ⟨some (attributes.foldl bindAttribute .empty), ?_⟩ }
    simp only [rootPrefixes, target]
    exact ⟨congrArg (fun uri => some (Prefixes.into uri _)) twins.adopted.1,
      congrArg (fun uri => some (Prefixes.into uri _)) twins.adopted.2⟩
  next =>
    rw [withRoot_of_read unread, withRoot_of_read (twins.unread.not.mpr unread)]
    exact twins

theorem tagName (twins : document.Twins here there twin) (written : String) :
    ((twin.prefixes.getD .empty).tagName written).map QName.localName =
      ((document.prefixes.getD .empty).tagName written).map QName.localName := by
  obtain ⟨bound, left, right⟩ := twins.prefixes
  rw [left, right]
  cases bound with
  | none => rfl
  | some prefixes =>
    simp only [Option.map_some, Option.getD_some, Prefixes.tagName]
    split <;> rfl

end Twins

end Document

namespace Draft

structure Twins (first : Nat) (here there : Option String) (draft twin : Draft) : Prop where
  model : draft.model.Twins first here there twin.model
  document : draft.document.Twins here there twin.document
  targets : ∀ source, draft.document.source = some source ->
    (draft.model.source source).prefixes.targetUri = here ∧
      (twin.model.source source).prefixes.targetUri = there

namespace Twins

open Attempt (Agree)

variable {draft twin : Draft} {id : NodeId}

theorem next (twins : draft.Twins first here there twin) {model model' : Model}
    (models : model.Twins first here there model')
    (sources : model.sources = draft.model.sources ∧ model'.sources = twin.model.sources)
    {document document' : Document} (documents : document.Twins here there document')
    (source : document.source = draft.document.source) :
    (⟨model, document⟩ : Draft).Twins first here there ⟨model', document'⟩ := by
  refine ⟨models, documents, fun origin home => ?_⟩
  unfold Model.source
  dsimp only
  rw [sources.1, sources.2]
  exact twins.targets origin (source ▸ home)

theorem targetUri (twins : draft.Twins first here there twin)
    (home : (draft.model.node id).source = draft.document.source)
    (sourced : draft.document.source ≠ none) :
    draft.model.targetUri id = here ∧ twin.model.targetUri id = there := by
  obtain ⟨source, there⟩ := Option.ne_none_iff_exists'.mp sourced
  have targets := twins.targets source there
  unfold Model.targetUri Model.sourceOf?
  rw [twins.model.source, home, there]
  exact targets

theorem declareSchema (twins : draft.Twins first here there twin) (own : first ≤ id.index)
    (read : draft.document.prefixes ≠ none) :
    Agree (Twins first here there) (draft.declareSchema id) (twin.declareSchema id) := by
  unfold Draft.declareSchema
  rw [twins.document.source]
  split
  next => exact .stopped twins _
  next =>
    have declared := twins.model.declareSource draft.document twin.document own
    have left := (Model.source_declareSource draft.model draft.document id).2
    have right := (Model.source_declareSource twin.model twin.document id).2
    generalize draft.model.declareSource draft.document id = mine at declared left ⊢
    generalize twin.model.declareSource twin.document id = other at declared right ⊢
    obtain ⟨model, source⟩ := mine
    obtain ⟨model', source'⟩ := other
    obtain ⟨models, rfl⟩ := declared
    refine .done ⟨models, { twins.document with source := rfl }, ?_⟩
    intro origin there
    obtain rfl := Option.some.inj there
    obtain ⟨bound, root, root'⟩ := twins.document.prefixes
    cases bound with
    | none => exact absurd root read
    | some prefixes =>
      rw [root] at left
      rw [root'] at right
      exact ⟨congrArg Prefixes.targetUri left, congrArg Prefixes.targetUri right⟩

theorem declareImport (twins : draft.Twins first here there twin) (id : NodeId) :
    Agree (Twins first here there) (draft.declareImport id) (twin.declareImport id) := by
  have registered (draft : Draft) :
      draft.model.Rescoped (draft.registerImport id).model ∧
        (draft.registerImport id).document = draft.document := by
    unfold registerImport
    split <;> exact ⟨rfl, rfl⟩
  obtain ⟨left, document⟩ := registered draft
  obtain ⟨right, document'⟩ := registered twin
  have model := twins.model.rescoped left right
  have targets (source : SourceId) (there_ : draft.document.source = some source) :
      ((draft.registerImport id).model.source source).prefixes.targetUri = here ∧
        ((twin.registerImport id).model.source source).prefixes.targetUri = there := by
    unfold Model.source
    rw [(registerImport_sources draft id).2, (registerImport_sources twin id).2]
    exact twins.targets source there_
  have same : (draft.registerImport id).Twins first here there (twin.registerImport id) :=
    ⟨model, by rw [document, document']; exact twins.document, by rw [document]; exact targets⟩
  unfold Draft.declareImport
  simp only [twins.model.attribute?, document, document', twins.document.url]
  split
  next => exact .done same
  next =>
    split
    next => exact .stopped same _
    next location _ =>
      refine .done ⟨model, { twins.document with url := rfl, imports := ?_ }, targets⟩
      have line : (twin.model.node id).line = (draft.model.node id).line :=
        (congrArg Node.line (twins.model.same id) :)
      simp only [Array.map_push, twins.document.imports, twins.model.kind, line]

theorem declare (twins : draft.Twins first here there twin) (own : first ≤ id.index)
    (read : draft.document.prefixes ≠ none)
    (home : (draft.model.node id).source = draft.document.source)
    (outermost : draft.document.source = none -> (draft.model.node id).kind = .schema) :
    Agree (Twins first here there) (draft.declare id) (twin.declare id) := by
  have other (plain : (draft.model.node id).kind ≠ .schema) : Agree (Twins first here there)
      ((draft.model.declare id).map fun model => ⟨model, draft.document⟩)
      ((twin.model.declare id).map fun model => ⟨model, twin.document⟩) := by
    have targets := twins.targetUri home fun unsourced => plain (outermost unsourced)
    have sources := And.intro (Model.retains_declare draft.model id).sources
      (Model.retains_declare twin.model id).sources
    exact (twins.model.declare own targets).map fun declared =>
      twins.next declared sources twins.document rfl
  unfold Draft.declare
  rw [twins.model.kind]
  cases kind : (draft.model.node id).kind with
  | schema => exact twins.declareSchema own read
  | importTag => exact twins.declareImport id
  | includeTag => exact twins.declareImport id
  | _ => exact other (by simp [kind])

theorem closeNode (twins : draft.Twins first here there twin) (id : NodeId) :
    (Reading.closeNode draft id).Twins first here there (Reading.closeNode twin id) := by
  have noted : (Reading.document draft.model id).Twins first here there
      (Reading.document twin.model id) := by
    have text : (twin.model.node id).text = (draft.model.node id).text :=
      (congrArg Node.text (twins.model.same id) :)
    unfold Reading.document
    simp only [twins.model.kind, twins.model.enclosing, text]
    split
    next =>
      split
      next => exact twins.model.changeNode _ fun _ _ _ => rfl
      next => exact twins.model
    next => exact twins.model
  have sources (model : Model) : (Reading.document model id).sources = model.sources := by
    unfold Reading.document
    dsimp only
    split
    · split <;> rfl
    · rfl
  unfold Reading.closeNode
  dsimp only
  rw [noted.kind, noted.queue]
  split
  next =>
    have tasks (task : TaskId) :
        twin.document.tasks.push task = draft.document.tasks.push task := by
      rw [twins.document.tasks]
    refine twins.next ?_ (And.intro ?_ ?_) ?_ ?_
    · unfold Model.defer
      rw [noted.queue, noted.fed]
      exact { noted with queue := rfl }
    · exact sources draft.model
    · exact sources twin.model
    · exact { twins.document with tasks := tasks _ }
    · rfl
  next =>
    exact twins.next (noted.changeNode id fun _ _ _ => rfl) ⟨sources _, sources _⟩
      twins.document rfl

end Twins

end Draft

end XmlSchema

import Mathlib.Logic.Relation
import XmlSchema.Document.Reading
import XmlSchema.Proofs.Shape

set_option autoImplicit false

namespace XmlSchema

namespace Model

theorem node_addNode_of_lt (model : Model) (node : Node) {id : NodeId}
    (inside : id.index < model.nodes.size) : (model.addNode node).node id = model.node id := by
  rw [node_addNode, if_neg]
  rintro rfl
  exact Nat.lt_irrefl _ inside

theorem node_addNode_next (model : Model) (node : Node) :
    (model.addNode node).node model.nextNode = node := by
  rw [node_addNode, if_pos rfl]

end Model

def Model.enter (model : Model) (id : NodeId) (kind : Symbols) (name : QName) : Model :=
  (model.changeNode id fun node => { node with name := some name }).define (model.node id).scope
    kind name id (model.node id).occurs

namespace Draft

def Owns (first : Nat) (draft : Draft) (id : NodeId) : Prop :=
  draft.model.IsTag id ∧ first ≤ id.index

def Admits (draft : Draft) (outer : ScopeId) (node : Node) : Prop :=
  match node.parent with
  | none => node.kind = .schema ∧ outer = Builtin.scope
  | some parent =>
      draft.model.IsTag parent ∧ (draft.model.node parent).kind.Holds node.kind ∧
        outer = (draft.model.node parent).scope ∧
        (draft.model.node parent).source = draft.document.source

/-- One edit of a draft, which may be part of what the tag `declaring` declares. -/
inductive Edit (first : Nat) : Option NodeId -> Draft -> Draft -> Prop where
  | document {declaring : Option NodeId} (draft : Draft) (document : Document)
      (source : document.source = draft.document.source)
      (tasks : document.tasks = draft.document.tasks) :
      Edit first declaring draft ⟨draft.model, document⟩
  | noted {declaring : Option NodeId} (draft : Draft) (id : NodeId) (f : Node -> Node)
      (keeps : ∀ node, (f node).core = node.core) :
      Edit first declaring draft ⟨draft.model.changeNode id f, draft.document⟩
  | registered {declaring : Option NodeId} (draft : Draft) (name url short : Option String) :
      Edit first declaring draft ⟨(draft.model.register name url short).1, draft.document⟩
  | marked {declaring : Option NodeId} (draft : Draft) (scope : ScopeId) (id : NodeId) :
      Edit first declaring draft
        ⟨{ draft.model with scopes := draft.model.scopes.setType scope id }, draft.document⟩
  | bounded (draft : Draft) (id : NodeId) (occurs : Occurs) (owned : draft.Owns first id)
      (unnamed : (draft.model.node id).name = none)
      (plain : (draft.model.node id).kind ≠ .attributeGroup) :
      Edit first (some id) draft ⟨draft.model.setOccurs id occurs, draft.document⟩
  | named (draft : Draft) (id : NodeId) (kind : Symbols) (name : QName)
      (owned : draft.Owns first id) (unnamed : (draft.model.node id).name = none)
      (listed : (draft.model.node id).kind.symbols? = some kind) :
      Edit first (some id) draft
        ⟨draft.model.enter id kind name, draft.document⟩
  | sourced (draft : Draft) (id : NodeId) (target : NamespaceId) (source : Source)
      (owned : draft.Owns first id) (only : draft.model.nodes.size = first + 1)
      (kind : (draft.model.node id).kind = .schema) (unsourced : draft.document.source = none)
      (within : target.index < draft.model.namespaces.size) :
      Edit first (some id) draft
        ⟨{ draft.model with
            sources := draft.model.sources.push source
            namespaces := draft.model.namespaces.addSource target
              ⟨draft.model.sources.size⟩ }.changeNode id fun node =>
            { node with
              source := some ⟨draft.model.sources.size⟩
              scope := (draft.model.namespaces.get target).root },
          { draft.document with source := some ⟨draft.model.sources.size⟩ }⟩
  | body (draft : Draft) (outer : ScopeId) (skipped : Array Skipped) :
      Edit first none draft
        ⟨{ draft.model with
            scopes := draft.model.scopes.createChild outer
            skipped := skipped }, draft.document⟩
  | tag (draft : Draft) (outer : ScopeId) (node : Node)
      (fresh : node.IsFresh) (scope : node.scope = draft.model.scopes.next)
      (source : node.source = draft.document.source) (admits : draft.Admits outer node)
      (kept : ∃ written, node.attributes = .keep node.kind written) :
      Edit first none draft
        ⟨{ draft.model with scopes := draft.model.scopes.createChild outer }.addNode node,
          draft.document⟩
  | deferred (draft : Draft) (id : NodeId) (owned : draft.Owns first id)
      (kind : (draft.model.node id).kind.isDeferred = true)
      (open_ : ∀ task : TaskId, task.index < draft.model.queue.size ->
        (draft.model.queue.get task).node ∉ id :: draft.model.ancestors id) :
      Edit first none draft
        ⟨draft.model.defer id,
          { draft.document with
            tasks := draft.document.tasks.push ⟨draft.model.queue.size⟩ }⟩
  | resolved (draft : Draft) (id : NodeId) (owned : draft.Owns first id)
      (plain : (draft.model.node id).kind.isDeferred = false) :
      Edit first none draft
        ⟨draft.model.changeNode id fun node => { node with isResolved := true }, draft.document⟩

abbrev Edits (first : Nat) : Draft -> Draft -> Prop :=
  Relation.ReflTransGen fun old new => ∃ declaring, Edit first declaring old new

abbrev Declares (first : Nat) (id : NodeId) : Draft -> Draft -> Prop :=
  Relation.ReflTransGen (Edit first (some id))

variable {first : Nat} {id : NodeId}

theorem declareName_edits {draft : Draft} {kind : Symbols} (owned : draft.Owns first id)
    (unnamed : (draft.model.node id).name = none)
    (listed : (draft.model.node id).kind.symbols? = some kind) :
    Declares first id draft ⟨(draft.model.declareName id kind).state, draft.document⟩ := by
  unfold Model.declareName
  dsimp only
  split
  next => exact .refl
  next =>
    split
    next => exact .refl
    next => exact .single (.named draft id kind _ owned unnamed listed)

theorem node_setOccurs_self {model : Model} (tag : model.IsTag id) (occurs : Occurs) :
    (model.setOccurs id occurs).node id = { model.node id with occurs := occurs } := by
  rw [Model.setOccurs, Model.node_changeNode, if_pos ⟨rfl, tag.2⟩]

theorem setOccurs_edits {draft : Draft} (owned : draft.Owns first id) (occurs : Occurs)
    (unnamed : (draft.model.node id).name = none)
    (plain : (draft.model.node id).kind ≠ .attributeGroup) (rest : Model -> Attempt Model)
    (edits : ∀ bounded : Draft, bounded.document = draft.document -> bounded.Owns first id ->
      (bounded.model.node id).name = none ->
      (bounded.model.node id).kind = (draft.model.node id).kind ->
      Declares first id bounded ⟨(rest bounded.model).state, draft.document⟩) :
    Declares first id draft
      ⟨(rest (draft.model.setOccurs id occurs)).state, draft.document⟩ := by
  refine .head (.bounded draft id occurs owned unnamed plain) (edits ⟨_, _⟩ rfl ?_ ?_ ?_)
  · exact ⟨⟨owned.1.1, by simpa [Model.setOccurs] using owned.1.2⟩, owned.2⟩
  · simpa [node_setOccurs_self owned.1] using unnamed
  · simp [node_setOccurs_self owned.1]

theorem declareOccurs_edits {draft : Draft} (owned : draft.Owns first id)
    (unnamed : (draft.model.node id).name = none)
    (plain : (draft.model.node id).kind ≠ .attributeGroup) {rest : Model -> Attempt Model}
    (edits : ∀ bounded : Draft, bounded.document = draft.document -> bounded.Owns first id ->
      (bounded.model.node id).name = none ->
      (bounded.model.node id).kind = (draft.model.node id).kind ->
      Declares first id bounded ⟨(rest bounded.model).state, draft.document⟩) :
    Declares first id draft
      ⟨((draft.model.declareOccurs id).andThen rest).state, draft.document⟩ := by
  cases read : Occurs.read ((draft.model.node id).attribute? "minoccurs")
      ((draft.model.node id).attribute? "maxoccurs") with
  | error fault =>
      simp only [Model.declareOccurs, read, Attempt.andThen, Attempt.stopped]
      exact .refl
  | ok occurs =>
      simp only [Model.declareOccurs, read, Attempt.andThen, Attempt.done]
      exact setOccurs_edits owned occurs unnamed plain rest edits

theorem noted_edits (draft : Draft) (other : NodeId) {f : Node -> Node}
    (keeps : ∀ node, (f node).core = node.core) :
    Declares first id draft ⟨draft.model.changeNode other f, draft.document⟩ :=
  .single (.noted draft other f keeps)

theorem markWildcard_edits (draft : Draft) {mark : Node -> Node}
    (keeps : ∀ node, (mark node).core = node.core) :
    Declares first id draft ⟨draft.model.markWildcard id mark, draft.document⟩ := by
  unfold Model.markWildcard
  split
  · exact noted_edits draft _ keeps
  · exact .refl

theorem declareNamelessType_edits (draft : Draft) :
    Declares first id draft ⟨draft.model.declareNamelessType id, draft.document⟩ := by
  unfold Model.declareNamelessType
  dsimp only
  split
  next => exact noted_edits draft _ fun _ => rfl
  next =>
    split
    · exact .single (.marked draft _ id)
    · exact .refl

theorem declareType_edits {draft : Draft} (owned : draft.Owns first id)
    (unnamed : (draft.model.node id).name = none)
    (listed : (draft.model.node id).kind.symbols? = some .types) :
    Declares first id draft ⟨(draft.model.declareType id).state, draft.document⟩ := by
  unfold Model.declareType
  split
  · exact declareName_edits owned unnamed listed
  · exact declareNamelessType_edits draft

theorem declareEnumeration_edits (draft : Draft) :
    Declares first id draft ⟨(draft.model.declareEnumeration id).state, draft.document⟩ := by
  unfold Model.declareEnumeration
  split
  next => exact .refl
  next =>
    split
    · exact noted_edits draft _ fun _ => rfl
    · exact .refl

theorem andThen_done {σ : Type} (attempt : Attempt σ) : attempt.andThen .done = attempt := by
  obtain ⟨state, failure⟩ := attempt
  cases failure <;> rfl

theorem declareModel_edits {draft : Draft} (owned : draft.Owns first id)
    (unnamed : (draft.model.node id).name = none) :
    Declares first id draft ⟨(draft.model.declare id).state, draft.document⟩ := by
  have particle (plain : (draft.model.node id).kind ≠ .attributeGroup) :
      Declares first id draft ⟨(draft.model.declareOccurs id).state, draft.document⟩ := by
    rw [← andThen_done (draft.model.declareOccurs id)]
    refine declareOccurs_edits owned unnamed plain fun bounded same _ _ _ => ?_
    rw [← same]
    exact .refl
  unfold Model.declare
  split
  next kind =>
    refine declareOccurs_edits owned unnamed (by simp [kind]) fun bounded same owned unnamed as => ?_
    rw [← same]
    exact declareName_edits owned unnamed (by simp [as, kind, Kind.symbols?])
  next kind =>
    refine setOccurs_edits owned _ unnamed (by simp [kind])
      (fun model => model.declareName id .attributes) fun bounded same owned unnamed as => ?_
    rw [← same]
    exact declareName_edits owned unnamed (by simp [as, kind, Kind.symbols?])
  next kind => exact declareType_edits owned unnamed (by simp [kind, Kind.symbols?])
  next kind => exact declareType_edits owned unnamed (by simp [kind, Kind.symbols?])
  next kind =>
    refine declareOccurs_edits owned unnamed (by simp [kind]) fun bounded same owned unnamed as => ?_
    rw [← same]
    exact declareName_edits owned unnamed (by simp [as, kind, Kind.symbols?])
  next kind => exact declareName_edits owned unnamed (by simp [kind, Kind.symbols?])
  next kind => exact particle (by simp [kind])
  next kind => exact particle (by simp [kind])
  next kind => exact particle (by simp [kind])
  next kind =>
    refine declareOccurs_edits owned unnamed (by simp [kind]) fun bounded same _ _ _ => ?_
    rw [← same]
    exact markWildcard_edits bounded fun _ => rfl
  next => exact markWildcard_edits draft fun _ => rfl
  next => exact declareEnumeration_edits draft
  next => exact .refl

theorem registerPrefixes_edits (draft : Draft) (bound : List (String × String)) :
    Declares first id draft ⟨draft.model.registerPrefixes bound, draft.document⟩ ∧
      (draft.model.registerPrefixes bound).nodes = draft.model.nodes ∧
      draft.model.namespaces.size ≤ (draft.model.registerPrefixes bound).namespaces.size := by
  induction bound generalizing draft with
  | nil => exact ⟨.refl, rfl, Nat.le_refl _⟩
  | cons entry rest ih =>
      let next : Draft :=
        ⟨(draft.model.register (some entry.2) none (some entry.1)).1, draft.document⟩
      obtain ⟨edits, nodes, more⟩ := ih next
      refine ⟨.head (.registered draft _ none _) edits, nodes, Nat.le_trans ?_ more⟩
      exact Namespaces.size_register_le ..

theorem registerDefault_edits (draft : Draft) (uri : Option String) :
    Declares first id draft ⟨(draft.model.registerDefault uri).1, draft.document⟩ ∧
      (draft.model.registerDefault uri).1.nodes = draft.model.nodes ∧
      draft.model.namespaces.size ≤ (draft.model.registerDefault uri).1.namespaces.size := by
  unfold Model.registerDefault
  split
  · exact ⟨.single (.registered draft _ none none), rfl, Namespaces.size_register_le ..⟩
  · exact ⟨.refl, rfl, Nat.le_refl _⟩

theorem node_congr {old new : Model} (nodes : new.nodes = old.nodes) (id : NodeId) :
    new.node id = old.node id := by
  simp [Model.node, nodes]

theorem Owns.congr {old new : Draft} (owned : old.Owns first id)
    (nodes : new.model.nodes = old.model.nodes) : new.Owns first id :=
  ⟨⟨owned.1.1, nodes ▸ owned.1.2⟩, owned.2⟩

theorem declareSchema_edits {draft : Draft} (rooted : draft.model.namespaces.Rooted draft.model.scopes)
    (owned : draft.Owns first id) (kind : (draft.model.node id).kind = .schema)
    (only : draft.document.source = none -> draft.model.nodes.size = first + 1) :
    Declares first id draft (draft.declareSchema id).state := by
  unfold declareSchema
  split
  next => exact .refl
  next missing =>
    have unsourced : draft.document.source = none := by simpa using missing
    let prefixes := draft.document.prefixes.getD .empty
    let targeted : Draft :=
      ⟨(draft.model.register (some (prefixes.targetUri.getD "")) (some draft.document.url.text)
        none).1, draft.document⟩
    obtain ⟨bind, boundNodes, boundMore⟩ :=
      @registerPrefixes_edits first id targeted prefixes.bound
    let bound : Draft := ⟨targeted.model.registerPrefixes prefixes.bound, draft.document⟩
    obtain ⟨default, nodes, more⟩ :=
      @registerDefault_edits first id bound prefixes.defaultUri
    have target := rooted.id_register (some (prefixes.targetUri.getD ""))
      (some draft.document.url.text) none
    have same : (bound.model.registerDefault prefixes.defaultUri).1.nodes = draft.model.nodes :=
      nodes.trans boundNodes
    refine .trans (.head (.registered draft _ _ none) (.trans bind default)) (.single ?_)
    refine .sourced ⟨(bound.model.registerDefault prefixes.defaultUri).1, draft.document⟩ id _ _
      (owned.congr same) ?_ ?_ unsourced ?_
    · exact (congrArg Array.size same).trans (only unsourced)
    · rw [node_congr same]
      exact kind
    · exact Nat.lt_of_lt_of_le target (Nat.le_trans boundMore more)

theorem declareImport_edits (draft : Draft) :
    Declares first id draft (draft.declareImport id).state := by
  have register : Declares first id draft (draft.registerImport id) := by
    unfold registerImport
    split
    · exact .single (.registered draft _ none none)
    · exact .refl
  unfold declareImport
  dsimp only
  split
  next => exact register
  next =>
    split
    next => exact register
    next => exact .tail register (.document _ _ rfl rfl)

/-- Everything that a tag declares when it opens is a run of edits. -/
theorem declare_edits {draft : Draft} (rooted : draft.model.namespaces.Rooted draft.model.scopes)
    (owned : draft.Owns first id) (unnamed : (draft.model.node id).name = none)
    (only : draft.document.source = none ->
      draft.model.nodes.size = first + 1 ∧ (draft.model.node id).kind = .schema) :
    Declares first id draft (draft.declare id).state := by
  unfold declare
  split
  next kind => exact declareSchema_edits rooted owned kind fun missing => (only missing).1
  next => exact declareImport_edits draft
  next => exact declareImport_edits draft
  next => exact declareModel_edits owned unnamed

theorem source_declareSchema {draft : Draft} (kind : (draft.model.node id).kind = .schema) :
    (draft.declare id).state.document.source ≠ none := by
  unfold declare
  rw [kind]
  change (draft.declareSchema id).state.document.source ≠ none
  unfold declareSchema
  split
  next there => exact Option.isSome_iff_ne_none.mp there
  next => exact Option.some_ne_none _

end Draft

end XmlSchema

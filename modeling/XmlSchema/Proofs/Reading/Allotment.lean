import XmlSchema.Proofs.Documents.Arrival
import XmlSchema.Proofs.Reading.Registration

set_option autoImplicit false

namespace XmlSchema

theorem Scopes.within_of_home {scopes : Scopes} {id : ScopeId} {home : NamespaceId}
    (there : (scopes.get id).home = some home) : id.index < scopes.size := by
  refine Nat.not_le.mp fun outside => ?_
  rw [get_of_size_le scopes outside] at there
  cases there

namespace Namespaces

variable (namespaces : Namespaces)

theorem size_addSource (id : NamespaceId) (source : SourceId) :
    (namespaces.addSource id source).size = namespaces.size := size_change ..

theorem root_addSource (id other : NamespaceId) (source : SourceId) :
    ((namespaces.addSource id source).get other).root = (namespaces.get other).root :=
  keeps_change Namespace.root namespaces id other fun _ => rfl

theorem sources_addSource {id : NamespaceId} (inside : id.index < namespaces.size)
    (source : SourceId) (other : NamespaceId) :
    ((namespaces.addSource id source).get other).sources =
      (namespaces.get other).sources ++ if other = id then [source] else [] := by
  unfold addSource
  rw [get_change]
  by_cases same : other = id
  · subst same
    rw [if_pos ⟨rfl, inside⟩, if_pos rfl]
  · rw [if_neg fun both => same both.1, if_neg same, List.append_nil]

end Namespaces

namespace Model

def Refused (model : Model) (id : NodeId) : Prop :=
  (model.node id).kind = .schema ∧ ∃ first, first.index < id.index ∧
    (model.node first).kind = .schema ∧ (model.node first).source = (model.node id).source

structure Allotted (model : Model) : Prop where
  housed : model.namespaces.Housed model.scopes
  held : ∀ id, id.index < model.nodes.size -> (model.node id).scope.index < model.scopes.size
  sources : ∀ id source, (model.node id).source = some source -> source.index < model.sources.size
  targets : ∀ source : SourceId, source.index < model.sources.size ->
    (model.source source).target.index < model.namespaces.size
  listed : ∀ id source, source ∈ (model.namespaces.get id).sources ↔
    source.index < model.sources.size ∧ (model.source source).target = id
  once : ∀ id, (model.namespaces.get id).sources.Nodup
  homes : ∀ id source, (model.node id).source = some source -> ¬ model.Refused id ->
    (model.scopes.get (model.node id).scope).home = some (model.source source).target
  around : ∀ id source, (model.node id).source = some source -> (model.node id).kind ≠ .schema ->
    (model.scopes.surrounding (model.node id).scope).index < (model.node id).scope.index ∧
      (model.scopes.get (model.scopes.surrounding (model.node id).scope)).home =
        some (model.source source).target
  names : ∀ id source name, (model.node id).source = some source ->
    (model.node id).name = some name ->
      name.uri = (model.source source).prefixes.targetUri ∧ model.Enters id name

structure Carries (old new : Model) : Prop where
  housed : old.namespaces.Housed old.scopes -> new.namespaces.Housed new.scopes
  size : new.nodes.size = old.nodes.size
  written : ∀ id, (new.node id).written = (old.node id).written
  scopes : old.scopes.size ≤ new.scopes.size
  parent : ∀ id, id.index < old.scopes.size ->
    (new.scopes.get id).parent = (old.scopes.get id).parent
  home : ∀ id, id.index < old.scopes.size -> (new.scopes.get id).home = (old.scopes.get id).home
  tables : old.scopes.Grows new.scopes
  count : old.namespaces.size ≤ new.namespaces.size
  listed : ∀ id, (new.namespaces.get id).sources = (old.namespaces.get id).sources
  sources : new.sources = old.sources
  named : ∀ id name, (new.node id).name = some name -> (old.node id).name = some name ∨
    (old.node id).kind ≠ .schema ∧ name.uri = old.targetUri id ∧
      ((old.scopes.surrounding (old.node id).scope).index < old.scopes.size -> new.Enters id name)

section

variable {old new : Model}

theorem Retains.carries (retains : old.Retains new) : old.Carries new where
  housed housed := by
    rw [retains.namespaces]
    refine housed.congr ?_ rfl (fun _ => rfl) fun id _ => retains.home id
    exact housed.rooted.grow (Nat.le_of_eq retains.scopes.symm) fun id _ => retains.parent id
  size := retains.size
  written := retains.written
  scopes := Nat.le_of_eq retains.scopes.symm
  parent id _ := retains.parent id
  home id _ := retains.home id
  tables := retains.tables
  count := Nat.le_of_eq (congrArg Namespaces.size retains.namespaces).symm
  listed id := by rw [retains.namespaces]
  sources := retains.sources
  named := retains.named

theorem Registers.carries (registers : old.Registers new) : old.Carries new where
  housed := registers.housed
  size := congrArg Array.size registers.nodes
  written id := congrArg Node.written (Draft.node_congr registers.nodes id)
  scopes := registers.scopes
  parent id inside := congrArg Scope.parent (registers.kept id inside)
  home id inside := congrArg Scope.home (registers.kept id inside)
  tables := registers.tables
  count := registers.count
  listed := registers.listed
  sources := registers.sources
  named id _ there :=
    .inl ((congrArg Node.name (Draft.node_congr registers.nodes id)).symm.trans there)

theorem Still.carries (still : old.Still new) : old.Carries new where
  housed housed := by
    rw [still.namespaces, still.scopes]
    exact housed
  size := still.size
  written id := Node.written_of_told (still.told id)
  scopes := Nat.le_of_eq (congrArg Scopes.size still.scopes).symm
  parent id _ := by rw [still.scopes]
  home id _ := by rw [still.scopes]
  tables := by
    rw [still.scopes]
    exact .refl _
  count := Nat.le_of_eq (congrArg Namespaces.size still.namespaces).symm
  listed id := by rw [still.namespaces]
  sources := still.sources
  named id name there := .inl ((congrArg Node.name (still.told id) :).symm.trans there)

theorem carries_createChild (model : Model) (outer : ScopeId) (skipped : Array Skipped) :
    model.Carries
      { model with scopes := model.scopes.createChild outer, skipped := skipped } := by
  have kept (id : ScopeId) (inside : id.index < model.scopes.size) :
      (model.scopes.createChild outer).get id = model.scopes.get id := by
    rw [Scopes.createChild, Scopes.get_create, if_neg]
    rintro rfl
    exact Nat.lt_irrefl _ inside
  have more : model.scopes.size ≤ (model.scopes.createChild outer).size := by
    rw [Scopes.createChild, Scopes.size_create]
    exact Nat.le_succ _
  refine ⟨fun housed => ?_, rfl, fun _ => rfl, more, fun id inside => congrArg Scope.parent (kept id inside),
    fun id inside => congrArg Scope.home (kept id inside), .of_tables fun _ _ => Scopes.table_create ..,
    Nat.le_refl _, fun _ => rfl, rfl, fun _ _ => .inl⟩
  refine housed.congr ?_ rfl (fun _ => rfl) fun id inside => congrArg Scope.home (kept id inside)
  exact housed.rooted.grow more fun id inside => congrArg Scope.parent (kept id inside)

theorem targetUri_of_source {model : Model} {id : NodeId} {source : SourceId}
    (there : (model.node id).source = some source) :
    model.targetUri id = (model.source source).prefixes.targetUri := by
  unfold targetUri sourceOf?
  rw [there]
  rfl

namespace Carries

variable (carries : old.Carries new)

include carries

theorem kind (id : NodeId) : (new.node id).kind = (old.node id).kind :=
  Node.kind_of_written (carries.written id)

theorem source (id : NodeId) : (new.node id).source = (old.node id).source :=
  Node.source_of_written (carries.written id)

theorem scope (id : NodeId) : (new.node id).scope = (old.node id).scope :=
  Node.scope_of_written (carries.written id)

theorem sourceAt (source : SourceId) : new.source source = old.source source := by
  unfold Model.source
  rw [carries.sources]

theorem refused (id : NodeId) : new.Refused id ↔ old.Refused id := by
  simp only [Refused, carries.kind, carries.source]

theorem surrounding {id : NodeId} (inside : (old.node id).scope.index < old.scopes.size) :
    new.scopes.surrounding (new.node id).scope = old.scopes.surrounding (old.node id).scope := by
  rw [carries.scope, Scopes.surrounding, carries.parent _ inside, ← Scopes.surrounding]

end Carries

namespace Allotted

theorem within (allotted : old.Allotted) {id : NodeId} {source : SourceId}
    (there : (old.node id).source = some source) :
    id.index < old.nodes.size ∧ (old.node id).scope.index < old.scopes.size := by
  have inside : id.index < old.nodes.size := by
    refine Nat.not_le.mp fun outside => ?_
    rw [node_of_size_le old outside] at there
    cases there
  exact ⟨inside, allotted.held id inside⟩

theorem carried (allotted : old.Allotted) (carries : old.Carries new) : new.Allotted where
  housed := carries.housed allotted.housed
  held id inside := by
    rw [carries.size] at inside
    rw [carries.scope]
    exact Nat.lt_of_lt_of_le (allotted.held id inside) carries.scopes
  sources id source there := by
    rw [carries.source] at there
    rw [carries.sources]
    exact allotted.sources id source there
  targets source inside := by
    rw [carries.sources] at inside
    rw [carries.sourceAt]
    exact Nat.lt_of_lt_of_le (allotted.targets source inside) carries.count
  listed id source := by
    rw [carries.listed, carries.sources, carries.sourceAt]
    exact allotted.listed id source
  once id := by
    rw [carries.listed]
    exact allotted.once id
  homes id source there accepted := by
    rw [carries.source] at there
    rw [carries.refused] at accepted
    rw [carries.scope, carries.sourceAt, carries.home _ (allotted.within there).2]
    exact allotted.homes id source there accepted
  around id source there plain := by
    rw [carries.source] at there
    rw [carries.kind] at plain
    obtain ⟨lower, home⟩ := allotted.around id source there plain
    rw [carries.surrounding (allotted.within there).2, carries.sourceAt,
      carries.home _ (Scopes.within_of_home home), carries.scope]
    exact ⟨lower, home⟩
  names id source name there given := by
    rw [carries.source] at there
    rw [carries.sourceAt]
    have inside := (allotted.within there).2
    rcases carries.named id name given with before | ⟨plain, uri, enters⟩
    next =>
      obtain ⟨uri, enters⟩ := allotted.names id source name there before
      exact ⟨uri, enters.mono (carries.written id) (carries.parent _ inside) carries.tables⟩
    next =>
      -- a new name is entered around its tag, where there is a scope of the namespace already
      refine ⟨uri.trans (targetUri_of_source there), enters ?_⟩
      exact Scopes.within_of_home (allotted.around id source there plain).2

theorem refused_addNode {node : Node} {id first : NodeId} (inside : id.index ≤ old.nodes.size)
    (lower : first.index < id.index) (kind : ((old.addNode node).node id).kind = .schema)
    (schema : (old.node first).kind = .schema)
    (same : (old.node first).source = ((old.addNode node).node id).source) :
    (old.addNode node).Refused id := by
  refine ⟨kind, first, lower, ?_⟩
  rw [node_addNode_of_lt old node (Nat.lt_of_lt_of_le lower inside)]
  exact ⟨schema, same⟩

theorem source_addNode (allotted : old.Allotted) {node : Node} {id : NodeId} {source : SourceId}
    (there : ((old.addNode node).node id).source = some source) :
    id = old.nextNode ∧ node.source = some source ∨
      id.index < old.nodes.size ∧ (old.node id).source = some source := by
  rw [node_addNode] at there
  split at there
  next same => exact .inl ⟨same, there⟩
  next => exact .inr ⟨(allotted.within there).1, there⟩

theorem addNode (allotted : old.Allotted) {node : Node} (unnamed : node.name = none)
    (held : node.scope.index < old.scopes.size)
    (stands : ∀ source, node.source = some source -> source.index < old.sources.size ∧
      ((old.scopes.get node.scope).home = some (old.source source).target ∧
          (old.scopes.surrounding node.scope).index < node.scope.index ∧
          (old.scopes.get (old.scopes.surrounding node.scope)).home =
            some (old.source source).target ∨
        node.kind = .schema ∧ ∃ first, (old.node first).kind = .schema ∧
          (old.node first).source = some source)) : (old.addNode node).Allotted := by
  have last : (old.addNode node).node old.nextNode = node := node_addNode_next ..
  have before {id : NodeId} (inside : id.index < old.nodes.size) :
      (old.addNode node).node id = old.node id := node_addNode_of_lt old node inside
  constructor
  case housed => exact allotted.housed
  case targets => exact allotted.targets
  case listed => exact allotted.listed
  case once => exact allotted.once
  case held =>
    intro id inside
    rw [size_addNode] at inside
    rcases Nat.lt_succ_iff_lt_or_eq.mp inside with earlier | same
    · rw [before earlier]
      exact allotted.held id earlier
    · obtain rfl : id = old.nextNode := congrArg NodeId.mk same
      rw [last]
      exact held
  case sources =>
    intro id source there
    rcases allotted.source_addNode there with ⟨-, there⟩ | ⟨-, there⟩
    · exact (stands source there).1
    · exact allotted.sources id source there
  case homes =>
    intro id source there accepted
    rcases allotted.source_addNode there with ⟨rfl, own⟩ | ⟨inside, there⟩
    next =>
      rcases (stands source own).2 with ⟨home, -⟩ | ⟨kind, first, schema, same⟩
      next =>
        rw [last]
        exact home
      next =>
        -- a second schema tag has no scope in its namespace, which is why it has to be refused
        refine absurd ?_ accepted
        refine refused_addNode (Nat.le_refl _) (allotted.within same).1 ?_ schema ?_ <;> rw [last]
        · exact kind
        · exact same.trans own.symm
    next =>
      have same := before inside
      rw [same]
      -- a tag that was accepted is not refused for one that opens after it
      refine allotted.homes id source there fun ⟨kind, first, lower, schema, alike⟩ => accepted ?_
      exact refused_addNode (Nat.le_of_lt inside) lower (same ▸ kind) schema (same ▸ alike)
  case around =>
    intro id source there plain
    rcases allotted.source_addNode there with ⟨rfl, own⟩ | ⟨inside, there⟩
    next =>
      rw [last] at plain ⊢
      rcases (stands source own).2 with ⟨-, around⟩ | ⟨kind, -⟩
      · exact around
      · exact absurd kind plain
    next =>
      rw [before inside] at plain ⊢
      exact allotted.around id source there plain
  case names =>
    intro id source name there given
    rcases allotted.source_addNode there with ⟨rfl, own⟩ | ⟨inside, there⟩
    next =>
      rw [last, unnamed] at given
      cases given
    next =>
      rw [before inside] at given
      obtain ⟨uri, enters⟩ := allotted.names id source name there given
      exact ⟨uri, enters.mono (congrArg Node.written (before inside)) rfl (.refl _)⟩

theorem addSource (allotted : old.Allotted) {source : Source}
    (target : source.target.index < old.namespaces.size) :
    Model.Allotted { old with
      sources := old.sources.push source
      namespaces := old.namespaces.addSource source.target ⟨old.sources.size⟩ } := by
  have before {other : SourceId} (inside : other.index < old.sources.size) :=
    old.getD_push_source_of_lt source inside
  have count : (old.sources.push source).size = old.sources.size + 1 := Array.size_push ..
  have size := old.namespaces.size_addSource source.target ⟨old.sources.size⟩
  have listed := old.namespaces.sources_addSource target ⟨old.sources.size⟩
  constructor
  case housed =>
    exact allotted.housed.congr (allotted.housed.rooted.change source.target fun _ => rfl) size
      (fun other => old.namespaces.root_addSource ..) fun _ _ => rfl
  case held => exact allotted.held
  case sources =>
    intro id other there
    exact Nat.lt_of_lt_of_eq (Nat.lt_succ_of_lt (allotted.sources id other there)) count.symm
  case targets =>
    intro other inside
    refine Nat.lt_of_lt_of_eq ?_ size.symm
    unfold Model.source
    rcases Nat.lt_succ_iff_lt_or_eq.mp (Nat.lt_of_lt_of_eq inside count) with earlier | last
    · rw [before earlier]
      exact allotted.targets other earlier
    · rw [getD_push_source, if_pos last]
      exact target
  case listed =>
    intro id other
    rw [listed, List.mem_append, allotted.listed]
    dsimp only [Model.source]
    rw [getD_push_source, count]
    -- the new source is listed by its namespace, and all others are listed as before
    by_cases last : other.index = old.sources.size
    next =>
      have same : other = ⟨old.sources.size⟩ := congrArg SourceId.mk last
      rw [if_pos last]
      by_cases here : id = source.target
      · simp [here, same]
      · simp [here, last, Ne.symm here]
    next =>
      have apart : other ≠ ⟨old.sources.size⟩ := fun same => last (congrArg SourceId.index same)
      rw [if_neg last]
      have bound : other.index < old.sources.size + 1 ↔ other.index < old.sources.size := by omega
      rw [bound]
      refine or_iff_left fun member => ?_
      split at member
      · exact apart (List.mem_singleton.mp member)
      · cases member
  case once =>
    intro id
    rw [listed]
    refine List.nodup_append.mpr ⟨allotted.once id, ?_, fun one member other new same => ?_⟩
    · split <;> simp
    · split at new
      · -- whatever has been listed has been a source before
        rw [same, List.mem_singleton.mp new] at member
        exact Nat.lt_irrefl _ ((allotted.listed id _).mp member).1
      · cases new
  case homes =>
    intro id other there accepted
    refine (allotted.homes id other there accepted).trans ?_
    exact congrArg (fun source => some (Source.target source))
      (before (allotted.sources id other there)).symm
  case around =>
    intro id other there plain
    obtain ⟨lower, home⟩ := allotted.around id other there plain
    refine ⟨lower, home.trans ?_⟩
    exact congrArg (fun source => some (Source.target source))
      (before (allotted.sources id other there)).symm
  case names =>
    intro id other name there given
    obtain ⟨uri, enters⟩ := allotted.names id other name there given
    refine ⟨uri.trans ?_, enters⟩
    exact congrArg (fun source => source.prefixes.targetUri)
      (before (allotted.sources id other there)).symm

theorem assign (allotted : old.Allotted) {id : NodeId} (unsourced : (old.node id).source = none)
    (kind : (old.node id).kind = .schema) (unnamed : (old.node id).name = none)
    {source : SourceId} (inside : source.index < old.sources.size) :
    (old.changeNode id fun node =>
      { node with
        source := some source
        scope := (old.namespaces.get (old.source source).target).root }).Allotted := by
  have target := allotted.targets source inside
  have stands : id.index < old.nodes.size := by
    refine Nat.not_le.mp fun outside => ?_
    rw [node_of_size_le old outside] at kind
    cases kind
  let new := old.changeNode id fun node =>
    { node with
      source := some source
      scope := (old.namespaces.get (old.source source).target).root }
  have size : new.nodes.size = old.nodes.size := size_changeNode ..
  have self : new.node id =
      { old.node id with
        source := some source
        scope := (old.namespaces.get (old.source source).target).root } :=
    (node_changeNode ..).trans (if_pos ⟨rfl, stands⟩)
  have others {other : NodeId} (apart : other ≠ id) : new.node other = old.node other :=
    (node_changeNode ..).trans (if_neg fun both => apart both.1)
  -- nothing but the node of the schema tag is different
  change new.Allotted
  constructor
  case housed => exact allotted.housed
  case targets => exact allotted.targets
  case listed => exact allotted.listed
  case once => exact allotted.once
  case held =>
    intro other within
    by_cases same : other = id
    · rw [same, self]
      exact allotted.housed.rooted.inside _ target
    · rw [others same]
      exact allotted.held other (size ▸ within)
  case sources =>
    intro other one there
    by_cases same : other = id
    · rw [same, self] at there
      exact Option.some.inj there ▸ inside
    · rw [others same] at there
      exact allotted.sources other one there
  case homes =>
    intro other one there accepted
    by_cases same : other = id
    · rw [same, self] at there ⊢
      obtain rfl := Option.some.inj there
      exact allotted.housed.home _ target
    · rw [others same] at there ⊢
      refine allotted.homes other one there fun ⟨schema, first, lower, kind, alike⟩ => accepted ?_
      have apart : first ≠ id := by
        rintro rfl
        cases unsourced.symm.trans (alike.trans there)
      refine ⟨(congrArg Node.kind (others same)).trans schema, first, lower, ?_, ?_⟩
      · exact (congrArg Node.kind (others apart)).trans kind
      · rw [others apart, others same]
        exact alike
  case around =>
    intro other one there plain
    by_cases same : other = id
    · rw [same, self] at plain
      exact absurd kind plain
    · rw [others same] at there plain ⊢
      exact allotted.around other one there plain
  case names =>
    intro other one name there given
    by_cases same : other = id
    · rw [same, self] at given
      cases unnamed.symm.trans given
    · rw [others same] at there given
      obtain ⟨uri, enters⟩ := allotted.names other one name there given
      exact ⟨uri, enters.mono (congrArg Node.written (others same)) rfl (.refl _)⟩

end Allotted

end

theorem target_newSource {model : Model} (rooted : model.namespaces.Rooted model.scopes)
    (document : Document) :
    (model.newSource document).target.index < (model.registerRoot document).1.namespaces.size := by
  have first := rooted.id_register (some ((document.prefixes.getD .empty).targetUri.getD ""))
    (some document.url.text) none
  have rest := (Registers.registerPrefixes (model.register
    (some ((document.prefixes.getD .empty).targetUri.getD "")) (some document.url.text) none).1
    (document.prefixes.getD .empty).bound).trans
      (Registers.registerDefault _ (document.prefixes.getD .empty).defaultUri)
  exact Nat.lt_of_lt_of_le first rest.count

theorem Allotted.declareSource {model : Model} (allotted : model.Allotted) (document : Document)
    {id : NodeId} (unsourced : (model.node id).source = none)
    (kind : (model.node id).kind = .schema) (unnamed : (model.node id).name = none) :
    (model.declareSource document id).1.Allotted := by
  have registers := Registers.registerRoot model document
  have target := target_newSource allotted.housed.rooted document
  have known := allotted.carried registers.carries
  have node := Draft.node_congr registers.nodes id
  rw [declareSource_eq]
  generalize (model.registerRoot document).1 = root at *
  rw [← node] at unsourced kind unnamed
  have listed := known.addSource target
  have assigned := @Allotted.assign _ listed id unsourced kind unnamed ⟨root.sources.size⟩
    (Nat.lt_of_lt_of_eq (Nat.lt_succ_self _) (Array.size_push ..).symm)
  have last : ((root.sources.push (model.newSource document))[root.sources.size]?.getD
      default).target = (model.newSource document).target := by
    rw [Array.getElem?_push_size]
    rfl
  dsimp only [Model.source] at assigned
  rw [last, Namespaces.root_addSource] at assigned
  exact assigned

end Model

namespace Draft

structure Allotted (draft : Draft) : Prop where
  model : draft.model.Allotted
  begun : ∀ source, draft.document.source = some source -> source.index < draft.model.sources.size ∧
    ∃ first, (draft.model.node first).kind = .schema ∧
      (draft.model.node first).source = some source
  single : ∀ id source, draft.document.source = some source ->
    (draft.model.node id).source = some source -> ¬ draft.model.Refused id

variable {draft : Draft}

theorem Allotted.carried {new : Draft} (allotted : draft.Allotted)
    (carries : draft.model.Carries new.model)
    (source : new.document.source = draft.document.source) : new.Allotted where
  model := allotted.model.carried carries
  begun some_ there := by
    rw [source] at there
    obtain ⟨inside, first, kind, same⟩ := allotted.begun some_ there
    exact ⟨carries.sources ▸ inside, first, (carries.kind first).trans kind,
      (carries.source first).trans same⟩
  single id some_ there same := by
    rw [source] at there
    rw [carries.source] at same
    rw [carries.refused]
    exact allotted.single id some_ there same

theorem Allotted.withTag (allotted : draft.Allotted) {outer : ScopeId} {node : Node}
    (fresh : node.written = node) (scope : node.scope = draft.model.scopes.next)
    (source : node.source = draft.document.source)
    (inside : node.kind ≠ .schema ->
      ∃ parent, node.parent = some parent ∧ draft.Around outer parent) :
    (draft.withTag outer node).model.Allotted := by
  have grown := allotted.model.carried
    (Model.carries_createChild draft.model outer draft.model.skipped)
  have next : (draft.model.scopes.createChild outer).get node.scope =
      .bare (some outer) (draft.model.scopes.get outer).home := by
    rw [scope, Scopes.createChild, Scopes.get_create, if_pos rfl]
  have count : (draft.model.scopes.createChild outer).size = draft.model.scopes.size + 1 :=
    Scopes.size_create ..
  refine grown.addNode (congrArg Node.name fresh).symm ?_ fun some_ own => ?_
  · rw [scope]
    exact Nat.lt_of_lt_of_eq (Nat.lt_succ_self _) count.symm
  · rw [source] at own
    obtain ⟨within, first⟩ := allotted.begun some_ own
    refine ⟨within, ?_⟩
    by_cases schema : node.kind = .schema
    next => exact .inr ⟨schema, first⟩
    next =>
      -- the tag stands in one that is not refused
      obtain ⟨parent, -, there, rfl, same⟩ := inside schema
      have home := allotted.model.homes parent some_ (same.trans own)
        (allotted.single parent some_ own (same.trans own))
      have outer := allotted.model.held parent there
      refine .inl ⟨?_, ?_, ?_⟩
      · rw [next]
        exact home
      · rw [Scopes.surrounding, next, scope]
        exact outer
      · have kept : (draft.model.scopes.createChild (draft.model.node parent).scope).get
            (draft.model.node parent).scope = draft.model.scopes.get (draft.model.node parent).scope := by
          rw [Scopes.createChild, Scopes.get_create, if_neg]
          intro last
          exact Nat.lt_irrefl _ (last ▸ outer)
        rw [Scopes.surrounding, next]
        exact (congrArg Scope.home kept).trans home

theorem Allotted.addTag (allotted : draft.Allotted) {outer : ScopeId} {node : Node}
    (model : (draft.withTag outer node).model.Allotted) (plain : node.kind ≠ .schema) :
    (draft.withTag outer node).Allotted where
  model := model
  begun source there := by
    obtain ⟨within, first, kind, same⟩ := allotted.begun source there
    have old : (draft.withTag outer node).model.node first = draft.model.node first :=
      Model.node_addNode_of_lt _ node (allotted.model.within same).1
    exact ⟨within, first, old ▸ kind, old ▸ same⟩
  single id source there same refused := by
    obtain ⟨kind, first, lower, schema, alike⟩ := refused
    have apart : id ≠ draft.model.nextNode := by
      rintro rfl
      exact plain ((kind_withTag draft outer node).symm.trans kind)
    have self : (draft.withTag outer node).model.node id = draft.model.node id :=
      (node_withTag ..).trans (if_neg apart)
    rw [self] at kind alike same
    have within := (allotted.model.within same).1
    have other : (draft.withTag outer node).model.node first = draft.model.node first :=
      Model.node_addNode_of_lt _ node (Nat.lt_trans lower within)
    rw [other] at schema alike
    exact allotted.single id source there same ⟨kind, first, lower, schema, alike⟩

theorem Allotted.declareSource {id : NodeId} (allotted : draft.model.Allotted)
    (unread : draft.document.source = none) (unsourced : (draft.model.node id).source = none)
    (kind : (draft.model.node id).kind = .schema) (unnamed : (draft.model.node id).name = none) :
    Allotted ⟨(draft.model.declareSource draft.document id).1,
      { draft.document with source := some (draft.model.declareSource draft.document id).2 }⟩ := by
  have model := allotted.declareSource draft.document unsourced kind unnamed
  have inside := (draft.model.source_declareSource draft.document id).1
  have opened := (Tells.source kind unread : draft.Tells id _).opened
  have last : (draft.model.declareSource draft.document id).2 = ⟨draft.model.sources.size⟩ :=
    congrArg (fun sources => SourceId.mk sources.size)
      (draft.model.stores_registerRoot draft.document).2
  have stands : id.index < draft.model.nodes.size := by
    refine Nat.not_le.mp fun outside => ?_
    rw [Model.node_of_size_le _ outside] at kind
    cases kind
  have own := opened.home stands (unsourced.trans unread.symm)
  generalize draft.model.declareSource draft.document id = declared at *
  obtain ⟨new, source⟩ := declared
  dsimp only at last
  -- no tag but this one has the new source
  have only {other : NodeId} (same : (new.node other).source = some source) : other = id := by
    refine Decidable.byContradiction fun apart => ?_
    have before := (Node.source_of_written (opened.others other apart)).symm.trans same
    have below := allotted.sources other source before
    rw [last] at below
    exact Nat.lt_irrefl _ below
  refine ⟨model, fun some_ there => ?_, fun other some_ there same ⟨_, first, lower, _, alike⟩ => ?_⟩
  · obtain rfl := Option.some.inj there
    exact ⟨inside, id, opened.kind.trans kind, own⟩
  · obtain rfl := Option.some.inj there
    rw [only same, only (alike.trans same)] at lower
    exact Nat.lt_irrefl _ lower

theorem Move.allotted {attempt : Attempt Draft} (move : draft.Move attempt)
    (allotted : draft.Allotted) :
    attempt.state.model.Allotted ∧ (attempt.failure = none -> attempt.state.Allotted) := by
  have going {new : Draft} (after : new.Allotted) :
      new.model.Allotted ∧ ((Attempt.done new).failure = none -> new.Allotted) :=
    ⟨after.model, fun _ => after⟩
  cases move with
  | root attributes =>
      exact going (allotted.carried (Model.Retains.refl _).carries (Reading.source_withRoot ..))
  | still model tasks still => exact going (allotted.carried still.carries rfl)
  | body outer skipped =>
      exact going (allotted.carried (Model.carries_createChild draft.model outer skipped) rfl)
  | tag outer node fresh scope source read outermost inside =>
      have added := allotted.withTag fresh scope source inside
      have self : (draft.withTag outer node).model.node draft.model.nextNode = node :=
        (node_withTag ..).trans (if_pos rfl)
      have plain (kind : ((draft.withTag outer node).model.node draft.model.nextNode).kind ≠
          .schema) : (draft.withTag outer node).Allotted :=
        allotted.addTag added ((congrArg Node.kind self).symm.trans_ne kind)
      have tells := tells_declare (draft.withTag outer node) draft.model.nextNode
      have second := @stopped_second (draft.withTag outer node) draft.model.nextNode
      generalize (draft.withTag outer node).declare draft.model.nextNode = attempt at tells second ⊢
      obtain ⟨state, failure⟩ := attempt
      dsimp only at tells second ⊢
      cases tells with
      | source kind unsourced =>
          have after := Allotted.declareSource added unsourced
            ((congrArg Node.source self).trans (source.trans unsourced)) kind
            ((congrArg Node.name self).trans (congrArg Node.name fresh).symm)
          exact ⟨after.model, fun _ => after⟩
      | second kind sourced => exact ⟨added, fun going => absurd going (second kind sourced)⟩
      | request kind imports =>
          have after := @Allotted.carried (draft.withTag outer node)
            ⟨((draft.withTag outer node).registerImport draft.model.nextNode).model,
              { (draft.withTag outer node).document with imports := imports }⟩
            (plain kind) (Model.Registers.registerImport ..).carries rfl
          exact ⟨after.model, fun _ => after⟩
      | other kind =>
          have after := @Allotted.carried (draft.withTag outer node)
            ⟨((draft.withTag outer node).model.declare draft.model.nextNode).state,
              (draft.withTag outer node).document⟩
            (plain kind) (Model.retains_declare ..).carries rfl
          exact ⟨after.model, fun _ => after⟩

theorem allotted_moves (allotted : draft.model.Allotted) (unread : draft.document.source = none)
    {attempt : Attempt Draft} (moves : draft.Moves attempt) : attempt.state.model.Allotted := by
  have start : draft.Allotted :=
    ⟨allotted, fun source there => (by cases unread.symm.trans there),
      fun _ source there => (by cases unread.symm.trans there)⟩
  exact moves.keeps_until start (fun move allotted => (move.allotted allotted).1)
    (fun move going allotted => (move.allotted allotted).2 going) fun allotted => allotted.model

end Draft

namespace Model

theorem allotted_empty : empty.Allotted := by
  have housed : (Namespaces.empty Builtin.scope).Housed Builtin.scopes :=
    ⟨rooted_builtin, fun _ within => absurd within (Nat.not_lt_zero _)⟩
  have unsourced (id : NodeId) (source : SourceId) : (empty.node id).source ≠ some source := by
    rcases node_empty id with ⟨-, same⟩ | ⟨localName, -, same⟩ <;> rw [same] <;> exact nofun
  have listed (id : NamespaceId) : (empty.namespaces.get id).sources = [] :=
    (Namespaces.sources_register (Namespaces.empty Builtin.scope) Builtin.scopes ..).trans rfl
  refine ⟨housed.register .., fun id inside => ?_, fun id source there => absurd there (unsourced _ _),
    fun _ inside => absurd inside (Nat.not_lt_zero _), fun id source => ?_, fun id => ?_,
    fun id source there => absurd there (unsourced _ _),
    fun id source there => absurd there (unsourced _ _),
    fun id source _ there => absurd there (unsourced _ _)⟩
  · rcases node_empty id with ⟨missing, -⟩ | ⟨localName, -, same⟩
    · rw [size_empty, Builtin.length_nodes] at inside
      exact absurd (List.getElem?_eq_none_iff.mp missing) (Nat.not_le.mpr inside)
    · rw [same]
      exact shaped_empty.floor
  · rw [listed]
    exact iff_of_false (List.not_mem_nil) fun both => absurd both.1 (Nat.not_lt_zero _)
  · rw [listed]
    exact List.nodup_nil

end Model

namespace Compilation

variable {options : Options} {fetch : Fetch} {old new : Compilation}

theorem Change.allotted (change : Change options fetch old new) (allotted : old.model.Allotted) :
    new.model.Allotted :=
  change.keeps_model allotted
    (fun _ _ _ => Draft.allotted_moves allotted rfl (Draft.moves_read ..).1)
    fun _ _ read => read.carried (Model.Still.carries ⟨rfl, fun _ => rfl, rfl, rfl, rfl⟩)

theorem Changes.allotted (changes : Changes options fetch .empty new) : new.model.Allotted :=
  changes.keeps Model.allotted_empty fun change => change.allotted

end Compilation

end XmlSchema

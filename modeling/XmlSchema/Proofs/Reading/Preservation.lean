import XmlSchema.Proofs.Content.Contribution
import XmlSchema.Proofs.Deferral
import XmlSchema.Proofs.Reading.Edit

set_option autoImplicit false

namespace XmlSchema

-- what the tasks write on a tag, and the kind that says whether it waits for one
def Node.work (node : Node) : Option NodeId × Option TypeRef × Bool × Kind :=
  (node.referent, node.base, node.isResolved, node.kind)

namespace Model

structure Unworked (model : Model) : Prop where
  referent : ∀ id, (model.node id).referent = none
  base : ∀ id, (model.node id).base = none
  waiting : ∀ id, (model.node id).isResolved = true -> (model.node id).kind.isDeferred = false
  declared : ∀ scope kind name definition,
    (model.scopes.table scope kind).get? name = some definition -> definition.inherited = false

/-- The names in a scope, but for those of built-in types, are of tags that stand in it. -/
def Homed (model : Model) : Prop :=
  ∀ scope kind name definition, scope ≠ Builtin.scope ∨ kind ≠ .types ->
    (model.scopes.table scope kind).get? name = some definition ->
      ∃ parent, (model.node definition.target).parent = some parent ∧
        (model.node parent).scope = scope

/-- What holds of a model while documents are read into it. -/
structure Gathered (model : Model) : Prop where
  shaped : model.Shaped
  filed : model.Filed
  homed : model.Homed
  tallied : model.Tallied
  queued : model.Queued
  unworked : model.Unworked
  single : model.Single

theorem passed_of_plain (model : Model) (kind : Symbols) {id : NodeId} (name : QName)
    (plain : (model.node id).kind.isDeferred = false) : model.passed kind id name = 0 := by
  unfold passed
  cases is : (model.node id).kind <;> simp [is, Kind.isDeferred] at plain <;>
    cases kind <;> simp [is]

theorem Unworked.contributed_eq {model : Model} (unworked : model.Unworked) (kind : Symbols)
    (id : NodeId) (name : QName) :
    model.contributed kind id name = model.named kind id name := by
  have alone : model.referred kind id name = 0 := by
    simp [referred, unworked.referent id]
  unfold contributed
  rw [alone, add_zero]
  split
  next resolved => rw [passed_of_plain model kind name (unworked.waiting id resolved), add_zero]
  next => rw [add_zero]

theorem named_congr {old new : Model} {id : NodeId} (kind : Symbols) (name : QName)
    (core : (new.node id).kind = (old.node id).kind ∧ (new.node id).name = (old.node id).name ∧
      (new.node id).occurs = (old.node id).occurs) :
    new.named kind id name = old.named kind id name := by
  simp only [named, core]

theorem named_of_unnamed {model : Model} {id : NodeId} (kind : Symbols) (name : QName)
    (unnamed : (model.node id).name = none) : model.named kind id name = 0 := by
  simp [named, unnamed]

theorem ownBounds_congr {old new : Model} {id : NodeId} (kind : Symbols) (name : QName)
    (scope : (new.node id).scope = (old.node id).scope)
    (table : new.scopes.table (old.node id).scope kind = old.scopes.table (old.node id).scope kind) :
    new.ownBounds id kind name = old.ownBounds id kind name := by
  rw [ownBounds, ownBounds, scope, table]

theorem Shaped.parent_of_schema {model : Model} (shaped : model.Shaped) {id : NodeId}
    (kind : (model.node id).kind = .schema) : (model.node id).parent = none := by
  cases inside : (model.node id).parent with
  | none => rfl
  | some parent =>
      have holds := (shaped.standsIn inside).holds
      rw [kind] at holds
      exact absurd holds (Kind.not_holds_schema _)

theorem Homed.congr {old new : Model} (homed : old.Homed)
    (standing : ∀ id, (new.node id).standing = (old.node id).standing)
    (tables : ∀ id kind, new.scopes.table id kind = old.scopes.table id kind) : new.Homed := by
  intro scope kind name definition outer found
  rw [tables] at found
  obtain ⟨parent, inside, there⟩ := homed scope kind name definition outer found
  refine ⟨parent, ?_, ?_⟩
  · rw [Node.parent_of_standing (standing definition.target)]
    exact inside
  · rw [Node.scope_of_standing (standing parent)]
    exact there

theorem Homed.parent {model : Model} (homed : model.Homed) (shaped : model.Shaped) {id : NodeId}
    (tag : model.IsTag id) (plain : (model.node id).kind ≠ .schema) {kind : Symbols} {name : QName}
    {definition : Definition}
    (found : (model.scopes.table (model.node id).scope kind).get? name = some definition) :
    (model.node definition.target).parent = some id := by
  obtain ⟨parent, inside, there⟩ :=
    homed _ kind name definition (.inl (shaped.scope_ne_builtin tag)) found
  obtain rfl := shaped.apart id parent tag (shaped.standsIn inside).tag plain there.symm
  exact inside

theorem Gathered.congr {old new : Model} (gathered : old.Gathered)
    (size : new.nodes.size = old.nodes.size)
    (standing : ∀ id, (new.node id).standing = (old.node id).standing)
    (names : ∀ id, (new.node id).name = (old.node id).name)
    (occurs : ∀ id, (old.node id).name ≠ none ∨ (old.node id).kind = .attributeGroup ->
      (new.node id).occurs = (old.node id).occurs)
    (unworked : new.Unworked)
    (registry : new.namespaces.Rooted new.scopes)
    (more : old.scopes.size ≤ new.scopes.size)
    (parents : ∀ id : ScopeId, id.index < old.scopes.size ->
      (new.scopes.get id).parent = (old.scopes.get id).parent)
    (tables : ∀ id kind, new.scopes.table id kind = old.scopes.table id kind)
    (queue : new.queue = old.queue) : new.Gathered := by
  have kinds (id : NodeId) := Node.kind_of_standing (standing id)
  have parentsOf (id : NodeId) := Node.parent_of_standing (standing id)
  refine ⟨gathered.shaped.congr size standing registry more parents, ?_, ?_, ?_, ?_, unworked, ?_⟩
  · refine (gathered.filed.congr tables).mono fun kind name target bears => ?_
    exact ⟨(names target).trans bears.1, by rw [kinds, bears.2]⟩
  · exact gathered.homed.congr standing tables
  · refine gathered.tallied.step size (fun id => ⟨kinds id, parentsOf id⟩)
      fun id kind name tag plain member => Or.inl ⟨?_, ?_⟩
    · exact ownBounds_congr kind name (Node.scope_of_standing (standing id)) (tables ..)
    · intro child inside
      rw [unworked.contributed_eq, gathered.unworked.contributed_eq]
      by_cases unnamed : (old.node child).name = none
      · rw [named_of_unnamed kind name unnamed,
          named_of_unnamed kind name ((names child).trans unnamed)]
      · exact named_congr kind name ⟨kinds child, names child, occurs child (Or.inl unnamed)⟩
  · refine gathered.queued.congr size kinds parentsOf ?_ ?_ ?_ <;> simp [queue]
  · intro id kind
    rw [kinds] at kind
    rw [occurs id (Or.inr kind)]
    exact gathered.single id kind

theorem Unworked.congr {old new : Model} (unworked : old.Unworked)
    (work : ∀ id, (new.node id).work = (old.node id).work)
    (declared : ∀ scope kind name definition,
      (new.scopes.table scope kind).get? name = some definition -> definition.inherited = false) :
    new.Unworked where
  referent id := (congrArg Prod.fst (work id)).trans (unworked.referent id)
  base id := (congrArg (fun work => work.2.1) (work id)).trans (unworked.base id)
  waiting id resolved := by
    have done : (new.node id).isResolved = (old.node id).isResolved :=
      congrArg (fun work => work.2.2.1) (work id)
    have kind : (new.node id).kind = (old.node id).kind :=
      congrArg (fun work => work.2.2.2) (work id)
    rw [kind]
    exact unworked.waiting id (done.symm.trans resolved)
  declared := declared

theorem Gathered.noted {old new : Model} (gathered : old.Gathered)
    (size : new.nodes.size = old.nodes.size)
    (core : ∀ id, (new.node id).core = (old.node id).core)
    (registry : new.namespaces.Rooted new.scopes)
    (more : old.scopes.size ≤ new.scopes.size)
    (parents : ∀ id : ScopeId, id.index < old.scopes.size ->
      (new.scopes.get id).parent = (old.scopes.get id).parent)
    (tables : ∀ id kind, new.scopes.table id kind = old.scopes.table id kind)
    (queue : new.queue = old.queue) : new.Gathered := by
  have unworked : new.Unworked := by
    refine gathered.unworked.congr (fun id => (congrArg Node.work (core id) :)) ?_
    intro scope kind name definition found
    rw [tables] at found
    exact gathered.unworked.declared scope kind name definition found
  exact gathered.congr size (fun id => Node.standing_of_core (core id))
    (fun id => (congrArg Node.name (core id) :)) (fun id _ => (congrArg Node.occurs (core id) :))
    unworked registry more parents tables queue

variable {model : Model}

theorem Gathered.changeNode (gathered : model.Gathered) (id : NodeId) {f : Node -> Node}
    (keeps : ∀ node, (f node).core = node.core) : (model.changeNode id f).Gathered :=
  gathered.noted (by simp) (fun other => keeps_changeNode Node.core model id other keeps)
    gathered.shaped.registry (Nat.le_refl _) (fun _ _ => rfl) (fun _ _ => rfl) rfl

theorem Gathered.setType (gathered : model.Gathered) (scope : ScopeId) (id : NodeId) :
    ({ model with scopes := model.scopes.setType scope id } : Model).Gathered := by
  refine gathered.noted rfl (fun _ => rfl) ?_ (by simp) (by simp) (by simp) rfl
  exact gathered.shaped.registry.grow (by simp) (by simp)

theorem Gathered.create (gathered : model.Gathered) (parent : Option ScopeId)
    (home : Option NamespaceId) {new : Model} (nodes : new.nodes = model.nodes)
    (queue : new.queue = model.queue) (scopes : new.scopes = model.scopes.create parent home)
    (registry : new.namespaces.Rooted new.scopes) : new.Gathered := by
  refine gathered.noted (by simp [nodes]) ?_ registry (by simp [scopes]) ?_ (by simp [scopes]) queue
  · intro id
    simp [node, nodes]
  · intro id inside
    rw [scopes]
    exact Scopes.parent_create_of_lt _ _ _ inside

theorem Gathered.register (gathered : model.Gathered) (name url short : Option String) :
    (model.register name url short).1.Gathered := by
  have registry := gathered.shaped.registry.register name url short
  rcases gathered.shaped.registry.scopes_register name url short with same | ⟨home, grown⟩
  · refine gathered.noted rfl (fun _ => rfl) registry ?_ ?_ ?_ rfl <;>
      simp [Model.register, same]
  · exact gathered.create (some Builtin.scope) home rfl rfl grown registry

theorem Gathered.createChild (gathered : model.Gathered) (outer : ScopeId)
    (skipped : Array Skipped) :
    ({ model with scopes := model.scopes.createChild outer, skipped := skipped } : Model).Gathered := by
  refine gathered.create (some outer) (model.scopes.get outer).home rfl rfl rfl ?_
  refine gathered.shaped.registry.grow (by simp [Scopes.createChild]) fun id inside => ?_
  exact Scopes.parent_create_of_lt _ _ _ inside

theorem Gathered.setOccurs (gathered : model.Gathered) {id : NodeId} (occurs : Occurs)
    (unnamed : (model.node id).name = none) (plain : (model.node id).kind ≠ .attributeGroup) :
    (model.setOccurs id occurs).Gathered := by
  have keeps {α : Type} (look : Node -> α) (other : NodeId)
      (same : ∀ node : Node, look { node with occurs := occurs } = look node) :
      look ((model.setOccurs id occurs).node other) = look (model.node other) :=
    keeps_changeNode look model id other same
  refine gathered.congr (by simp [Model.setOccurs]) (fun other => keeps Node.standing other fun _ => rfl)
    (fun other => keeps Node.name other fun _ => rfl) ?_ ?_ gathered.shaped.registry (Nat.le_refl _)
    (fun _ _ => rfl) (fun _ _ => rfl) rfl
  · intro other counted
    rw [Model.setOccurs, node_changeNode, if_neg]
    rintro ⟨rfl, -⟩
    rcases counted with named | grouped
    · exact named unnamed
    · exact plain grouped
  · exact gathered.unworked.congr (fun other => keeps Node.work other fun _ => rfl)
      gathered.unworked.declared

theorem Gathered.resolve (gathered : model.Gathered) {id : NodeId}
    (plain : (model.node id).kind.isDeferred = false) :
    (model.changeNode id fun node => { node with isResolved := true }).Gathered := by
  have keeps {α : Type} (look : Node -> α) (other : NodeId)
      (same : ∀ node : Node, look { node with isResolved := true } = look node) :
      look ((model.changeNode id fun node => { node with isResolved := true }).node other) =
        look (model.node other) :=
    keeps_changeNode look model id other same
  refine gathered.congr (by simp) (fun other => keeps Node.standing other fun _ => rfl)
    (fun other => keeps Node.name other fun _ => rfl) (fun other _ => keeps Node.occurs other fun _ => rfl)
    ?_ gathered.shaped.registry (Nat.le_refl _) (fun _ _ => rfl) (fun _ _ => rfl) rfl
  constructor
  case referent =>
    intro other
    rw [keeps Node.referent other fun _ => rfl]
    exact gathered.unworked.referent other
  case base =>
    intro other
    rw [keeps Node.base other fun _ => rfl]
    exact gathered.unworked.base other
  case waiting =>
    intro other
    rw [keeps Node.kind other fun _ => rfl, node_changeNode]
    split
    next same => exact fun _ => same.1 ▸ plain
    next => exact gathered.unworked.waiting other
  case declared => exact gathered.unworked.declared

theorem Gathered.defer (gathered : model.Gathered) {id : NodeId} (tag : model.IsTag id)
    (kind : (model.node id).kind.isDeferred = true)
    (opened : ∀ task : TaskId, task.index < model.queue.size ->
      (model.queue.get task).node ∉ id :: model.ancestors id) : (model.defer id).Gathered where
  shaped := gathered.shaped.congr rfl (fun _ => rfl) gathered.shaped.registry (Nat.le_refl _)
    fun _ _ => rfl
  filed := gathered.filed
  homed := gathered.homed
  tallied := gathered.tallied
  queued := gathered.queued.defer tag kind opened
  unworked := ⟨gathered.unworked.referent, gathered.unworked.base, gathered.unworked.waiting,
    gathered.unworked.declared⟩
  single := gathered.single

theorem Shaped.own_define (shaped : model.Shaped) {id parent other : NodeId} {kind among : Symbols}
    (inside : (model.node id).parent = some parent) (tag : model.IsTag other)
    (plain : (model.node other).kind ≠ .schema) (name label : QName) (target : NodeId)
    (occurs : Occurs) :
    ((model.scopes.define (model.node id).scope kind name target occurs).table
        (model.node other).scope among).own label =
      (model.scopes.table (model.node other).scope among).own label +
        if other = parent ∧ among = kind ∧ label = name then (occurs : Bounds) else 0 := by
  have stands := shaped.standsIn inside
  rw [Scopes.define, shaped.surrounding_eq inside, Scopes.add]
  by_cases here : other = parent ∧ among = kind
  next =>
    obtain ⟨rfl, rfl⟩ := here
    rw [Scopes.table_changeTable_self _ _ _ (shaped.held other tag), SymbolTable.own_add]
    simp [Definition.own]
  next =>
    rw [Scopes.table_changeTable_of_ne, if_neg, add_zero]
    · rintro ⟨rfl, rfl, -⟩
      exact here ⟨rfl, rfl⟩
    · by_cases same : other = parent
      · exact Or.inr fun kinds => here ⟨same, kinds⟩
      · exact Or.inl fun scopes => same (shaped.apart other parent tag stands.tag plain scopes)

section Naming

variable {id parent : NodeId} {kind : Symbols} {name : QName}

theorem node_enter (tag : model.IsTag id) (other : NodeId) :
    (model.enter id kind name).node other =
      if other = id then { model.node other with name := some name } else model.node other := by
  refine (node_changeNode model id other _).trans ?_
  by_cases same : other = id
  · simp [same, tag.2]
  · simp [same]

theorem keeps_enter {α : Type} (look : Node -> α) (tag : model.IsTag id) (other : NodeId)
    (same : ∀ node : Node, look { node with name := some name } = look node) :
    look ((model.enter id kind name).node other) = look (model.node other) := by
  rw [node_enter tag]
  split
  · exact same _
  · rfl

theorem size_enter : (model.enter id kind name).nodes.size = model.nodes.size :=
  size_changeNode model id _

theorem scopes_enter : (model.enter id kind name).scopes =
    model.scopes.add (model.scopes.surrounding (model.node id).scope) kind name
      ⟨id, (model.node id).occurs, false⟩ := rfl

theorem Unworked.enter (unworked : model.Unworked) (tag : model.IsTag id) :
    (model.enter id kind name).Unworked := by
  refine unworked.congr (fun other => keeps_enter Node.work tag other fun _ => rfl) ?_
  intro scope among label definition found
  rw [scopes_enter, Scopes.add] at found
  rcases Scopes.table_changeTable_cases model.scopes _ scope kind among _ with
    same | ⟨-, -, -, changed⟩
  next =>
    rw [same] at found
    exact unworked.declared scope among label definition found
  next =>
    rw [changed] at found
    by_cases hit : label = name
    next =>
      subst hit
      rw [SymbolTable.add, Table.get?_put_self, Option.some.injEq] at found
      subst found
      cases there : (model.scopes.table scope among).get? label with
      | none => rfl
      | some old =>
          have own := unworked.declared scope among label old there
          simp [Definition.merge, own]
    next =>
      rw [SymbolTable.add, Table.get?_put_of_ne _ _ hit] at found
      exact unworked.declared scope among label definition found

theorem Filed.enter (filed : model.Filed) (tag : model.IsTag id)
    (unnamed : (model.node id).name = none) (listed : (model.node id).kind.symbols? = some kind) :
    (model.enter id kind name).Filed := by
  have still : model.scopes.Lead (model.enter id kind name).Bears := by
    refine filed.mono fun among label target bears => ?_
    obtain ⟨labelled, within⟩ := bears
    have apart : target ≠ id := by
      rintro rfl
      simp [unnamed] at labelled
    unfold Bears
    rw [node_enter tag, if_neg apart]
    exact ⟨labelled, within⟩
  unfold Filed
  rw [scopes_enter]
  refine still.add _ ⟨?_, ?_⟩
  · simp [node_enter tag]
  · rw [keeps_enter Node.kind tag id fun _ => rfl]
    exact listed

theorem Homed.enter (homed : model.Homed) (shaped : model.Shaped) (tag : model.IsTag id)
    (inside : (model.node id).parent = some parent) : (model.enter id kind name).Homed := by
  intro scope among label definition outer found
  have stands := shaped.standsIn inside
  have kept {target : NodeId} (before : ∃ around, (model.node target).parent = some around ∧
      (model.node around).scope = scope) :
      ∃ around, ((model.enter id kind name).node target).parent = some around ∧
        ((model.enter id kind name).node around).scope = scope := by
    obtain ⟨around, stands, there⟩ := before
    refine ⟨around, ?_, ?_⟩
    · rw [keeps_enter Node.parent tag target fun _ => rfl]
      exact stands
    · rw [keeps_enter Node.scope tag around fun _ => rfl]
      exact there
  rw [scopes_enter, shaped.surrounding_eq inside,
    Scopes.get?_add model.scopes (shaped.held parent stands.tag)] at found
  unfold Definition.join at found
  split at found
  next => exact kept (homed scope among label definition outer found)
  next added there =>
    cases found
    have here := (Option.ite_none_right_eq_some.mp there).1
    have same := (Option.ite_none_right_eq_some.mp (Option.ite_none_right_eq_some.mp there).2).2
    cases same
    rcases Definition.target_merge ⟨id, (model.node id).occurs, false⟩
        ((model.scopes.table scope among).get? label) with new | ⟨old, held, target⟩
    · exact kept (new ▸ ⟨parent, inside, here.symm⟩)
    · exact kept (target ▸ homed scope among label old outer held)

theorem Tallied.enter (tallied : model.Tallied) (shaped : model.Shaped) (unworked : model.Unworked)
    (tag : model.IsTag id) (inside : (model.node id).parent = some parent)
    (unnamed : (model.node id).name = none) (listed : (model.node id).kind.symbols? = some kind) :
    (model.enter id kind name).Tallied := by
  have after : (model.enter id kind name).Unworked := unworked.enter tag
  refine tallied.step size_enter (fun other => ⟨keeps_enter Node.kind tag other fun _ => rfl,
    keeps_enter Node.parent tag other fun _ => rfl⟩) fun other among label isTag plain member => ?_
  have own : (model.enter id kind name).ownBounds other among label =
      model.ownBounds other among label +
        if other = parent ∧ among = kind ∧ label = name then ((model.node id).occurs : Bounds)
        else 0 := by
    rw [ownBounds, keeps_enter Node.scope tag other fun _ => rfl]
    exact shaped.own_define inside isTag plain name label id _
  have elsewhere (child : NodeId) (apart : child ≠ id) :
      (model.enter id kind name).contributed among child label =
        model.contributed among child label := by
    rw [after.contributed_eq, unworked.contributed_eq]
    refine named_congr among label ?_
    rw [node_enter tag, if_neg apart]
    exact ⟨rfl, rfl, rfl⟩
  have here : (model.enter id kind name).contributed among id label =
      model.contributed among id label +
        if among = kind ∧ label = name then ((model.node id).occurs : Bounds) else 0 := by
    rw [after.contributed_eq, unworked.contributed_eq, named_of_unnamed among label unnamed,
      zero_add]
    simp [named, node_enter tag, listed, eq_comm]
  by_cases around : other = parent
  next =>
    subst around
    refine Or.inr ⟨id, _, (mem_children ..).mpr inside, own, ?_, fun child _ => elsewhere child⟩
    simpa using here
  next =>
    refine Or.inl ⟨by simpa [around] using own, fun child within => elsewhere child ?_⟩
    rintro rfl
    exact around (Option.some.inj (((mem_children ..).mp within).symm.trans inside))

theorem Gathered.enter (gathered : model.Gathered) (tag : model.IsTag id)
    (unnamed : (model.node id).name = none) (listed : (model.node id).kind.symbols? = some kind) :
    (model.enter id kind name).Gathered := by
  obtain ⟨parent, -, inside⟩ := gathered.shaped.parent_of_kind tag (by
    intro schema
    simp [schema, Kind.symbols?] at listed)
  have kinds (other : NodeId) :
      ((model.enter id kind name).node other).kind = (model.node other).kind :=
    keeps_enter Node.kind tag other fun _ => rfl
  have scopes : model.scopes.size ≤ (model.enter id kind name).scopes.size ∧
      ∀ other, ((model.enter id kind name).scopes.get other).parent =
        (model.scopes.get other).parent := by
    simp [scopes_enter, Scopes.add]
  constructor
  case shaped =>
    refine gathered.shaped.congr size_enter (fun other => keeps_enter Node.standing tag other fun _ => rfl)
      ?_ scopes.1 fun other _ => scopes.2 other
    exact gathered.shaped.registry.grow scopes.1 fun other _ => scopes.2 other
  case filed => exact gathered.filed.enter tag unnamed listed
  case homed => exact gathered.homed.enter gathered.shaped tag inside
  case tallied =>
    exact gathered.tallied.enter gathered.shaped gathered.unworked tag inside unnamed listed
  case queued =>
    exact gathered.queued.congr size_enter kinds
      (fun other => keeps_enter Node.parent tag other fun _ => rfl) rfl (fun _ => rfl) fun _ => rfl
  case unworked => exact gathered.unworked.enter tag
  case single =>
    intro other grouped
    rw [kinds] at grouped
    rw [keeps_enter Node.occurs tag other fun _ => rfl]
    exact gathered.single other grouped

end Naming

section Adding

variable {node : Node}

structure Fresh (model : Model) (node : Node) : Prop where
  core : node.IsFresh
  held : node.scope.index < model.scopes.size
  unused : ∀ id, model.IsTag id -> (model.node id).scope ≠ node.scope
  empty : ∀ kind, model.scopes.table node.scope kind = .empty
  root : node.parent = none ->
    node.kind = .schema ∧ (model.scopes.get node.scope).parent = some Builtin.scope
  inside : ∀ parent, node.parent = some parent ->
    model.IsTag parent ∧ (model.node parent).kind.Holds node.kind ∧
      (model.scopes.get node.scope).parent = some (model.node parent).scope ∧
      node.source = (model.node parent).source

theorem isTag_addNode {id : NodeId} (tag : (model.addNode node).IsTag id) :
    id = model.nextNode ∨ model.IsTag id := by
  obtain ⟨above, below⟩ := tag
  rw [size_addNode] at below
  by_cases last : id.index = model.nodes.size
  · exact Or.inl (congrArg NodeId.mk last)
  · exact Or.inr ⟨above, by omega⟩

theorem IsTag.addNode {id : NodeId} (tag : model.IsTag id) : (model.addNode node).IsTag id :=
  ⟨tag.1, by
    have below := tag.2
    rw [size_addNode]
    omega⟩

theorem Shaped.addNode (shaped : model.Shaped) (fresh : model.Fresh node) :
    (model.addNode node).Shaped := by
  have old {id : NodeId} (tag : model.IsTag id) : (model.addNode node).node id = model.node id :=
    node_addNode_of_lt model node tag.2
  constructor
  case builtins => exact Nat.le_trans shaped.builtins (by simp)
  case primitive =>
    intro id primitive
    rw [node_addNode_of_lt model node (Nat.lt_of_lt_of_le primitive shaped.builtins)]
    exact shaped.primitive id primitive
  case registry => exact shaped.registry
  case floor => exact shaped.floor
  case outermost => exact shaped.outermost
  case root =>
    intro id tag alone
    rcases isTag_addNode tag with rfl | before
    · rw [node_addNode_next] at alone ⊢
      exact fresh.root alone
    · rw [old before] at alone ⊢
      exact shaped.root id before alone
  case inside =>
    intro id parent tag within
    rcases isTag_addNode tag with rfl | before
    · rw [node_addNode_next] at within
      obtain ⟨isTag, holds, scope, source⟩ := fresh.inside parent within
      refine ⟨isTag.addNode, isTag.2, ?_, ?_, ?_⟩ <;> rw [node_addNode_next, old isTag]
      · exact holds
      · exact scope
      · exact source
    · rw [old before] at within
      have there := shaped.inside id parent before within
      refine ⟨there.tag.addNode, there.lower, ?_, ?_, ?_⟩ <;> rw [old before, old there.tag]
      · exact there.holds
      · exact there.scope
      · exact there.source
  case held =>
    intro id tag
    rcases isTag_addNode tag with rfl | before
    · rw [node_addNode_next]
      exact fresh.held
    · rw [old before]
      exact shaped.held id before
  case apart =>
    intro a b tagA tagB plain same
    rcases isTag_addNode tagA with rfl | beforeA <;> rcases isTag_addNode tagB with rfl | beforeB
    · rfl
    · rw [node_addNode_next, old beforeB] at same
      -- no other tag has the scope of the new one
      exact absurd same.symm (fresh.unused b beforeB)
    · rw [node_addNode_next, old beforeA] at same
      exact absurd same (fresh.unused a beforeA)
    · rw [old beforeA] at plain
      rw [old beforeA, old beforeB] at same
      exact shaped.apart a b beforeA beforeB plain same

theorem Unworked.addNode (unworked : model.Unworked) (fresh : model.Fresh node) :
    (model.addNode node).Unworked := by
  have either (holds : Node -> Prop) (new : holds node) (old : ∀ id, holds (model.node id))
      (id : NodeId) : holds ((model.addNode node).node id) := by
    rw [node_addNode]
    split
    · exact new
    · exact old id
  constructor
  case referent =>
    exact either (fun node => node.referent = none) (congrArg Node.referent fresh.core :)
      unworked.referent
  case base =>
    exact either (fun node => node.base = none) (congrArg Node.base fresh.core :) unworked.base
  case waiting =>
    refine either (fun node => node.isResolved = true -> node.kind.isDeferred = false) ?_
      unworked.waiting
    intro resolved
    have idle : node.isResolved = false := (congrArg Node.isResolved fresh.core :)
    rw [idle] at resolved
    cases resolved
  case declared => exact unworked.declared

theorem Homed.addNode (homed : model.Homed) (shaped : model.Shaped) :
    (model.addNode node).Homed := by
  intro scope kind name definition outer found
  obtain ⟨parent, inside, there⟩ := homed scope kind name definition outer found
  refine ⟨parent, ?_, ?_⟩
  · rw [node_addNode_of_lt model node (shaped.tag_of_parent inside).2]
    exact inside
  · rw [node_addNode_of_lt model node (shaped.standsIn inside).tag.2]
    exact there

theorem children_addNode (model : Model) (node : Node) (id : NodeId) :
    (model.addNode node).children id =
      model.children id ++ if node.parent = some id then [model.nextNode] else [] := by
  have before : ((List.range model.nodes.size).map NodeId.mk).filter
        (fun child => decide (((model.addNode node).node child).parent = some id)) =
      model.children id := by
    refine List.filter_congr fun child member => ?_
    obtain ⟨index, below, rfl⟩ := List.mem_map.mp member
    rw [node_addNode_of_lt model node (List.mem_range.mp below)]
  have last := node_addNode_next model node
  rw [children, size_addNode, List.range_succ, List.map_append, List.filter_append, before]
  by_cases inside : node.parent = some id <;> simp [nextNode] at last <;> simp [last, inside, nextNode]

theorem Tallied.addNode (tallied : model.Tallied) (unworked : model.Unworked)
    (shaped : model.Shaped) (fresh : model.Fresh node) : (model.addNode node).Tallied := by
  have after := unworked.addNode fresh
  intro id kind name tag plain member
  have silent : (model.addNode node).contributed kind model.nextNode name = 0 := by
    have unnamed : node.name = none := (congrArg Node.name fresh.core :)
    rw [after.contributed_eq]
    exact named_of_unnamed kind name (by rw [node_addNode_next, unnamed])
  have same (child : NodeId) (inside : child ∈ model.children id) :
      (model.addNode node).contributed kind child name = model.contributed kind child name := by
    have there := (shaped.tag_of_parent ((mem_children ..).mp inside)).2
    rw [after.contributed_eq, unworked.contributed_eq]
    exact named_congr kind name (by rw [node_addNode_of_lt model node there]; exact ⟨rfl, rfl, rfl⟩)
  have sum : (((model.addNode node).children id).map fun child =>
        (model.addNode node).contributed kind child name).sum =
      ((model.children id).map fun child => model.contributed kind child name).sum := by
    rw [children_addNode, List.map_append, List.sum_append, List.map_congr_left same]
    split <;> simp [silent]
  rw [sum]
  rcases isTag_addNode tag with rfl | before
  next =>
    have childless : model.children model.nextNode = [] := by
      refine List.eq_nil_iff_forall_not_mem.mpr fun child inside => ?_
      have parent := shaped.standsIn ((mem_children ..).mp inside)
      exact Nat.lt_irrefl _ parent.tag.2
    simp only [ownBounds, node_addNode_next, childless, List.map_nil, List.sum_nil]
    change (model.scopes.table node.scope kind).own name = 0
    rw [fresh.empty]
    rfl
  next =>
    rw [node_addNode_of_lt model node before.2] at plain
    rw [← tallied id kind name before plain member]
    exact ownBounds_congr kind name (by rw [node_addNode_of_lt model node before.2]) rfl

theorem Gathered.addNode (gathered : model.Gathered) (fresh : model.Fresh node) :
    (model.addNode node).Gathered where
  shaped := gathered.shaped.addNode fresh
  filed := by
    refine gathered.filed.mono fun kind name target bears => ?_
    have there : target.index < model.nodes.size := by
      refine Nat.not_le.mp fun outside => ?_
      have named := bears.1
      rw [node_of_size_le model outside] at named
      cases named
    unfold Bears
    rw [node_addNode_of_lt model node there]
    exact bears
  homed := gathered.homed.addNode gathered.shaped
  tallied := gathered.tallied.addNode gathered.unworked gathered.shaped fresh
  queued := gathered.queued.grow (by simp)
    (fun id inside => by rw [node_addNode_of_lt model node inside]) rfl
  unworked := gathered.unworked.addNode fresh
  single := by
    intro id
    rw [node_addNode]
    split
    · exact fun _ => (congrArg Node.occurs fresh.core :)
    · exact gathered.single id

end Adding

section Sourcing

variable {id : NodeId} {root : ScopeId} {source : Option SourceId}

def settle (model : Model) (id : NodeId) (source : Option SourceId) (root : ScopeId) : Model :=
  model.changeNode id fun node => { node with source := source, scope := root }

theorem node_settle_of_ne {other : NodeId} (apart : other ≠ id) :
    (model.settle id source root).node other = model.node other := by
  rw [settle, node_changeNode, if_neg fun same => apart same.1]

theorem keeps_settle {α : Type} (look : Node -> α) (other : NodeId)
    (same : ∀ node : Node, look { node with source := source, scope := root } = look node) :
    look ((model.settle id source root).node other) = look (model.node other) :=
  keeps_changeNode look model id other same

theorem Shaped.settle (shaped : model.Shaped) (tag : model.IsTag id)
    (schema : (model.node id).kind = .schema) (last : id.index + 1 = model.nodes.size)
    (held : root.index < model.scopes.size)
    (around : (model.scopes.get root).parent = some Builtin.scope) :
    (model.settle id source root).Shaped := by
  have self : (model.settle id source root).node id =
      { model.node id with source := source, scope := root } := by
    rw [Model.settle, node_changeNode, if_pos ⟨rfl, tag.2⟩]
  have size : (model.settle id source root).nodes.size = model.nodes.size := size_changeNode ..
  have parents (other : NodeId) : ((model.settle id source root).node other).parent =
      (model.node other).parent := keeps_settle Node.parent other fun _ => rfl
  have kinds (other : NodeId) : ((model.settle id source root).node other).kind =
      (model.node other).kind := keeps_settle Node.kind other fun _ => rfl
  have isTag {other : NodeId} (tag : (model.settle id source root).IsTag other) :
      model.IsTag other := ⟨tag.1, size ▸ tag.2⟩
  have alone := shaped.parent_of_schema schema
  constructor
  case builtins => exact size ▸ shaped.builtins
  case primitive =>
    intro other primitive
    have apart : other ≠ id := by
      rintro rfl
      exact Nat.not_lt.mpr tag.1 primitive
    rw [node_settle_of_ne apart]
    exact shaped.primitive other primitive
  case registry => exact shaped.registry
  case floor => exact shaped.floor
  case outermost => exact shaped.outermost
  case root =>
    intro other there outermost
    rw [parents] at outermost
    by_cases same : other = id
    · subst same
      rw [self]
      exact ⟨schema, around⟩
    · rw [node_settle_of_ne same]
      exact shaped.root other (isTag there) outermost
  case inside =>
    intro other parent there inside
    rw [parents] at inside
    have stands := shaped.standsIn inside
    have apart : other ≠ id := by
      rintro rfl
      simp [alone] at inside
    -- nothing stands in the newest tag yet
    have outer : parent ≠ id := by
      rintro rfl
      have below := (isTag there).2
      have lower := stands.lower
      omega
    refine ⟨⟨stands.tag.1, size ▸ stands.tag.2⟩, stands.lower, ?_, ?_, ?_⟩ <;>
      rw [node_settle_of_ne apart, node_settle_of_ne outer]
    · exact stands.holds
    · exact stands.scope
    · exact stands.source
  case held =>
    intro other there
    by_cases same : other = id
    · subst same
      rw [self]
      exact held
    · rw [node_settle_of_ne same]
      exact shaped.held other (isTag there)
  case apart =>
    intro a b thereA thereB plain same
    rw [kinds] at plain
    have apart : a ≠ id := by
      rintro rfl
      exact plain schema
    rw [node_settle_of_ne apart] at same
    by_cases other : b = id
    next =>
      subst other
      rw [self] at same
      obtain ⟨parent, stands, -⟩ := shaped.parent_of_kind (isTag thereA) plain
      have inside := stands.scope
      rw [same, around] at inside
      exact absurd (Option.some.inj inside).symm (shaped.scope_ne_builtin stands.tag)
    next =>
      rw [node_settle_of_ne other] at same
      exact shaped.apart a b (isTag thereA) (isTag thereB) plain same

theorem Gathered.settle (gathered : model.Gathered) (tag : model.IsTag id)
    (schema : (model.node id).kind = .schema) (last : id.index + 1 = model.nodes.size)
    (held : root.index < model.scopes.size)
    (around : (model.scopes.get root).parent = some Builtin.scope) :
    (model.settle id source root).Gathered := by
  have size : (model.settle id source root).nodes.size = model.nodes.size := size_changeNode ..
  have keeps {α : Type} (look : Node -> α) (other : NodeId)
      (same : ∀ node : Node, look { node with source := source, scope := root } = look node) :
      look ((model.settle id source root).node other) = look (model.node other) :=
    keeps_settle look other same
  have kinds (other : NodeId) := keeps Node.kind other fun _ => rfl
  have unworked : (model.settle id source root).Unworked :=
    gathered.unworked.congr (fun other => keeps Node.work other fun _ => rfl)
      gathered.unworked.declared
  constructor
  case shaped => exact gathered.shaped.settle tag schema last held around
  case filed =>
    refine gathered.filed.mono fun kind name target bears => ?_
    unfold Bears
    rw [keeps Node.name target fun _ => rfl, kinds]
    exact bears
  case homed =>
    intro scope kind name definition outer found
    obtain ⟨parent, inside, there⟩ := gathered.homed scope kind name definition outer found
    have stands := gathered.shaped.standsIn inside
    -- nothing stands in the newest tag yet
    have apart : parent ≠ id := by
      rintro rfl
      have below := (gathered.shaped.tag_of_parent inside).2
      have lower := stands.lower
      omega
    refine ⟨parent, ?_, ?_⟩
    · rw [keeps Node.parent definition.target fun _ => rfl]
      exact inside
    · rw [node_settle_of_ne apart]
      exact there
  case tallied =>
    refine gathered.tallied.step size (fun other => ⟨kinds other, keeps Node.parent other fun _ => rfl⟩)
      fun other kind name isTag plain member => Or.inl ⟨?_, fun child inside => ?_⟩
    · have apart : other ≠ id := by
        rintro rfl
        exact plain schema
      exact ownBounds_congr kind name (by rw [node_settle_of_ne apart]) rfl
    · rw [unworked.contributed_eq, gathered.unworked.contributed_eq]
      exact named_congr kind name ⟨kinds child, keeps Node.name child fun _ => rfl,
        keeps Node.occurs child fun _ => rfl⟩
  case queued =>
    exact gathered.queued.congr size kinds (fun other => keeps Node.parent other fun _ => rfl) rfl
      (fun _ => rfl) fun _ => rfl
  case unworked => exact unworked
  case single =>
    intro other grouped
    rw [kinds] at grouped
    rw [keeps Node.occurs other fun _ => rfl]
    exact gathered.single other grouped

end Sourcing

theorem Gathered.addSource (gathered : model.Gathered) (target : NamespaceId) (source : Source) :
    ({ model with
      sources := model.sources.push source
      namespaces := model.namespaces.addSource target ⟨model.sources.size⟩ } : Model).Gathered :=
  gathered.noted rfl (fun _ => rfl) (gathered.shaped.registry.change target fun _ => rfl)
    (Nat.le_refl _) (fun _ _ => rfl) (fun _ _ => rfl) rfl

end Model

namespace Draft

theorem Edit.gathered {first : Nat} {declaring : Option NodeId} {old new : Draft}
    (edit : Edit first declaring old new) (gathered : old.model.Gathered) :
    new.model.Gathered := by
  have shaped := gathered.shaped
  cases edit with
  | document => exact gathered
  | noted _ id f keeps => exact gathered.changeNode id keeps
  | registered _ name url short => exact gathered.register name url short
  | marked _ scope id => exact gathered.setType scope id
  | bounded _ id occurs owned unnamed plain => exact gathered.setOccurs occurs unnamed plain
  | named _ id kind name owned unnamed listed => exact gathered.enter owned.1 unnamed listed
  | sourced _ id target source owned only kind unsourced within =>
      have last : id.index + 1 = old.model.nodes.size := by
        have above := owned.2
        have below := owned.1.2
        omega
      exact (gathered.addSource target source).settle owned.1 kind last
        (shaped.registry.inside target within) (shaped.registry.around target within)
  | body _ outer skipped => exact gathered.createChild outer skipped
  | tag _ outer node fresh scope source admits kept =>
      refine (gathered.createChild outer old.model.skipped).addNode ?_
      have around : ((old.model.scopes.createChild outer).get node.scope).parent = some outer := by
        rw [scope]
        exact Scopes.parent_create_next ..
      constructor
      case core => exact fresh
      case held => simp [scope, Scopes.createChild, Scopes.next]
      case unused =>
        intro id tag same
        have held := shaped.held id tag
        rw [show (old.model.node id).scope = old.model.scopes.next from same.trans scope] at held
        exact Nat.lt_irrefl _ held
      case empty =>
        intro kind
        have empty : old.model.scopes.table old.model.scopes.next kind = .empty := by
          have outside : old.model.scopes.size ≤ old.model.scopes.next.index := Nat.le_refl _
          rw [Scopes.table, Scopes.get_of_size_le _ outside]
          cases kind <;> rfl
        rw [scope]
        exact (Scopes.table_create ..).trans empty
      case root =>
        intro alone
        simp only [Admits, alone] at admits
        exact ⟨admits.1, by rw [around, admits.2]⟩
      case inside =>
        intro parent inside
        simp only [Admits, inside] at admits
        obtain ⟨tag, holds, body, same⟩ := admits
        refine ⟨tag, holds, by rw [around, body]; rfl, source.trans same.symm⟩
  | deferred _ id owned kind opened => exact gathered.defer owned.1 kind opened
  | resolved _ id owned plain => exact gathered.resolve plain

end Draft

end XmlSchema

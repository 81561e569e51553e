import XmlSchema.Proofs.Documents.Founded

set_option autoImplicit false

namespace XmlSchema

namespace Model

structure Spares (old new : Model) : Prop where
  scope : new.scopes.get Builtin.scope = old.scopes.get Builtin.scope
  nodes : ∀ id : NodeId, id.index < Builtin.nodes.length -> new.node id = old.node id

structure Raised (model : Model) (id : NodeId) : Prop where
  self : Builtin.nodes.length ≤ id.index
  parent : ∀ outer, (model.node id).parent = some outer -> Builtin.nodes.length ≤ outer.index
  around : ∀ outer ∈ model.ancestors id,
    Builtin.nodes.length ≤ outer.index ∧ (model.node outer).scope ≠ Builtin.scope
  outside : ∃ outer, (model.scopes.get (model.node id).scope).parent = some outer ∧
    outer ≠ Builtin.scope

variable {old new model : Model} {id : NodeId}

namespace Raised

theorem of_shaped (shaped : model.Shaped) (tag : model.IsTag id)
    (plain : (model.node id).kind ≠ .schema) : model.Raised id where
  self := tag.1
  parent outer inside := (shaped.standsIn inside).tag.1
  around outer inside := by
    have outside := (shaped.of_mem_ancestors inside).1
    exact ⟨outside.1, shaped.scope_ne_builtin outside⟩
  outside := by
    obtain ⟨parent, stands, -⟩ := shaped.parent_of_kind tag plain
    exact ⟨_, stands.scope, shaped.scope_ne_builtin stands.tag⟩

theorem surrounding (raised : model.Raised id) :
    model.scopes.surrounding (model.node id).scope ≠ Builtin.scope := by
  obtain ⟨outer, around, apart⟩ := raised.outside
  rw [Scopes.surrounding, around]
  exact apart

theorem congr (raised : old.Raised id) (parents : ∀ id, (new.node id).parent = (old.node id).parent)
    (bodies : ∀ id, (new.node id).scope = (old.node id).scope)
    (scopes : ∀ id, (new.scopes.get id).parent = (old.scopes.get id).parent) : new.Raised id where
  self := raised.self
  parent := by
    rw [parents]
    exact raised.parent
  around := by
    rw [ancestors_congr parents]
    intro outer inside
    rw [bodies]
    exact raised.around outer inside
  outside := by
    rw [bodies, scopes]
    exact raised.outside

theorem retained (raised : old.Raised id) (retains : old.Retains new) : new.Raised id :=
  raised.congr (fun other => (congrArg Node.parent (retains.written other) :)) retains.scope
    retains.parent

theorem alike (raised : old.Raised id) (alike : old.Alike new) : new.Raised id :=
  raised.congr alike.parent alike.scope alike.parentScope

theorem enclosing (raised : model.Raised id) {accepts : Kind -> Bool} {owner : NodeId}
    (found : model.enclosing id accepts = some owner) :
    Builtin.nodes.length ≤ owner.index ∧ (model.node owner).scope ≠ Builtin.scope :=
  raised.around owner (List.mem_of_find?_eq_some found)

end Raised

namespace Spares

theorem refl (model : Model) : model.Spares model := ⟨rfl, fun _ _ => rfl⟩

theorem trans {middle : Model} (first : old.Spares middle) (second : middle.Spares new) :
    old.Spares new where
  scope := second.scope.trans first.scope
  nodes id below := (second.nodes id below).trans (first.nodes id below)

theorem of_nodes (nodes : new.nodes = old.nodes)
    (scope : new.scopes.get Builtin.scope = old.scopes.get Builtin.scope) : old.Spares new :=
  ⟨scope, fun id _ => Draft.node_congr nodes id⟩

theorem changeNode (model : Model) (above : Builtin.nodes.length ≤ id.index) (f : Node -> Node) :
    model.Spares (model.changeNode id f) := by
  refine ⟨rfl, fun other below => ?_⟩
  rw [node_changeNode, if_neg]
  rintro ⟨rfl, -⟩
  exact Nat.not_lt.mpr above below

theorem changeScope (model : Model) {scope : ScopeId} (apart : scope ≠ Builtin.scope)
    (f : Scope -> Scope) : model.Spares { model with scopes := model.scopes.change scope f } := by
  refine of_nodes rfl ?_
  rw [Scopes.get_change, if_neg]
  exact fun same => apart same.1.symm

theorem define (model : Model) {scope : ScopeId}
    (apart : model.scopes.surrounding scope ≠ Builtin.scope) (kind : Symbols) (name : QName)
    (target : NodeId) (occurs : Occurs) :
    model.Spares (model.define scope kind name target occurs) :=
  changeScope model apart _

theorem create (model : Model) (floor : Builtin.scope.index < model.scopes.size)
    (parent : Option ScopeId) (home : Option NamespaceId) :
    model.Spares { model with scopes := model.scopes.create parent home } := by
  refine of_nodes rfl ?_
  rw [Scopes.get_create, if_neg]
  intro same
  exact Nat.ne_of_lt floor (congrArg ScopeId.index same)

theorem registers (floor : Builtin.scope.index < old.scopes.size) (registers : old.Registers new) :
    old.Spares new :=
  of_nodes registers.nodes (registers.kept _ floor)

theorem addNode (model : Model) (builtins : Builtin.nodes.length ≤ model.nodes.size)
    (node : Node) : model.Spares (model.addNode node) :=
  ⟨rfl, fun _ below => node_addNode_of_lt model node (Nat.lt_of_lt_of_le below builtins)⟩

theorem declareName (raised : model.Raised id) (kind : Symbols) :
    model.Spares (model.declareName id kind).state := by
  unfold Model.declareName
  dsimp only
  split
  next => exact refl model
  next =>
    split
    next => exact refl model
    next =>
      refine (changeNode model raised.self _).trans (define _ ?_ ..)
      exact raised.surrounding

theorem declareOccurs (raised : model.Raised id) : model.Spares (model.declareOccurs id).state := by
  unfold Model.declareOccurs
  dsimp only
  split
  next => exact refl model
  next => exact changeNode model raised.self _

theorem declareAttribute (raised : model.Raised id) :
    model.Spares (model.declareAttribute id).state := by
  unfold Model.declareAttribute
  have still := fun occurs => raised.retained (retains_setOccurs model id occurs)
  exact (changeNode model raised.self _).trans (declareName (still _) _)

theorem declareType (raised : model.Raised id) : model.Spares (model.declareType id).state := by
  unfold Model.declareType
  split
  next => exact declareName raised .types
  next =>
    unfold Model.declareNamelessType
    dsimp only [Attempt.done]
    split
    next union inside =>
      exact changeNode model (raised.parent union (Option.filter_eq_some_iff.mp inside).1) _
    next =>
      split
      next outer around =>
        refine changeScope model (fun same => raised.surrounding ?_) _
        rw [Scopes.surrounding, around]
        exact same
      next => exact refl model

theorem declareEnumeration (raised : model.Raised id) :
    model.Spares (model.declareEnumeration id).state := by
  unfold Model.declareEnumeration
  split
  next => exact refl model
  next =>
    split
    next owner found => exact changeNode model (raised.enclosing found).1 _
    next => exact refl model

theorem markWildcard (raised : model.Raised id) (mark : Node -> Node) :
    model.Spares (model.markWildcard id mark) := by
  unfold Model.markWildcard
  split
  next owner found => exact changeNode model (raised.enclosing found).1 mark
  next => exact refl model

theorem andThen {attempt : Attempt Model} {next : Model -> Attempt Model}
    (first : model.Spares attempt.state)
    (second : attempt.state.Spares (next attempt.state).state) :
    model.Spares (attempt.andThen next).state := by
  unfold Attempt.andThen
  split
  · exact first.trans second
  · exact first

theorem declare (raised : model.Raised id) : model.Spares (model.declare id).state := by
  have bounded := declareOccurs raised
  have still := raised.retained (retains_declareOccurs model id)
  unfold Model.declare
  cases (model.node id).kind with
  | element => exact andThen bounded (declareName still _)
  | attributeTag => exact declareAttribute raised
  | complexType => exact declareType raised
  | simpleType => exact declareType raised
  | group => exact andThen bounded (declareName still _)
  | attributeGroup => exact declareName raised _
  | sequence => exact bounded
  | choice => exact bounded
  | all => exact bounded
  | any => exact andThen bounded (markWildcard still _)
  | anyAttribute => exact markWildcard raised _
  | enumeration => exact declareEnumeration raised
  | _ => exact refl model

end Spares

end Model

namespace Draft

variable {draft new : Draft} {id : NodeId}

theorem Tells.spares (tells : draft.Tells id new) (shaped : draft.model.Shaped)
    (tag : draft.model.IsTag id) : draft.model.Spares new.model := by
  cases tells with
  | source =>
      have registers := Model.Registers.registerRoot draft.model draft.document
      rw [Model.declareSource_eq]
      refine (Model.Spares.registers shaped.floor registers).trans ?_
      dsimp only
      refine Model.Spares.trans ?_ (.changeNode _ tag.1 _)
      exact .of_nodes rfl rfl
  | second => exact .refl _
  | request => exact .registers shaped.floor (.registerImport draft id)
  | other plain => exact .declare (.of_shaped shaped tag plain)

end Draft

namespace Reading

structure Spares (start : Model) (reading : Reading) : Prop where
  model : start.Spares reading.model
  captures : ∀ frame ∈ reading.frames, ∀ id, frame.capture = some id ->
    Builtin.nodes.length ≤ id.index

namespace Spares

variable {start : Model} {reading : Reading}

theorem plain (spares : reading.Spares start) (sound : reading.Sound start) {outer : Frame}
    (inside : outer ∈ reading.frames) (document : Document) (place : Option Place)
    (skipped : Array Skipped) : Spares start
      ⟨⟨{ reading.model with
            scopes := reading.model.scopes.createChild outer.scope, skipped := skipped }, document⟩,
        ⟨place, reading.model.scopes.next, none, outer.capture⟩ :: reading.frames⟩ := by
  have made : start.Spares
      { reading.model with scopes := reading.model.scopes.createChild outer.scope } :=
    spares.model.trans (.create reading.model sound.draft.gathered.shaped.floor _ _)
  exact ⟨⟨made.scope, made.nodes⟩,
    List.forall_mem_cons.mpr ⟨spares.captures outer inside, spares.captures⟩⟩

theorem openNode (spares : reading.Spares start) (sound : reading.Sound start) {outer : Frame}
    {rest : List Frame} (frames : reading.frames = outer :: rest) (line : Nat)
    (attributes : List (String × String)) {kind : Kind} {name : QName}
    (child : (outer.place.bind fun place => place.child name) = some (.tag kind)) :
    (reading.openNode line attributes outer kind).state.Spares start := by
  let node : Node := { Node.fresh kind reading.model.scopes.next with
    attributes := .keep kind attributes
    source := reading.draft.document.source
    line := line
    parent := reading.nearestNode }
  let added := reading.draft.withTag outer.scope node
  have admits := @Sound.admits _ _ sound _ _ frames _ node child rfl
  have shaped : added.model.Shaped :=
    ((Draft.Edit.tag reading.draft outer.scope node rfl rfl rfl admits ⟨attributes, rfl⟩).sound
      sound.draft).gathered.shaped
  have before := sound.draft.gathered.shaped
  have tag : added.model.IsTag reading.model.nextNode :=
    ⟨before.builtins, Nat.lt_of_lt_of_eq (Nat.lt_succ_self _) (Model.size_addNode ..).symm⟩
  have withTag : start.Spares added.model := by
    refine (spares.model.trans (.create reading.model before.floor _ _)).trans (.addNode _ ?_ node)
    exact before.builtins
  have declared := withTag.trans ((Draft.tells_declare added _).spares shaped tag)
  have outermost := spares.captures outer (frames ▸ List.mem_cons_self)
  unfold Reading.openNode
  dsimp only
  split
  next => exact ⟨declared, spares.captures⟩
  next =>
    refine ⟨declared, List.forall_mem_cons.mpr ⟨fun id there => ?_, spares.captures⟩⟩
    dsimp only at there
    split at there
    · cases there
      exact before.builtins
    · exact outermost id there

theorem closeNode (spares : reading.Spares start) (sound : reading.Sound start)
    {frame outer : Frame} {rest : List Frame} (frames : reading.frames = frame :: outer :: rest)
    {id : NodeId} (node : frame.node = some id) :
    start.Spares (Reading.closeNode reading.draft id).model := by
  have owned := sound.framed.owned (frames ▸ List.mem_cons_self) node
  have noted : reading.model.Spares (document reading.model id) := by
    unfold document
    dsimp only
    split
    next described =>
      split
      next owner found =>
        have plain : (reading.model.node id).kind ≠ .schema := by
          intro schema
          simp [schema] at described
        exact .changeNode _
          (Model.Raised.of_shaped sound.draft.gathered.shaped owned.1 plain |>.enclosing found).1 _
      next => exact .refl _
    next => exact .refl _
  refine spares.model.trans (noted.trans ?_)
  unfold Reading.closeNode
  dsimp only
  split
  · exact .of_nodes rfl rfl
  · exact .changeNode _ owned.1.1 _

theorem addText (spares : reading.Spares start) (content : String) :
    (reading.addText content).Spares start := by
  unfold Reading.addText
  split
  next id there =>
    obtain ⟨frame, first, capture⟩ := Option.bind_eq_some_iff.mp there
    have above := spares.captures frame (List.mem_of_mem_head? first) id capture
    exact ⟨spares.model.trans (.changeNode reading.model above _), spares.captures⟩
  next => exact spares

theorem step (spares : reading.Spares start) (sound : reading.Sound start) (limits : Limits)
    (item : Markup.Item) : (reading.step limits item).state.Spares start := by
  have rooted (attributes : List (String × String)) : (reading.rooted attributes).Spares start :=
    ⟨spares.model, spares.captures⟩
  have outcome := reading.outcome_step limits item
  generalize reading.step limits item = attempt at outcome ⊢
  cases outcome with
  | stopped => exact spares
  | misplaced attributes => exact rooted attributes
  | node opens around child => exact (rooted _).openNode (sound.rooted _) around _ _ child
  | plain name skipped opens around free =>
      exact spares.plain sound (around ▸ List.mem_cons_self) _ _ skipped
  | text takes => exact spares.addText _
  | closes closing frames node =>
      exact ⟨spares.closeNode sound frames node, fun _ member =>
        spares.captures _ (frames ▸ List.mem_cons_of_mem _ member)⟩
  | passes closing frames node =>
      exact ⟨spares.model, fun _ member =>
        spares.captures _ (frames ▸ List.mem_cons_of_mem _ member)⟩

theorem steps (spares : reading.Spares start) (sound : reading.Sound start) (base : start.Gathered)
    (limits : Limits) (items : List Markup.Item) :
    (reading.steps limits items).state.Spares start := by
  induction items generalizing reading with
  | nil => exact spares
  | cons item rest ih =>
      have next := spares.step sound limits item
      unfold Reading.steps
      dsimp only
      split
      next going => exact ih next ((sound.step base limits item).2 going)
      next => exact next

end Spares

end Reading

namespace Compilation

variable {options : Options} {fetch : Fetch} {old new : Compilation}

theorem spares_reading (sound : old.Sound) (options : Options) (requested : Url)
    (adopted : Option String) (canonical : Url) (items : List Markup.Item) :
    old.model.Spares (old.reading options requested adopted canonical items).model := by
  have start : (Reading.start old.model (.fresh canonical requested adopted)).Spares old.model := by
    refine ⟨.refl _, fun frame member id there => ?_⟩
    rw [List.mem_singleton.mp member] at there
    cases there
  exact (start.steps (Draft.sound_start sound.gathered rfl rfl) sound.gathered options.limits
    items).model

theorem Change.spares (change : Change options fetch old new) (sound : old.Sound) :
    old.model.Spares new.model := by
  refine change.keeps_model (.refl _) (fun requested adopted fetched => ?_)
    fun _ _ read => read.trans (.of_nodes rfl rfl)
  rw [Draft.state_read]
  exact spares_reading sound ..

theorem Changes.spares (changes : Changes options fetch .empty new) :
    Model.empty.Spares new.model := by
  induction changes with
  | refl => exact .refl _
  | tail before change ih => exact ih.trans (change.spares (Changes.sound before))

end Compilation

end XmlSchema

import XmlSchema.Proofs.Reading.Allotment

set_option autoImplicit false

namespace XmlSchema

namespace Namespaces

structure Grounds (namespaces : Namespaces) (scopes : Scopes) : Prop where
  rooted : namespaces.Rooted scopes
  floor : Builtin.scope.index < scopes.size
  lower : ∀ id outer, (scopes.get id).parent = some outer -> outer.index < id.index
  homes : ∀ id home, (scopes.get id).home = some home -> home.index < namespaces.size
  uses : ∀ id, ∀ used ∈ (namespaces.get id).references, used.index < namespaces.size

namespace Grounds

variable {namespaces : Namespaces} {scopes : Scopes}

theorem congr (grounds : namespaces.Grounds scopes) {other : Scopes}
    (size : other.size = scopes.size)
    (parent : ∀ id, (other.get id).parent = (scopes.get id).parent)
    (home : ∀ id, (other.get id).home = (scopes.get id).home) : namespaces.Grounds other where
  rooted := grounds.rooted.grow (Nat.le_of_eq size.symm) fun id _ => parent id
  floor := size ▸ grounds.floor
  lower id outer around := grounds.lower id outer (parent id ▸ around)
  homes id owner there := grounds.homes id owner (home id ▸ there)
  uses := grounds.uses

theorem create (grounds : namespaces.Grounds scopes) {outer : ScopeId}
    (inside : outer.index < scopes.size) {home : Option NamespaceId}
    (owned : ∀ owner, home = some owner -> owner.index < namespaces.size) :
    namespaces.Grounds (scopes.create (some outer) home) where
  rooted := grounds.rooted.grow (by simp) fun id within => Scopes.parent_create_of_lt _ _ _ within
  floor := Nat.lt_of_lt_of_le grounds.floor (by simp)
  lower id other around := by
    rw [Scopes.get_create] at around
    split at around
    next same =>
      cases around
      rw [same]
      exact inside
    next => exact grounds.lower id other around
  homes id owner there := by
    rw [Scopes.get_create] at there
    split at there
    next => exact owned owner there
    next => exact grounds.homes id owner there
  uses := grounds.uses

theorem createChild (grounds : namespaces.Grounds scopes) {outer : ScopeId}
    (inside : outer.index < scopes.size) : namespaces.Grounds (scopes.createChild outer) :=
  grounds.create inside (grounds.homes outer)

theorem describe (grounds : namespaces.Grounds scopes) {id : NamespaceId}
    (within : id.index < namespaces.size) (name url short : Option String) :
    (namespaces.describe id name url short).Grounds scopes where
  rooted := grounds.rooted.describe within name url short
  floor := grounds.floor
  lower := grounds.lower
  homes other owner there := by
    rw [size_describe]
    exact grounds.homes other owner there
  uses other used member := by
    rw [keeps_describe Namespace.references (fun _ _ _ _ => rfl)] at member
    rw [size_describe]
    exact grounds.uses other used member

theorem push (grounds : namespaces.Grounds scopes) :
    ({ namespaces with all := namespaces.all.push (.fresh scopes.next) } : Namespaces).Grounds
      (scopes.create (some namespaces.builtins) (some ⟨namespaces.size⟩)) := by
  have size : ({ namespaces with all := namespaces.all.push (.fresh scopes.next) } :
      Namespaces).size = namespaces.size + 1 := Array.size_push ..
  refine ⟨grounds.rooted.push _, Nat.lt_of_lt_of_le grounds.floor (by simp), fun id outer around => ?_,
    fun id owner there => ?_, fun id used member => ?_⟩
  · rw [Scopes.get_create] at around
    split at around
    next same =>
      cases around
      rw [same, grounds.rooted.builtins]
      exact grounds.floor
    next => exact grounds.lower id outer around
  · rw [size]
    rw [Scopes.get_create] at there
    split at there
    next =>
      cases there
      exact Nat.lt_succ_self _
    next => exact Nat.lt_succ_of_lt (grounds.homes id owner there)
  · rw [size]
    rw [get_push] at member
    split at member
    next => cases member
    next => exact Nat.lt_succ_of_lt (grounds.uses id used member)

theorem register (grounds : namespaces.Grounds scopes) (name url short : Option String) :
    (namespaces.register scopes name url short).namespaces.Grounds
      (namespaces.register scopes name url short).scopes := by
  unfold Namespaces.register
  dsimp only
  split
  next id found => exact grounds.describe (grounds.rooted.known found) ..
  next => exact grounds.push.describe (by simp [size]) ..

theorem addSource (grounds : namespaces.Grounds scopes) (id : NamespaceId) (source : SourceId) :
    (namespaces.addSource id source).Grounds scopes where
  rooted := grounds.rooted.change id fun _ => rfl
  floor := grounds.floor
  lower := grounds.lower
  homes other owner there := by
    rw [size_addSource]
    exact grounds.homes other owner there
  uses other used member := by
    have same : ((namespaces.addSource id source).get other).references = _ :=
      keeps_change Namespace.references namespaces id other fun _ => rfl
    rw [size_addSource]
    exact grounds.uses other used (same ▸ member)

end Grounds

end Namespaces

namespace Model

structure Grounded (model : Model) : Prop where
  scopes : model.namespaces.Grounds model.scopes
  bodies : ∀ id, (model.node id).scope.index < model.scopes.size
  defaults : ∀ source id, (model.source source).defaultNamespace = some id ->
    id.index < model.namespaces.size

namespace Grounded

variable {old new : Model}

theorem retained (grounded : old.Grounded) (retains : old.Retains new) : new.Grounded where
  scopes := retains.namespaces ▸
    grounded.scopes.congr retains.scopes retains.parent retains.home
  bodies id := by
    rw [retains.scope, retains.scopes]
    exact grounded.bodies id
  defaults source id there := by
    rw [retains.namespaces]
    unfold Model.source at there
    rw [retains.sources] at there
    exact grounded.defaults source id there

theorem still (grounded : old.Grounded) (still : old.Still new) : new.Grounded where
  scopes := by
    rw [still.namespaces, still.scopes]
    exact grounded.scopes
  bodies id := by
    rw [Node.scope_of_written (Node.written_of_told (still.told id)), still.scopes]
    exact grounded.bodies id
  defaults source id there := by
    rw [still.namespaces]
    unfold Model.source at there
    rw [still.sources] at there
    exact grounded.defaults source id there

theorem withBody (grounded : old.Grounded) {outer : ScopeId}
    (inside : outer.index < old.scopes.size) (skipped : Array Skipped) :
    Grounded { old with scopes := old.scopes.createChild outer, skipped := skipped } where
  scopes := grounded.scopes.createChild inside
  bodies id := Nat.lt_of_lt_of_le (grounded.bodies id) (by simp [Scopes.createChild])
  defaults := grounded.defaults

theorem withTag {draft : Draft} (grounded : draft.model.Grounded) {outer : ScopeId}
    (inside : outer.index < draft.model.scopes.size) {node : Node}
    (scope : node.scope = draft.model.scopes.next) : (draft.withTag outer node).model.Grounded where
  scopes := grounded.scopes.createChild inside
  bodies id := by
    have size : (draft.withTag outer node).model.scopes.size = draft.model.scopes.size + 1 :=
      Scopes.size_create ..
    rw [Draft.node_withTag, size]
    split
    next =>
      rw [scope]
      exact Nat.lt_succ_self _
    next => exact Nat.lt_succ_of_lt (grounded.bodies id)
  defaults := grounded.defaults

theorem register (grounded : old.Grounded) (name url short : Option String) :
    (old.register name url short).1.Grounded where
  scopes := grounded.scopes.register name url short
  bodies id :=
    Nat.lt_of_lt_of_le (grounded.bodies id) (Registers.register old name url short).scopes
  defaults source id there :=
    Nat.lt_of_lt_of_le (grounded.defaults source id there) (Namespaces.size_register_le ..)

theorem registerPrefixes (grounded : old.Grounded) (bound : List (String × String)) :
    (old.registerPrefixes bound).Grounded := by
  induction bound generalizing old with
  | nil => exact grounded
  | cons entry rest ih => exact ih (grounded.register (some entry.2) none (some entry.1))

theorem registerDefault (grounded : old.Grounded) (uri : Option String) :
    (old.registerDefault uri).1.Grounded ∧ ∀ id, (old.registerDefault uri).2 = some id ->
      id.index < (old.registerDefault uri).1.namespaces.size := by
  unfold Model.registerDefault
  split
  next uri _ =>
    refine ⟨grounded.register (some uri) none none, fun id there => ?_⟩
    cases there
    exact grounded.scopes.rooted.id_register (some uri) none none
  next => exact ⟨grounded, fun id there => by cases there⟩

theorem registerRoot (grounded : old.Grounded) (document : Document) :
    (old.registerRoot document).1.Grounded ∧ ∀ id, (old.registerRoot document).2 = some id ->
      id.index < (old.registerRoot document).1.namespaces.size :=
  ((grounded.register _ _ _).registerPrefixes _).registerDefault _

theorem registerImport {draft : Draft} (grounded : draft.model.Grounded) (id : NodeId) :
    (draft.registerImport id).model.Grounded := by
  unfold Draft.registerImport
  split
  · exact grounded.register ..
  · exact grounded

theorem declareSource (grounded : old.Grounded) (document : Document) (id : NodeId) :
    (old.declareSource document id).1.Grounded := by
  obtain ⟨registered, default_⟩ := grounded.registerRoot document
  have target := target_newSource grounded.scopes.rooted document
  rw [declareSource_eq]
  generalize (old.registerRoot document).1 = root at registered default_ target
  refine ⟨registered.scopes.addSource _ _, fun other => ?_, fun source namespace_ there => ?_⟩
  · rw [node_changeNode]
    split
    next => exact registered.scopes.rooted.inside _ target
    next => exact registered.bodies other
  · refine Nat.lt_of_lt_of_eq ?_ (Namespaces.size_addSource ..).symm
    have look := root.getD_push_source (old.newSource document) source
    replace there := (congrArg Source.defaultNamespace look :).symm.trans there
    split at there
    next => exact default_ namespace_ there
    next => exact registered.defaults source namespace_ there

end Grounded

theorem grounded_empty : empty.Grounded where
  scopes := by
    have builtin : (Namespaces.empty Builtin.scope).Grounds Builtin.scopes := by
      have outside {id : ScopeId} (above : id.index ≠ 0) : Builtin.scopes.get id = default :=
        Scopes.get_of_size_le _ (Nat.pos_of_ne_zero above)
      refine ⟨rooted_builtin, Nat.one_pos, fun id outer around => ?_, fun id home there => ?_,
        fun id used member => ?_⟩
      · obtain ⟨index⟩ := id
        cases index with
        | zero => cases around
        | succ index =>
            rw [outside (Nat.succ_ne_zero index)] at around
            cases around
      · obtain ⟨index⟩ := id
        cases index with
        | zero => cases there
        | succ index =>
            rw [outside (Nat.succ_ne_zero index)] at there
            cases there
      · cases member
    exact builtin.register (some schemaUri) none (some "xsd")
  bodies id := by
    have floor := shaped_empty.floor
    rcases node_empty id with ⟨-, same⟩ | ⟨localName, -, same⟩ <;> rw [same] <;> exact floor
  defaults source id there := by
    cases there

end Model

namespace Draft

variable {draft new : Draft} {id : NodeId}

theorem Tells.grounded (tells : draft.Tells id new) (grounded : draft.model.Grounded) :
    new.model.Grounded ∧ draft.model.scopes.size ≤ new.model.scopes.size := by
  cases tells with
  | source =>
      refine ⟨grounded.declareSource draft.document id, ?_⟩
      have registers := Model.Registers.registerRoot draft.model draft.document
      rw [Model.declareSource_eq]
      exact registers.scopes
  | second => exact ⟨grounded, Nat.le_refl _⟩
  | request => exact ⟨grounded.registerImport id, (Model.Registers.registerImport draft id).scopes⟩
  | other =>
      have retains := Model.retains_declare draft.model id
      exact ⟨grounded.retained retains, Nat.le_of_eq retains.scopes.symm⟩

end Draft

structure Frame.Held (model : Model) (frame : Frame) : Prop where
  scope : frame.scope.index < model.scopes.size
  node : ∀ id, frame.node = some id -> id.index < model.nodes.size
  capture : ∀ id, frame.capture = some id -> id.index < model.nodes.size

theorem Frame.Held.mono {old new : Model} {frame : Frame} (held : frame.Held old)
    (scopes : old.scopes.size ≤ new.scopes.size) (nodes : old.nodes.size ≤ new.nodes.size) :
    frame.Held new where
  scope := Nat.lt_of_lt_of_le held.scope scopes
  node id there := Nat.lt_of_lt_of_le (held.node id there) nodes
  capture id there := Nat.lt_of_lt_of_le (held.capture id there) nodes

namespace Reading

structure Grounded (reading : Reading) : Prop where
  model : reading.model.Grounded
  frames : ∀ frame ∈ reading.frames, frame.Held reading.model

namespace Grounded

variable {reading : Reading}

theorem mono {other : Reading} (grounded : reading.Grounded) (model : other.model.Grounded)
    (scopes : reading.model.scopes.size ≤ other.model.scopes.size)
    (nodes : reading.model.nodes.size ≤ other.model.nodes.size)
    (frames : ∀ frame ∈ other.frames, frame ∈ reading.frames) : other.Grounded :=
  ⟨model, fun frame member => (grounded.frames frame (frames frame member)).mono scopes nodes⟩

theorem still (grounded : reading.Grounded) {model : Model} (still : reading.model.Still model)
    (document : Document) {frames : List Frame}
    (further : ∀ frame ∈ frames, frame ∈ reading.frames) :
    Grounded ⟨⟨model, document⟩, frames⟩ :=
  grounded.mono (grounded.model.still still) (Nat.le_of_eq (congrArg Scopes.size still.scopes).symm)
    (Nat.le_of_eq still.size.symm) further

theorem start {model : Model} (grounded : model.Grounded) (document : Document) :
    (Reading.start model document).Grounded := by
  refine ⟨grounded, fun frame member => ?_⟩
  obtain rfl := List.mem_singleton.mp member
  exact ⟨grounded.scopes.floor, fun id there => (by cases there), fun id there => by cases there⟩

theorem rooted (grounded : reading.Grounded) (attributes : List (String × String)) :
    (reading.rooted attributes).Grounded :=
  ⟨grounded.model, grounded.frames⟩

theorem plain (grounded : reading.Grounded) {outer : Frame} (inside : outer ∈ reading.frames)
    (document : Document) (place : Option Place) (skipped : Array Skipped) : Grounded
      ⟨⟨{ reading.model with
            scopes := reading.model.scopes.createChild outer.scope, skipped := skipped }, document⟩,
        ⟨place, reading.model.scopes.next, none, outer.capture⟩ :: reading.frames⟩ := by
  have held := grounded.frames outer inside
  have size : (reading.model.scopes.createChild outer.scope).size =
      reading.model.scopes.size + 1 := Scopes.size_create ..
  refine ⟨grounded.model.withBody held.scope skipped, List.forall_mem_cons.mpr
    ⟨⟨?_, fun id there => (by cases there), held.capture⟩, fun frame member => ?_⟩⟩
  · exact Nat.lt_of_lt_of_eq (Nat.lt_succ_self _) size.symm
  · exact (grounded.frames frame member).mono (Nat.le_trans (Nat.le_succ _) (Nat.le_of_eq size.symm))
      (Nat.le_refl _)

theorem openNode (grounded : reading.Grounded) (line : Nat) (attributes : List (String × String))
    {outer : Frame} (inside : outer ∈ reading.frames) (kind : Kind) :
    (reading.openNode line attributes outer kind).state.Grounded := by
  have held := grounded.frames outer inside
  let node : Node := { Node.fresh kind reading.model.scopes.next with
    attributes := .keep kind attributes
    source := reading.draft.document.source
    line := line
    parent := reading.nearestNode }
  let added := reading.draft.withTag outer.scope node
  have tells := Draft.tells_declare added reading.model.nextNode
  obtain ⟨model, more⟩ := tells.grounded (grounded.model.withTag held.scope rfl)
  have scopes : reading.model.scopes.size ≤
      (added.declare reading.model.nextNode).state.model.scopes.size := by
    refine Nat.le_trans (Nat.le_succ _) (Nat.le_trans (Nat.le_of_eq ?_) more)
    exact (Scopes.size_create ..).symm
  have nodes : (added.declare reading.model.nextNode).state.model.nodes.size =
      reading.model.nodes.size + 1 := tells.opened.size.trans (Model.size_addNode ..)
  have next : reading.model.nextNode.index <
      (added.declare reading.model.nextNode).state.model.nodes.size :=
    Nat.lt_of_lt_of_eq (Nat.lt_succ_self _) nodes.symm
  have before : ∀ frame ∈ reading.frames,
      frame.Held (added.declare reading.model.nextNode).state.model := fun frame member =>
    (grounded.frames frame member).mono scopes (Nat.le_of_lt next)
  unfold Reading.openNode
  dsimp only
  split
  next => exact ⟨model, before⟩
  next =>
    -- a schema tag has another scope by now, so the scope of the frame is looked up in the node
    refine ⟨model, List.forall_mem_cons.mpr ⟨⟨model.bodies _, fun id there => ?_, fun id there => ?_⟩,
      before⟩⟩
    · cases there
      exact next
    · dsimp only at there
      split at there
      · cases there
        exact next
      · exact (before outer inside).capture id there

theorem addText (grounded : reading.Grounded) (content : String) :
    (reading.addText content).Grounded := by
  unfold Reading.addText
  split
  next id _ =>
    refine grounded.still ?_ reading.draft.document fun _ member => member
    exact Model.still_changeNode reading.model id fun _ => rfl
  next => exact grounded

theorem step (grounded : reading.Grounded) (limits : Limits) (item : Markup.Item) :
    (reading.step limits item).state.Grounded := by
  have outcome := reading.outcome_step limits item
  generalize reading.step limits item = attempt at outcome ⊢
  cases outcome with
  | stopped => exact grounded
  | misplaced attributes => exact grounded.rooted attributes
  | node opens around child =>
      exact (grounded.rooted _).openNode _ _ (around ▸ List.mem_cons_self) _
  | plain name skipped opens around free =>
      exact grounded.plain (around ▸ List.mem_cons_self) _ _ skipped
  | text takes => exact grounded.addText _
  | closes closing frames node =>
      obtain ⟨model, tasks, closed, still⟩ := closeNode_still reading.draft _
      rw [closed]
      exact grounded.still still _ fun _ member => frames ▸ List.mem_cons_of_mem _ member
  | passes closing frames node =>
      exact grounded.still (.refl _) _ fun _ member => frames ▸ List.mem_cons_of_mem _ member

theorem steps (grounded : reading.Grounded) (limits : Limits) (items : List Markup.Item) :
    (reading.steps limits items).state.Grounded := by
  induction items generalizing reading with
  | nil => exact grounded
  | cons item rest ih =>
      have next := grounded.step limits item
      unfold Reading.steps
      dsimp only
      split
      · exact ih next
      · exact next

end Grounded

end Reading

end XmlSchema

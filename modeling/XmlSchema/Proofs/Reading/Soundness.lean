import XmlSchema.Proofs.Reading.Preservation

set_option autoImplicit false

namespace XmlSchema

namespace Model

structure Kept (old new : Model) : Prop where
  nodes : old.nodes.size ≤ new.nodes.size
  core : ∀ id : NodeId, id.index < old.nodes.size -> (new.node id).core = (old.node id).core
  queue : old.queue.size ≤ new.queue.size
  tasks : ∀ task : TaskId, task.index < old.queue.size -> new.queue.get task = old.queue.get task
  sources : old.sources.size ≤ new.sources.size
  order : new.order = old.order

theorem Kept.refl (model : Model) : model.Kept model :=
  ⟨Nat.le_refl _, fun _ _ => rfl, Nat.le_refl _, fun _ _ => rfl, Nat.le_refl _, rfl⟩

/-- Nothing about a tag is left to be put off. -/
def Closed (model : Model) (id : NodeId) : Prop :=
  if (model.node id).kind.isDeferred then
    ∃ task : TaskId, task.index < model.queue.size ∧ (model.queue.get task).node = id
  else (model.node id).isResolved = true

end Model

namespace Draft

/-- A document that is read on top of a model: the new tags and tasks are its own. -/
structure Sound (start : Model) (draft : Draft) : Prop where
  edited : ∃ document, Edits start.nodes.size ⟨start, document⟩ draft
  gathered : draft.model.Gathered
  kept : start.Kept draft.model
  source : ∀ id, draft.Owns start.nodes.size id ->
    (draft.model.node id).source = draft.document.source
  ranged : ∀ source, draft.document.source = some source ->
    start.sources.size ≤ source.index ∧ source.index < draft.model.sources.size
  tasks : draft.document.tasks.toList =
    (List.range' start.queue.size (draft.model.queue.size - start.queue.size)).map TaskId.mk
  waiting : ∀ task : TaskId, start.queue.size ≤ task.index ->
    task.index < draft.model.queue.size ->
      start.nodes.size ≤ (draft.model.queue.get task).node.index ∧
        (draft.model.queue.get task).status = .waiting

variable {start : Model} {declaring : Option NodeId} {old new : Draft}

theorem keeps_changeNode_of_owned {first : Nat} {draft : Draft} {id other : NodeId}
    (owned : draft.Owns first id) (below : other.index < first) (f : Node -> Node) :
    (draft.model.changeNode id f).node other = draft.model.node other := by
  rw [Model.node_changeNode, if_neg]
  rintro ⟨rfl, -⟩
  exact Nat.not_lt.mpr owned.2 below

theorem Owns.mono {first : Nat} {old new : Draft} {id : NodeId} (owned : old.Owns first id)
    (more : old.model.nodes.size ≤ new.model.nodes.size) : new.Owns first id :=
  ⟨⟨owned.1.1, Nat.lt_of_lt_of_le owned.1.2 more⟩, owned.2⟩

theorem Owns.back {first : Nat} {old new : Draft} {id : NodeId} (owned : new.Owns first id)
    (size : new.model.nodes.size = old.model.nodes.size) : old.Owns first id :=
  ⟨⟨owned.1.1, size ▸ owned.1.2⟩, owned.2⟩

theorem Sound.congr (sound : old.Sound start)
    (edited : ∃ document, Edits start.nodes.size ⟨start, document⟩ new)
    (gathered : new.model.Gathered)
    (size : new.model.nodes.size = old.model.nodes.size)
    (core : ∀ id : NodeId, id.index < start.nodes.size ->
      (new.model.node id).core = (old.model.node id).core)
    (sources : ∀ id, (new.model.node id).source = (old.model.node id).source)
    (queue : new.model.queue = old.model.queue)
    (stores : new.model.sources = old.model.sources) (order : new.model.order = old.model.order)
    (source : new.document.source = old.document.source)
    (tasks : new.document.tasks = old.document.tasks) : new.Sound start where
  edited := edited
  gathered := gathered
  kept := by
    refine ⟨size ▸ sound.kept.nodes, ?_, queue ▸ sound.kept.queue, ?_, stores ▸ sound.kept.sources,
      order.trans sound.kept.order⟩
    · intro id inside
      rw [core id inside]
      exact sound.kept.core id inside
    · rw [queue]
      exact sound.kept.tasks
  source id owned := by
    rw [sources, source]
    exact sound.source id (owned.back size)
  ranged := by
    rw [source, stores]
    exact sound.ranged
  tasks := by
    rw [tasks, queue]
    exact sound.tasks
  waiting := by
    rw [queue]
    exact sound.waiting

theorem Owns.only {first : Nat} {draft : Draft} {id other : NodeId} (owned : draft.Owns first id)
    (there : draft.Owns first other) (single : draft.model.nodes.size = first + 1) :
    other = id := by
  obtain ⟨i⟩ := other
  obtain ⟨j⟩ := id
  have above := there.2
  have below := there.1.2
  have self := owned.2
  have selfBelow := owned.1.2
  simp only [NodeId.mk.injEq] at *
  omega

theorem kept_changeNode {draft : Draft} (kept : start.Kept draft.model) {id : NodeId}
    (owned : draft.Owns start.nodes.size id) (f : Node -> Node) :
    start.Kept (draft.model.changeNode id f) where
  nodes := Nat.le_trans kept.nodes (by simp)
  core other below :=
    (congrArg Node.core (keeps_changeNode_of_owned owned below f)).trans (kept.core other below)
  queue := kept.queue
  tasks := kept.tasks
  sources := kept.sources
  order := kept.order

theorem kept_addNode {model : Model} (kept : start.Kept model) (node : Node) :
    start.Kept (model.addNode node) where
  nodes := Nat.le_trans kept.nodes (by simp)
  core other below :=
    (congrArg Node.core (Model.node_addNode_of_lt model node
      (Nat.lt_of_lt_of_le below kept.nodes))).trans (kept.core other below)
  queue := kept.queue
  tasks := kept.tasks
  sources := kept.sources
  order := kept.order

theorem kept_defer {model : Model} (kept : start.Kept model) (id : NodeId) :
    start.Kept (model.defer id) where
  nodes := kept.nodes
  core := kept.core
  queue := Nat.le_trans kept.queue (by simp [Model.size_defer])
  tasks task below :=
    (model.task_defer_of_lt id (Nat.lt_of_lt_of_le below kept.queue)).trans (kept.tasks task below)
  sources := kept.sources
  order := kept.order

theorem range_push {from_ size : Nat} (more : from_ ≤ size) :
    (List.range' from_ (size + 1 - from_)).map TaskId.mk =
      (List.range' from_ (size - from_)).map TaskId.mk ++ [⟨size⟩] := by
  have one : size + 1 - from_ = size - from_ + 1 := by omega
  have last : from_ + (size - from_) = size := by omega
  simp only [one, List.range'_concat, List.map_append, Nat.one_mul, last, List.map_cons,
    List.map_nil]

theorem Edit.sound (edit : Edit start.nodes.size declaring old new) (sound : old.Sound start) :
    new.Sound start := by
  have gathered := edit.gathered sound.gathered
  obtain ⟨document, edits⟩ := sound.edited
  have edited : ∃ document, Edits start.nodes.size ⟨start, document⟩ new :=
    ⟨document, edits.tail ⟨declaring, edit⟩⟩
  -- all but three of the edits leave number of nodes, tasks and sources alone
  cases edit with
  | document _ document source tasks =>
      exact sound.congr edited gathered rfl (fun _ _ => rfl) (fun _ => rfl) rfl rfl rfl source tasks
  | noted _ id f keeps =>
      exact sound.congr edited gathered (by simp)
        (fun other _ => Model.keeps_changeNode Node.core old.model id other keeps)
        (fun other => Node.source_of_standing (Node.standing_of_core
          (Model.keeps_changeNode Node.core old.model id other keeps))) rfl rfl rfl rfl rfl
  | registered => exact sound.congr edited gathered rfl (fun _ _ => rfl) (fun _ => rfl) rfl rfl rfl rfl rfl
  | marked => exact sound.congr edited gathered rfl (fun _ _ => rfl) (fun _ => rfl) rfl rfl rfl rfl rfl
  | bounded _ id occurs owned =>
      exact sound.congr edited gathered (by simp [Model.setOccurs])
        (fun other below => congrArg Node.core (keeps_changeNode_of_owned owned below _))
        (fun other => Model.keeps_changeNode Node.source old.model id other fun _ => rfl)
        rfl rfl rfl rfl rfl
  | named _ id kind name owned =>
      exact sound.congr edited gathered Model.size_enter
        (fun other below => congrArg Node.core (keeps_changeNode_of_owned owned below _))
        (fun other => Model.keeps_enter Node.source owned.1 other fun _ => rfl) rfl rfl rfl rfl rfl
  | body => exact sound.congr edited gathered rfl (fun _ _ => rfl) (fun _ => rfl) rfl rfl rfl rfl rfl
  | resolved _ id owned =>
      exact sound.congr edited gathered (by simp)
        (fun other below => congrArg Node.core (keeps_changeNode_of_owned owned below _))
        (fun other => Model.keeps_changeNode Node.source old.model id other fun _ => rfl)
        rfl rfl rfl rfl rfl
  | sourced _ id target source owned only kind unsourced within =>
      have more := sound.kept.sources
      have kept := kept_changeNode sound.kept owned fun node =>
        { node with
          source := some ⟨old.model.sources.size⟩
          scope := (old.model.namespaces.get target).root }
      refine ⟨edited, gathered, ⟨kept.nodes, kept.core, kept.queue, kept.tasks, ?_, kept.order⟩,
        ?_, ?_, sound.tasks, sound.waiting⟩
      · simp [Model.changeNode]
        omega
      · intro other there
        -- the schema tag is the only tag of the document so far
        have same : other = id := owned.only (there.back (Model.size_changeNode ..)) only
        subst same
        refine congrArg Node.source ((Model.node_changeNode _ _ _ _).trans (if_pos ⟨rfl, ?_⟩))
        exact owned.1.2
      · intro other same
        cases same
        simp [Model.changeNode]
        omega
  | tag _ outer node fresh scope source admits kept =>
      have kept := kept_addNode sound.kept node
      refine ⟨edited, gathered, ⟨kept.nodes, kept.core, kept.queue, kept.tasks, kept.sources,
        kept.order⟩, ?_, sound.ranged, sound.tasks, sound.waiting⟩
      intro id owned
      rcases Model.isTag_addNode owned.1 with rfl | before
      · exact (congrArg Node.source (Model.node_addNode_next ..)).trans source
      · exact (congrArg Node.source (Model.node_addNode_of_lt _ _ before.2)).trans
          (sound.source id ⟨before, owned.2⟩)
  | deferred _ id owned kind opened =>
      refine ⟨edited, gathered, kept_defer sound.kept id, sound.source, sound.ranged, ?_, ?_⟩
      · simp only [Array.toList_push, sound.tasks, Model.size_defer, range_push sound.kept.queue]
      · intro task above within
        rcases old.model.lt_or_next_of_defer id within with below | rfl
        · simp only [old.model.task_defer_of_lt id below]
          exact sound.waiting task above below
        · simp only [old.model.task_defer_next id]
          exact ⟨owned.2, trivial⟩

theorem Declares.sound {id : NodeId} (declares : Declares start.nodes.size id old new)
    (sound : old.Sound start) : new.Sound start := by
  induction declares with
  | refl => exact sound
  | tail _ edit ih => exact edit.sound ih

end Draft

end XmlSchema

import XmlSchema.Proofs.Reading.Frames
import XmlSchema.Proofs.Reading.Header
import XmlSchema.Proofs.Reading.Outcomes

set_option autoImplicit false

namespace XmlSchema

namespace Model

theorem closed_of_task {model : Model} {id : NodeId} {task : TaskId}
    (deferred : (model.node id).kind.isDeferred = true) (within : task.index < model.queue.size)
    (same : (model.queue.get task).node = id) : model.Closed id := by
  rw [Closed, if_pos deferred]
  exact ⟨task, within, same⟩

theorem closed_of_resolved {model : Model} {id : NodeId}
    (plain : ¬ (model.node id).kind.isDeferred = true)
    (resolved : (model.node id).isResolved = true) : model.Closed id := by
  rw [Closed, if_neg plain]
  exact resolved

theorem Closed.mono {old new : Model} {id : NodeId} (closed : old.Closed id)
    (kind : (new.node id).kind = (old.node id).kind)
    (resolved : (old.node id).isResolved = true -> (new.node id).isResolved = true)
    (more : old.queue.size ≤ new.queue.size)
    (tasks : ∀ task : TaskId, task.index < old.queue.size ->
      (new.queue.get task).node = (old.queue.get task).node) : new.Closed id := by
  unfold Closed at closed ⊢
  rw [kind]
  by_cases deferred : (old.node id).kind.isDeferred = true
  next =>
    rw [if_pos deferred] at closed ⊢
    obtain ⟨task, within, same⟩ := closed
    exact ⟨task, Nat.lt_of_lt_of_le within more, (tasks task within).trans same⟩
  next =>
    rw [if_neg deferred] at closed ⊢
    exact resolved closed

end Model

namespace Reading

/-- A document that is read up to some event: every tag of it is open or has closed. -/
structure Sound (start : Model) (reading : Reading) : Prop where
  draft : reading.draft.Sound start
  framed : reading.draft.Framed start.nodes.size reading.frames
  waiting : ∀ frame ∈ reading.frames, ∀ id, frame.node = some id ->
    ∀ task : TaskId, task.index < reading.model.queue.size ->
      (reading.model.queue.get task).node ≠ id
  closed : ∀ id, reading.draft.Owns start.nodes.size id ->
    (∃ frame ∈ reading.frames, frame.node = some id) ∨ reading.model.Closed id
  begun : reading.draft.document.source = none -> reading.model.nodes.size = start.nodes.size

def Kept (start : Model) (attempt : Attempt Reading) : Prop :=
  attempt.state.draft.Sound start ∧ (attempt.failure = none -> attempt.state.Sound start)

variable {start : Model} {reading : Reading}

theorem Sound.done (sound : reading.Sound start) : Kept start (.done reading) :=
  ⟨sound.draft, fun _ => sound⟩

theorem Sound.stopped (sound : reading.Sound start) (failure : Failure) :
    Kept start (.stopped reading failure) :=
  ⟨sound.draft, fun going => by cases going⟩

theorem Sound.edit {new : Reading} (sound : reading.Sound start)
    (edit : Draft.Edit start.nodes.size none reading.draft new.draft)
    (frames : new.frames = reading.frames)
    (core : ∀ id, (new.model.node id).core = (reading.model.node id).core)
    (size : new.model.nodes.size = reading.model.nodes.size)
    (queue : new.model.queue = reading.model.queue)
    (source : new.draft.document.source = reading.draft.document.source) : new.Sound start where
  draft := edit.sound sound.draft
  framed := by
    rw [frames]
    exact sound.framed.congr (Nat.le_of_eq size.symm) fun id _ => Node.standing_of_core (core id)
  waiting := by
    rw [frames, queue]
    exact sound.waiting
  closed id owned := by
    rcases sound.closed id (owned.back size) with opened | closed
    · exact Or.inl (frames ▸ opened)
    · refine Or.inr (closed.mono (Node.kind_of_standing (Node.standing_of_core (core id)))
        (fun resolved => (congrArg Node.isResolved (core id) :).trans resolved) ?_ ?_)
      · exact Nat.le_of_eq (congrArg Queue.size queue).symm
      · exact fun task _ => congrArg (fun tasks => (Queue.get tasks task).node) queue
  begun missing := size.trans (sound.begun (source ▸ missing))

theorem Sound.addText (sound : reading.Sound start) (content : String) :
    (reading.addText content).Sound start := by
  unfold Reading.addText
  split
  next id taken =>
    have keeps : ∀ node : Node, (node.withText content).core = node.core := fun _ => rfl
    exact sound.edit (.noted reading.draft id _ keeps) rfl
      (fun other => Model.keeps_changeNode Node.core reading.model id other keeps)
      (Model.size_changeNode ..) rfl rfl
  next => exact sound

theorem Sound.rooted (sound : reading.Sound start) (attributes : List (String × String)) :
    (reading.rooted attributes).Sound start := by
  have same : (reading.draft.document.withRoot attributes).source =
        reading.draft.document.source ∧
      (reading.draft.document.withRoot attributes).tasks = reading.draft.document.tasks := by
    unfold Document.withRoot
    split <;> exact ⟨rfl, rfl⟩
  exact sound.edit (.document reading.draft _ same.1 same.2) rfl (fun _ => rfl) rfl rfl same.1

theorem Sound.plain (sound : reading.Sound start) {outer : Frame} {rest : List Frame}
    (frames : reading.frames = outer :: rest) {place : Option Place}
    (free : place = none ∨ place = some .anything) (skipped : Array Skipped) : Sound start
      ⟨⟨{ reading.model with
            scopes := reading.model.scopes.createChild outer.scope, skipped := skipped },
          reading.draft.document⟩,
        ⟨place, reading.model.scopes.next, none, outer.capture⟩ :: reading.frames⟩ := by
  have next : Sound start
      ⟨⟨{ reading.model with
            scopes := reading.model.scopes.createChild outer.scope, skipped := skipped },
          reading.draft.document⟩, reading.frames⟩ :=
    sound.edit (.body reading.draft outer.scope skipped) rfl (fun _ => rfl) rfl rfl rfl
  refine ⟨next.draft, ?_, ?_, ?_, next.begun⟩
  · have framed := next.framed
    simp only [frames] at framed ⊢
    exact .plain framed rfl free
  · intro frame member id node
    rcases List.mem_cons.mp member with rfl | further
    · cases node
    · exact next.waiting frame further id node
  · intro id owned
    rcases next.closed id owned with ⟨frame, member, node⟩ | closed
    · exact Or.inl ⟨frame, List.mem_cons_of_mem _ member, node⟩
    · exact Or.inr closed

theorem Sound.admits (sound : reading.Sound start) {outer : Frame} {rest : List Frame}
    (frames : reading.frames = outer :: rest) {name : QName} {node : Node}
    (child : (outer.place.bind fun place => place.child name) = some (.tag node.kind))
    (nearest : node.parent = reading.nearestNode) : reading.draft.Admits outer.scope node := by
  have framed := sound.framed
  rw [frames] at framed
  obtain ⟨innermost, lowest, inner⟩ := framed.opens child
  have parent : node.parent = outer.node := by
    rw [nearest, ← innermost, ← frames]
    rfl
  unfold Draft.Admits
  rw [parent]
  cases inside : outer.node with
  | none => exact ⟨(lowest inside).1, (lowest inside).2.1⟩
  | some up =>
      obtain ⟨owned, holds, scope⟩ := inner up inside
      exact ⟨owned.1, holds, scope, sound.draft.source up owned⟩

theorem Sound.root (sound : reading.Sound start) {outer : Frame} {rest : List Frame}
    (frames : reading.frames = outer :: rest) {kind : Kind} {name : QName}
    (child : (outer.place.bind fun place => place.child name) = some (.tag kind))
    (missing : reading.draft.document.source = none) :
    reading.model.nodes.size = start.nodes.size ∧ kind = .schema := by
  have framed := sound.framed
  rw [frames] at framed
  obtain ⟨-, lowest, inner⟩ := framed.opens child
  have none_ := sound.begun missing
  refine ⟨none_, ?_⟩
  cases inside : outer.node with
  | none => exact (lowest inside).1
  | some up =>
      have above := (inner up inside).1.2
      have below := (inner up inside).1.1.2
      change up.index < reading.model.nodes.size at below
      omega

theorem Sound.push (sound : reading.Sound start) {new : Draft} {frame : Frame}
    (node : frame.node = some reading.model.nextNode) (added : new.Sound start)
    (framed : new.Framed start.nodes.size (frame :: reading.frames))
    (size : new.model.nodes.size = reading.model.nodes.size + 1)
    (core : ∀ other : NodeId, other.index < reading.model.nodes.size ->
      (new.model.node other).core = (reading.model.node other).core)
    (queue : new.model.queue = reading.model.queue) (begun : new.document.source ≠ none) :
    Sound start ⟨new, frame :: reading.frames⟩ := by
  refine ⟨added, framed, ?_, ?_, fun missing => absurd missing begun⟩
  · intro other member id held task within
    change task.index < new.model.queue.size at within
    change (new.model.queue.get task).node ≠ id
    rw [queue] at within ⊢
    rcases List.mem_cons.mp member with rfl | further
    · -- a task is for a node that was there before
      obtain rfl := Option.some.inj (node.symm.trans held)
      have below := (sound.draft.gathered.queued.deferred task within).1.2
      exact fun same => Nat.lt_irrefl _ (same ▸ below)
    · exact sound.waiting other further id held task within
  · intro other owned
    have inside := owned.1.2
    change other.index < new.model.nodes.size at inside
    rcases Nat.lt_succ_iff_lt_or_eq.mp (size ▸ inside) with below | last
    · rcases sound.closed other ⟨⟨owned.1.1, below⟩, owned.2⟩ with ⟨frame, member, held⟩ | closed
      · exact Or.inl ⟨frame, List.mem_cons_of_mem _ member, held⟩
      · refine Or.inr (closed.mono
          (Node.kind_of_standing (Node.standing_of_core (core other below)))
          (fun resolved => (congrArg Node.isResolved (core other below) :).trans resolved) ?_ ?_)
        · exact Nat.le_of_eq (congrArg Queue.size queue.symm)
        · exact fun task _ => congrArg (fun queue => (Queue.get queue task).node) queue
    · exact Or.inl ⟨frame, List.mem_cons_self,
        node.trans (congrArg (fun index => some (NodeId.mk index)) last.symm)⟩

theorem Sound.openNode (sound : reading.Sound start) (base : start.Gathered) {outer : Frame}
    {rest : List Frame} (frames : reading.frames = outer :: rest) (line : Nat)
    (attributes : List (String × String)) {kind : Kind} {name : QName}
    (child : (outer.place.bind fun place => place.child name) = some (.tag kind)) :
    Kept start (reading.openNode line attributes outer kind) := by
  have framed := sound.framed
  rw [frames] at framed
  obtain ⟨nearest, lowest, -⟩ := framed.opens child
  have more := sound.draft.kept.nodes
  let id := reading.model.nextNode
  let node : Node := { Node.fresh kind reading.model.scopes.next with
    attributes := .keep kind attributes
    source := reading.draft.document.source
    line := line
    parent := reading.nearestNode }
  let added : Draft := ⟨{ reading.model with
    scopes := reading.model.scopes.createChild outer.scope }.addNode node, reading.draft.document⟩
  have parent : node.parent = outer.node := by
    rw [← nearest, ← frames]
    rfl
  -- first the node is added
  have admits := @Sound.admits _ _ sound _ _ frames _ node child rfl
  have soundAdded : added.Sound start :=
    (Draft.Edit.tag reading.draft outer.scope node rfl rfl rfl admits ⟨attributes, rfl⟩).sound
      sound.draft
  have size : added.model.nodes.size = reading.model.nodes.size + 1 := Model.size_addNode ..
  have self : added.model.node id = node := Model.node_addNode_next ..
  have before (other : NodeId) (inside : other.index < reading.model.nodes.size) :
      added.model.node other = reading.model.node other :=
    Model.node_addNode_of_lt _ _ inside
  have owned : added.Owns start.nodes.size id :=
    ⟨⟨Nat.le_trans base.shaped.builtins more, by rw [size]; exact Nat.lt_succ_self _⟩, more⟩
  have only (missing : added.document.source = none) :
      added.model.nodes.size = start.nodes.size + 1 ∧ (added.model.node id).kind = .schema := by
    obtain ⟨none_, schema⟩ := sound.root frames child missing
    exact ⟨by rw [size, none_], by rw [self]; exact schema⟩
  -- then what the tag declares changes that node, and no other
  have declares := Draft.declare_edits soundAdded.gathered.shaped.registry owned
    (by rw [self]; rfl) only
  have soundDeclared := declares.sound soundAdded
  have beside := declares.beside
  unfold Reading.openNode
  dsimp only
  split
  next failure stopped => exact ⟨soundDeclared, fun going => by cases going⟩
  next going =>
    refine ⟨soundDeclared, fun _ => ?_⟩
    have grown : (added.declare id).state.model.nodes.size = reading.model.nodes.size + 1 :=
      beside.size.trans size
    have core (other : NodeId) (inside : other.index < reading.model.nodes.size) :
        ((added.declare id).state.model.node other).core = (reading.model.node other).core :=
      (beside.core other fun same => Nat.lt_irrefl _ (same ▸ inside :)).trans
        (congrArg Node.core (before other inside))
    have kindOf : ((added.declare id).state.model.node id).kind = kind :=
      beside.kind.trans (congrArg Node.kind self)
    have parentOf : ((added.declare id).state.model.node id).parent = outer.node :=
      beside.parent.trans ((congrArg Node.parent self).trans parent)
    have around : (added.declare id).state.Framed start.nodes.size (outer :: rest) :=
      framed.congr (Nat.le_of_lt (Nat.lt_of_lt_of_eq (Nat.lt_succ_self _) grown.symm))
        fun other owned => Node.standing_of_core (core other owned.1.2)
    refine sound.push rfl soundDeclared ?_ grown core beside.queue fun missing => ?_
    · rw [frames]
      refine .node id around rfl ?_ rfl (owned.mono (Nat.le_of_eq beside.size.symm)) parentOf ?_
      · exact congrArg (fun kind => some (Place.tag kind)) kindOf.symm
      · exact fun missing => (lowest missing).2.2
    · by_cases unsourced : added.document.source = none
      · exact absurd missing (Draft.source_declareSchema (only unsourced).2)
      · exact absurd missing (beside.begun unsourced)

theorem document_edit (start : Model) (draft : Draft) (id : NodeId) :
    Draft.Edit start.nodes.size none draft ⟨Reading.document draft.model id, draft.document⟩ := by
  have noted (other : NodeId) {f : Node -> Node} (keeps : ∀ node, (f node).core = node.core) :
      Draft.Edit start.nodes.size none draft ⟨draft.model.changeNode other f, draft.document⟩ :=
    .noted draft other f keeps
  have same : Draft.Edit start.nodes.size none draft ⟨draft.model, draft.document⟩ :=
    .document draft draft.document rfl rfl
  unfold Reading.document
  dsimp only
  split
  · split
    · exact noted _ fun _ => rfl
    · exact same
  · exact same

theorem core_document (model : Model) (id other : NodeId) :
    ((Reading.document model id).node other).core = (model.node other).core := by
  unfold Reading.document
  dsimp only
  split
  · split
    · exact Model.keeps_changeNode Node.core model _ other fun _ => rfl
    · rfl
  · rfl

theorem stores_document (model : Model) (id : NodeId) :
    (Reading.document model id).nodes.size = model.nodes.size ∧
      (Reading.document model id).queue = model.queue := by
  unfold Reading.document
  dsimp only
  split
  · split
    · exact ⟨Model.size_changeNode .., rfl⟩
    · exact ⟨rfl, rfl⟩
  · exact ⟨rfl, rfl⟩

section Closing

variable {frame outer : Frame} {rest : List Frame} {id : NodeId}

theorem Sound.close (sound : reading.Sound start) (frames : reading.frames = frame :: outer :: rest)
    (node : frame.node = some id) {new : Draft}
    (edit : Draft.Edit start.nodes.size none reading.draft new)
    (size : new.model.nodes.size = reading.model.nodes.size)
    (standing : ∀ other, (new.model.node other).standing = (reading.model.node other).standing)
    (resolved : ∀ other, (reading.model.node other).isResolved = true ->
      (new.model.node other).isResolved = true)
    (more : reading.model.queue.size ≤ new.model.queue.size)
    (tasks : ∀ task : TaskId, task.index < reading.model.queue.size ->
      (new.model.queue.get task).node = (reading.model.queue.get task).node)
    (added : ∀ task : TaskId, task.index < new.model.queue.size ->
      task.index < reading.model.queue.size ∨ (new.model.queue.get task).node = id)
    (source : new.document.source = reading.draft.document.source)
    (closed : new.model.Closed id) : Sound start ⟨new, outer :: rest⟩ := by
  have framed := sound.framed
  rw [frames] at framed
  have inside (other : Frame) (member : other ∈ outer :: rest) : other ∈ reading.frames := by
    rw [frames]
    exact List.mem_cons_of_mem _ member
  refine ⟨edit.sound sound.draft, ?_, ?_, ?_, fun missing => size.trans (sound.begun (source ▸ missing))⟩
  · exact framed.tail.congr (Nat.le_of_eq size.symm) fun other _ => standing other
  · intro other member inner there task within same
    rcases added task within with before | last
    · exact sound.waiting other (inside other member) inner there task before
        ((tasks task before).symm.trans same)
    · have around := (framed.mem_ancestors sound.draft.gathered.shaped node inner).mpr
        ⟨other, member, there⟩
      -- the tag that closes stands in the tags that are still open, not around them
      rw [← same.symm.trans last] at around
      exact Nat.lt_irrefl _ (Model.mem_ancestors_lt around)
  · intro other owned
    by_cases same : other = id
    · exact Or.inr (same ▸ closed)
    · rcases sound.closed other (owned.back size) with ⟨some, member, there⟩ | before
      · rw [frames] at member
        rcases List.mem_cons.mp member with rfl | further
        · exact absurd (Option.some.inj (there.symm.trans node)) same
        · exact Or.inl ⟨some, further, there⟩
      · exact Or.inr (before.mono (Node.kind_of_standing (standing other)) (resolved other) more tasks)

theorem Sound.defer (sound : reading.Sound start) (frames : reading.frames = frame :: outer :: rest)
    (node : frame.node = some id) (deferred : (reading.model.node id).kind.isDeferred = true) :
    Sound start
      ⟨⟨reading.model.defer id, { reading.draft.document with
          tasks := reading.draft.document.tasks.push ⟨reading.model.queue.size⟩ }⟩,
        outer :: rest⟩ := by
  have framed := sound.framed
  rw [frames] at framed
  have member : frame ∈ reading.frames := by simp [frames]
  have opened (task : TaskId) (within : task.index < reading.model.queue.size) :
      (reading.model.queue.get task).node ∉ id :: reading.model.ancestors id := by
    intro inside
    rcases List.mem_cons.mp inside with same | outside
    · exact sound.waiting frame member id node task within same
    · obtain ⟨other, further, there⟩ :=
        (framed.mem_ancestors sound.draft.gathered.shaped node _).mp outside
      refine sound.waiting other ?_ _ there task within rfl
      rw [frames]
      exact List.mem_cons_of_mem _ further
  refine sound.close frames node
    (.deferred reading.draft id (framed.owned List.mem_cons_self node) deferred opened) rfl
    (fun _ => rfl) (fun _ resolved => resolved) ?_ ?_ ?_ rfl ?_
  · exact Nat.le_trans (Nat.le_succ _) (Nat.le_of_eq (reading.model.size_defer id).symm)
  · exact fun task below => congrArg Task.node (reading.model.task_defer_of_lt id below)
  · intro task within
    rcases reading.model.lt_or_next_of_defer id within with below | rfl
    · exact Or.inl below
    · exact Or.inr (congrArg Task.node (reading.model.task_defer_next id))
  · refine Model.closed_of_task deferred ?_ (congrArg Task.node (reading.model.task_defer_next id))
    exact Nat.lt_of_lt_of_eq (Nat.lt_succ_self _) (reading.model.size_defer id).symm

theorem Sound.resolve (sound : reading.Sound start)
    (frames : reading.frames = frame :: outer :: rest) (node : frame.node = some id)
    (plain : ¬ (reading.model.node id).kind.isDeferred = true) :
    Sound start
      ⟨⟨reading.model.changeNode id fun node => { node with isResolved := true },
          reading.draft.document⟩, outer :: rest⟩ := by
  have framed := sound.framed
  rw [frames] at framed
  have owned := framed.owned List.mem_cons_self node
  have keeps {α : Type} (look : Node -> α) (other : NodeId)
      (same : ∀ node : Node, look { node with isResolved := true } = look node) :
      look ((reading.model.changeNode id fun node => { node with isResolved := true }).node other) =
        look (reading.model.node other) :=
    Model.keeps_changeNode look reading.model id other same
  refine sound.close frames node (.resolved reading.draft id owned (Bool.eq_false_iff.mpr plain))
    (Model.size_changeNode ..) (fun other => keeps Node.standing other fun _ => rfl) ?_
    (Nat.le_refl _) (fun _ _ => rfl) (fun _ within => Or.inl within) rfl ?_
  · intro other resolved
    refine (congrArg Node.isResolved (Model.node_changeNode ..)).trans ?_
    split
    · rfl
    · exact resolved
  · refine Model.closed_of_resolved ?_ ?_
    · exact fun deferred => plain ((keeps Node.kind id fun _ => rfl).symm ▸ deferred)
    · refine (congrArg Node.isResolved (Model.node_changeNode ..)).trans ?_
      rw [if_pos ⟨rfl, owned.1.2⟩]

theorem Sound.closeNode (sound : reading.Sound start)
    (frames : reading.frames = frame :: outer :: rest) (node : frame.node = some id) :
    Sound start ⟨Reading.closeNode reading.draft id, outer :: rest⟩ := by
  have stores := stores_document reading.model id
  have noted : Sound start
      ⟨⟨Reading.document reading.model id, reading.draft.document⟩, reading.frames⟩ :=
    sound.edit (document_edit start reading.draft id) rfl (core_document reading.model id)
      stores.1 stores.2 rfl
  unfold Reading.closeNode
  dsimp only
  split
  next deferred => exact noted.defer frames node deferred
  next plain => exact noted.resolve frames node plain

theorem Sound.passNode (sound : reading.Sound start)
    (frames : reading.frames = frame :: outer :: rest) (node : frame.node = none) :
    Sound start ⟨reading.draft, outer :: rest⟩ := by
  have framed := sound.framed
  rw [frames] at framed
  have member (other : Frame) (inside : other ∈ outer :: rest) : other ∈ reading.frames := by
    rw [frames]
    exact List.mem_cons_of_mem _ inside
  refine ⟨sound.draft, framed.tail, fun other inside => sound.waiting other (member other inside),
    fun id owned => ?_, sound.begun⟩
  rcases sound.closed id owned with ⟨held, inside, there⟩ | closed
  · rw [frames] at inside
    rcases List.mem_cons.mp inside with rfl | further
    · cases node.symm.trans there
    · exact Or.inl ⟨held, further, there⟩
  · exact Or.inr closed

end Closing

theorem Sound.step (sound : reading.Sound start) (base : start.Gathered) (limits : Limits)
    (item : Markup.Item) : Kept start (reading.step limits item) := by
  have outcome := reading.outcome_step limits item
  generalize reading.step limits item = attempt at outcome ⊢
  cases outcome with
  | stopped failure => exact sound.stopped failure
  | misplaced attributes failure => exact (sound.rooted attributes).stopped failure
  | node opens around child => exact (sound.rooted _).openNode base around _ _ child
  | plain name skipped opens around free =>
      exact ((sound.rooted _).plain around free skipped).done
  | text takes => exact (sound.addText _).done
  | closes closing frames node => exact (sound.closeNode frames node).done
  | passes closing frames node => exact (sound.passNode frames node).done

theorem Sound.steps (sound : reading.Sound start) (base : start.Gathered) (limits : Limits)
    (items : List Markup.Item) : Kept start (reading.steps limits items) := by
  induction items generalizing reading with
  | nil => exact sound.done
  | cons item rest ih =>
      have next := sound.step base limits item
      unfold Reading.steps
      dsimp only
      split
      next going => exact ih (next.2 going)
      next failure stopped => exact ⟨next.1, fun going => by simp [stopped] at going⟩

end Reading

namespace Draft

structure Complete (start : Model) (draft : Draft) : Prop where
  sound : draft.Sound start
  source : draft.document.source ≠ none
  closed : ∀ id, draft.Owns start.nodes.size id -> draft.model.Closed id

theorem sound_start {start : Model} (base : start.Gathered) {document : Document}
    (source : document.source = none) (tasks : document.tasks = #[]) :
    (Reading.start start document).Sound start where
  draft := by
    refine ⟨⟨document, .refl⟩, base, .refl start, ?_, ?_, ?_, ?_⟩
    · intro id owned
      exact absurd owned.1.2 (Nat.not_lt.mpr owned.2)
    · intro there same
      change document.source = some there at same
      simp [source] at same
    · change document.tasks.toList = (List.range' start.queue.size
        (start.queue.size - start.queue.size)).map TaskId.mk
      simp [tasks]
    · intro task above below
      exact absurd below (Nat.not_lt.mpr above)
  framed := .bottom none
  waiting frame member id node := by
    rw [List.mem_singleton.mp member] at node
    cases node
  closed id owned := absurd owned.1.2 (Nat.not_lt.mpr owned.2)
  begun _ := rfl

/-- Reading a document on top of a model, to its end or not. -/
theorem read_sound {start : Model} (base : start.Gathered) {document : Document}
    (source : document.source = none) (tasks : document.tasks = #[]) (limits : Limits)
    (bytes : List UInt8) :
    (Draft.read limits ⟨start, document⟩ bytes).state.Sound start ∧
      ((Draft.read limits ⟨start, document⟩ bytes).failure = none ->
        (Draft.read limits ⟨start, document⟩ bytes).state.Complete start) := by
  have steps := (sound_start base source tasks).steps base limits (Markup.scan bytes).items
  rw [state_read]
  refine ⟨steps.1, fun ended => ?_⟩
  obtain ⟨going, alone, sourced⟩ := ended_read ended
  have sound := steps.2 going
  refine ⟨sound.draft, sourced, fun id owned => ?_⟩
  -- only the frame around the root tag is left, which has no node
  refine (sound.closed id owned).resolve_left ?_
  rintro ⟨frame, member, node⟩
  obtain ⟨only, single⟩ := List.length_eq_one_iff.mp alone
  have framed := sound.framed
  rw [single] at framed member
  rw [List.mem_singleton.mp member, framed.bottom_of_single] at node
  cases node

end Draft

end XmlSchema

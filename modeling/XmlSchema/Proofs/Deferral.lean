import XmlSchema.Proofs.Shape

set_option autoImplicit false

namespace XmlSchema

namespace Queue

def all (queue : Queue) : List TaskId := (List.range queue.size).map TaskId.mk

theorem mem_all (queue : Queue) (task : TaskId) : task ∈ queue.all ↔ task.index < queue.size := by
  obtain ⟨index⟩ := task
  simp [all]

theorem sorted_all (queue : Queue) : queue.all.Pairwise fun a b => a.index < b.index :=
  List.Pairwise.map _ (fun _ _ lower => lower) List.pairwise_lt_range

theorem all_push (queue : Queue) (node : NodeId) (owners : List NodeId) :
    (queue.push node owners).all = queue.all ++ [⟨queue.size⟩] := by
  simp [all, List.range_succ]

end Queue

namespace Model

structure Queued (model : Model) : Prop where
  deferred : ∀ task : TaskId, task.index < model.queue.size ->
    model.IsTag (model.queue.get task).node ∧
      (model.node (model.queue.get task).node).kind.isDeferred = true
  distinct : ∀ a b : TaskId, a.index < model.queue.size -> b.index < model.queue.size ->
    (model.queue.get a).node = (model.queue.get b).node -> a = b
  inner : ∀ a b : TaskId, a.index < model.queue.size -> b.index < model.queue.size ->
    (model.queue.get b).node ∈ model.ancestors (model.queue.get a).node -> a.index < b.index
  feeding : ∀ owner, model.queue.feeding owner =
    model.queue.all.filter fun task => decide (owner ∈ model.fed (model.queue.get task).node)

namespace Queued

variable {model : Model}

theorem mem_feeding (queued : model.Queued) (owner : NodeId) (task : TaskId) :
    task ∈ model.queue.feeding owner ↔
      task.index < model.queue.size ∧ model.Feeds (model.queue.get task).node owner := by
  rw [queued.feeding, List.mem_filter, Queue.mem_all, decide_eq_true_eq, mem_fed]

theorem sorted_feeding (queued : model.Queued) (owner : NodeId) :
    (model.queue.feeding owner).Pairwise fun a b => a.index < b.index := by
  rw [queued.feeding]
  exact model.queue.sorted_all.filter _

theorem lower_of_feeds (queued : model.Queued) {feeder task : TaskId}
    (within : feeder.index < model.queue.size) (inside : task.index < model.queue.size)
    (feeds : model.Feeds (model.queue.get feeder).node (model.queue.get task).node)
    (apart : feeder ≠ task) : feeder.index < task.index := by
  rcases feeds with same | ⟨around, -⟩
  · exact absurd (queued.distinct feeder task within inside same.symm) apart
  · exact queued.inner feeder task within inside around

end Queued

theorem fed_congr {old new : Model} (kinds : ∀ id, (new.node id).kind = (old.node id).kind)
    (parents : ∀ id, (new.node id).parent = (old.node id).parent) (id : NodeId) :
    new.fed id = old.fed id := by
  simp only [fed, ancestors_congr parents, kinds]

theorem Queued.congr {old new : Model} (queued : old.Queued)
    (size : new.nodes.size = old.nodes.size)
    (kinds : ∀ id, (new.node id).kind = (old.node id).kind)
    (parents : ∀ id, (new.node id).parent = (old.node id).parent)
    (tasks : new.queue.size = old.queue.size)
    (nodes : ∀ task, (new.queue.get task).node = (old.queue.get task).node)
    (feeding : ∀ owner, new.queue.feeding owner = old.queue.feeding owner) : new.Queued where
  deferred task inside := by
    have there := queued.deferred task (tasks ▸ inside)
    rw [nodes, kinds]
    exact ⟨⟨there.1.1, size ▸ there.1.2⟩, there.2⟩
  distinct a b insideA insideB same := by
    rw [nodes, nodes] at same
    exact queued.distinct a b (tasks ▸ insideA) (tasks ▸ insideB) same
  inner a b insideA insideB around := by
    rw [nodes, nodes, ancestors_congr parents] at around
    exact queued.inner a b (tasks ▸ insideA) (tasks ▸ insideB) around
  feeding owner := by
    rw [feeding, queued.feeding]
    simp only [Queue.all, tasks, nodes, fed_congr kinds parents]

theorem ancestors_grow {old new : Model} {size : Nat}
    (same : ∀ id : NodeId, id.index < size -> (new.node id).parent = (old.node id).parent)
    {id : NodeId} (inside : id.index < size) : new.ancestors id = old.ancestors id := by
  obtain ⟨index⟩ := id
  induction index using Nat.strongRecOn with
  | ind index ih =>
      rw [ancestors, ancestors, same _ inside]
      split
      next => rfl
      next parent found =>
        split
        next lower => rw [ih parent.index lower (Nat.lt_trans lower inside)]
        next => rfl

theorem fed_grow {old new : Model} {size : Nat}
    (same : ∀ id : NodeId, id.index < size -> (new.node id).standing = (old.node id).standing)
    {id : NodeId} (inside : id.index < size) : new.fed id = old.fed id := by
  have around := ancestors_grow
    (fun id inside => Node.parent_of_standing (same id inside)) inside
  have stops (ids : List NodeId) (below : ∀ id ∈ ids, id.index < size) :
      upTo (fun outer => (new.node outer).kind.isBoundary) ids =
        upTo (fun outer => (old.node outer).kind.isBoundary) ids := by
    induction ids with
    | nil => rfl
    | cons first rest ih =>
        have kind := Node.kind_of_standing (same first (below first List.mem_cons_self))
        have next := ih fun id member => below id (List.mem_cons_of_mem _ member)
        simp only [upTo, kind, next]
  rw [fed, fed, around, stops]
  intro outer member
  exact Nat.lt_trans (mem_ancestors_lt member) inside

theorem Queued.grow {old new : Model} (queued : old.Queued)
    (more : old.nodes.size ≤ new.nodes.size)
    (same : ∀ id : NodeId, id.index < old.nodes.size ->
      (new.node id).standing = (old.node id).standing)
    (queue : new.queue = old.queue) : new.Queued := by
  have inside (task : TaskId) (within : task.index < old.queue.size) :
      (old.queue.get task).node.index < old.nodes.size :=
    (queued.deferred task within).1.2
  constructor
  case deferred =>
    intro task within
    rw [queue] at within ⊢
    have there := queued.deferred task within
    rw [Node.kind_of_standing (same _ (inside task within))]
    exact ⟨⟨there.1.1, Nat.lt_of_lt_of_le there.1.2 more⟩, there.2⟩
  case distinct =>
    intro a b withinA withinB
    rw [queue] at withinA withinB ⊢
    exact queued.distinct a b withinA withinB
  case inner =>
    intro a b withinA withinB around
    rw [queue] at withinA withinB around
    rw [ancestors_grow (fun id below => Node.parent_of_standing (same id below))
      (inside a withinA)] at around
    exact queued.inner a b withinA withinB around
  case feeding =>
    intro owner
    rw [queue, queued.feeding]
    refine List.filter_congr fun task member => ?_
    rw [fed_grow same (inside task ((old.queue.mem_all task).mp member))]

section

variable (model : Model) (id : NodeId)

theorem get_defer (task : TaskId) : (model.defer id).queue.get task =
    if task.index = model.queue.size then ⟨id, .waiting⟩ else model.queue.get task :=
  Queue.get_push ..

theorem size_defer : (model.defer id).queue.size = model.queue.size + 1 := Queue.size_push ..

theorem task_defer_of_lt {task : TaskId} (below : task.index < model.queue.size) :
    (model.defer id).queue.get task = model.queue.get task := by
  rw [get_defer, if_neg (Nat.ne_of_lt below)]

theorem task_defer_next : (model.defer id).queue.get ⟨model.queue.size⟩ = ⟨id, .waiting⟩ := by
  rw [get_defer, if_pos rfl]

theorem lt_or_next_of_defer {task : TaskId} (within : task.index < (model.defer id).queue.size) :
    task.index < model.queue.size ∨ task = ⟨model.queue.size⟩ := by
  rw [size_defer] at within
  rcases Nat.lt_succ_iff_lt_or_eq.mp within with below | next
  · exact Or.inl below
  · exact Or.inr (congrArg TaskId.mk next)

end

theorem Queued.defer {model : Model} (queued : model.Queued) {id : NodeId} (tag : model.IsTag id)
    (kind : (model.node id).kind.isDeferred = true)
    (opened : ∀ task : TaskId, task.index < model.queue.size ->
      (model.queue.get task).node ∉ id :: model.ancestors id) : (model.defer id).Queued := by
  have earlier {task : TaskId} (below : task.index < model.queue.size) :=
    model.task_defer_of_lt id below
  have last := model.task_defer_next id
  have around (other : NodeId) : (model.defer id).ancestors other = model.ancestors other :=
    @ancestors_congr model (model.defer id) (fun _ => rfl) other
  constructor
  case deferred =>
    intro task within
    rcases model.lt_or_next_of_defer id within with below | rfl
    · rw [earlier below]
      exact queued.deferred task below
    · rw [last]
      exact ⟨tag, kind⟩
  case distinct =>
    intro a b withinA withinB same
    rcases model.lt_or_next_of_defer id withinA with belowA | rfl <;>
      rcases model.lt_or_next_of_defer id withinB with belowB | rfl
    · rw [earlier belowA, earlier belowB] at same
      exact queued.distinct a b belowA belowB same
    · rw [earlier belowA, last] at same
      exact absurd (by simp [same]) (opened a belowA)
    · rw [last, earlier belowB] at same
      exact absurd (by simp [← same]) (opened b belowB)
    · rfl
  case inner =>
    intro a b withinA withinB inside
    rw [around] at inside
    rcases model.lt_or_next_of_defer id withinA with belowA | rfl <;>
      rcases model.lt_or_next_of_defer id withinB with belowB | rfl
    · rw [earlier belowA, earlier belowB] at inside
      exact queued.inner a b belowA belowB inside
    · exact belowA
    · rw [last, earlier belowB] at inside
      exact absurd (List.mem_cons_of_mem _ inside) (opened b belowB)
    · exact absurd (mem_ancestors_lt inside) (Nat.lt_irrefl _)
  case feeding =>
    -- the scan of the longer queue is that of the shorter one, and then the new task
    intro owner
    have sameFed (other : NodeId) : (model.defer id).fed other = model.fed other :=
      @fed_congr model (model.defer id) (fun _ => rfl) (fun _ => rfl) other
    have scan : model.queue.all.filter
          (fun task => decide (owner ∈ model.fed ((model.defer id).queue.get task).node)) =
        model.queue.all.filter fun task =>
          decide (owner ∈ model.fed (model.queue.get task).node) := by
      refine List.filter_congr fun task member => ?_
      rw [earlier ((model.queue.mem_all task).mp member)]
    have all : (model.defer id).queue.all = model.queue.all ++ [⟨model.queue.size⟩] :=
      Queue.all_push ..
    have feeding : (model.defer id).queue.feeding owner =
        model.queue.feeding owner ++ if owner ∈ model.fed id then [⟨model.queue.size⟩] else [] :=
      Queue.feeding_push _ _ (nodup_fed model id) owner
    simp only [sameFed, all, List.filter_append, scan, feeding, queued.feeding]
    congr 1
    by_cases member : owner ∈ model.fed id <;> simp [last, member]

end Model

end XmlSchema

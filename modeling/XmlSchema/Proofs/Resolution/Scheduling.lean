import XmlSchema.Proofs.Reading.Documents
import XmlSchema.Proofs.Resolution.Machine
import XmlSchema.Proofs.Resolution.Passing

set_option autoImplicit false

namespace XmlSchema

namespace Model

/-- A task whose tag adds to the body that another task's tag passes on. -/
structure Owes (start : Model) (task feeder : TaskId) : Prop where
  apart : feeder ≠ task
  inside : feeder.index < start.queue.size
  plain : (start.node (start.queue.get task).node).kind.isBoundary = false
  feeds : start.Feeds (start.queue.get feeder).node (start.queue.get task).node

/-- Whatever feeds a task in a list is done, or stands in the list before it. -/
def Settled (start : Model) (done : TaskId -> Prop) : List TaskId -> Prop
  | [] => True
  | task :: rest =>
      (∀ feeder, start.Owes task feeder -> done feeder) ∧
        Settled start (fun other => done other ∨ other = task) rest

section

variable {start : Model} {done more : TaskId -> Prop}

theorem Settled.mono {tasks : List TaskId} (settled : start.Settled done tasks)
    (weaker : ∀ task, done task -> more task) : start.Settled more tasks := by
  induction tasks generalizing done more with
  | nil => trivial
  | cons task rest ih =>
      refine ⟨fun feeder owes => weaker feeder (settled.1 feeder owes), ih settled.2 ?_⟩
      rintro other (before | same)
      · exact Or.inl (weaker other before)
      · exact Or.inr same

theorem Settled.tail {task : TaskId} {rest : List TaskId}
    (settled : start.Settled done (task :: rest)) (there : done task) :
    start.Settled done rest :=
  settled.2.mono fun other either => by
    rcases either with before | rfl
    · exact before
    · exact there

theorem Settled.append {first second : List TaskId} (one : start.Settled done first)
    (two : start.Settled done second) : start.Settled done (first ++ second) := by
  induction first generalizing done with
  | nil => exact two
  | cons task rest ih => exact ⟨one.1, ih one.2 (two.mono fun other before => Or.inl before)⟩

theorem settled_of_sorted (queued : start.Queued) {tasks : List TaskId}
    (sorted : tasks.Pairwise fun a b => a.index < b.index)
    (within : ∀ task ∈ tasks, task.index < start.queue.size)
    (closed : ∀ task ∈ tasks, ∀ feeder, start.Owes task feeder -> done feeder ∨ feeder ∈ tasks) :
    start.Settled done tasks := by
  induction tasks generalizing done with
  | nil => trivial
  | cons task rest ih =>
      obtain ⟨after, sorted⟩ := List.pairwise_cons.mp sorted
      refine ⟨fun feeder owes => ?_, ih sorted ?_ ?_⟩
      · have lower := queued.lower_of_feeds owes.inside (within task List.mem_cons_self) owes.feeds
          owes.apart
        refine (closed task List.mem_cons_self feeder owes).resolve_right fun member => ?_
        rcases List.mem_cons.mp member with same | later
        · exact owes.apart same
        · exact Nat.lt_asymm lower (after feeder later)
      · exact fun other member => within other (List.mem_cons_of_mem _ member)
      · intro other member feeder owes
        rcases closed other (List.mem_cons_of_mem _ member) feeder owes with before | inside
        · exact Or.inl (Or.inl before)
        · rcases List.mem_cons.mp inside with same | later
          · exact Or.inl (Or.inr same)
          · exact Or.inr later

end

theorem settled_feeding {start : Model} (queued : start.Queued) (done : TaskId -> Prop)
    (owner : NodeId) : start.Settled done (start.queue.feeding owner) := by
  refine settled_of_sorted queued (queued.sorted_feeding owner) ?_ ?_
  · exact fun task member => ((queued.mem_feeding owner task).mp member).1
  · intro task member feeder owes
    have feeds := ((queued.mem_feeding owner task).mp member).2
    exact Or.inr ((queued.mem_feeding owner feeder).mpr
      ⟨owes.inside, feeds_trans owes.feeds feeds owes.plain⟩)

end Model

namespace Compilation

namespace Sound

variable {read : Compilation}

theorem mem_duties (read : Compilation) (id : DocumentId) (task : TaskId) :
    task ∈ read.duties id ↔
      (read.document id).state = .finished ∧ task ∈ (read.document id).tasks := by
  unfold duties
  split
  next finished => simp [finished]
  next other =>
    simp only [List.not_mem_nil, false_iff, not_and]
    exact fun finished => absurd finished other

theorem settled_duties (sound : read.Sound) (done : TaskId -> Prop) (id : DocumentId) :
    read.model.Settled done (read.duties id) := by
  have queued := sound.gathered.queued
  have listed {task : TaskId} (member : task ∈ read.duties id) :=
    (mem_duties read id task).mp member
  refine Model.settled_of_sorted queued ?_ ?_ ?_
  · unfold duties
    split
    next finished => exact sound.sorted id (within_of_finished finished)
    next => exact List.Pairwise.nil
  · intro task member
    exact (sound.tasks id (within_of_finished (listed member).1) task (listed member).2).1
  · intro task member feeder owes
    have finished := (listed member).1
    have within := within_of_finished finished
    obtain ⟨-, source, -⟩ := sound.tasks id within task (listed member).2
    obtain ⟨shared, found⟩ := Option.ne_none_iff_exists'.mp (sound.finished id within finished).1
    obtain ⟨other, there, placed⟩ := sound.placed feeder owes.inside
    obtain ⟨-, home, -⟩ := sound.tasks other there feeder placed
    have feeds := sound.gathered.shaped.source_of_feeds owes.feeds
    have same : other = id := by
      refine sound.distinct other id there within shared ?_ found
      rw [← home, ← feeds, source, found]
    exact Or.inr ((mem_duties read id feeder).mpr ⟨finished, same ▸ placed⟩)

theorem settled_agenda (sound : read.Sound) (done : TaskId -> Prop) :
    read.model.Settled done read.agenda := by
  unfold agenda
  induction read.order with
  | nil => trivial
  | cons id rest ih => exact (sound.settled_duties done id).append ih

theorem waits_iff (sound : read.Sound) (task : TaskId) :
    (read.model.queue.get task).status = .waiting ↔ ∃ id, task ∈ read.duties id := by
  constructor
  · intro waits
    have within : task.index < read.model.queue.size := by
      refine Nat.not_le.mp fun outside => ?_
      rw [Queue.get_of_size_le _ outside] at waits
      cases waits
    obtain ⟨id, there, member⟩ := sound.placed task within
    obtain ⟨-, -, status⟩ := sound.tasks id there task member
    refine ⟨id, (mem_duties read id task).mpr ⟨?_, member⟩⟩
    by_contra failed
    rw [if_neg failed, waits] at status
    cases status
  · rintro ⟨id, member⟩
    obtain ⟨finished, listed⟩ := (mem_duties read id task).mp member
    obtain ⟨-, -, status⟩ := sound.tasks id (within_of_finished finished) task listed
    rw [status, if_pos finished]

theorem done_of_not_waits (sound : read.Sound) {task : TaskId}
    (idle : (read.model.queue.get task).status ≠ .waiting) :
    (read.model.queue.get task).status = .done := by
  by_cases within : task.index < read.model.queue.size
  · obtain ⟨id, there, member⟩ := sound.placed task within
    obtain ⟨-, -, status⟩ := sound.tasks id there task member
    split at status
    · exact absurd status idle
    · exact status
  · rw [Queue.get_of_size_le _ (Nat.not_lt.mp within)]
    rfl

theorem mem_order (read : Compilation) {id : DocumentId} (within : id.index < read.documents.size) :
    id ∈ read.order :=
  List.mem_map.mpr ⟨id.index, read.graph.mem_postorder (List.mem_range.mpr within), rfl⟩

theorem mem_agenda (sound : read.Sound) {task : TaskId}
    (waits : (read.model.queue.get task).status = .waiting) : task ∈ read.agenda := by
  obtain ⟨id, member⟩ := (sound.waits_iff task).mp waits
  have finished := ((mem_duties read id task).mp member).1
  exact List.mem_flatMap.mpr ⟨id, mem_order read (within_of_finished finished), member⟩

end Sound

end Compilation

end XmlSchema

import Std.Data.TreeMap
import XmlSchema.Ids

set_option autoImplicit false

namespace XmlSchema

namespace Task

inductive Status where
  | waiting
  | running
  | done
  deriving DecidableEq, Repr

end Task

structure Task where
  node : NodeId
  status : Task.Status
  deriving DecidableEq, Repr

instance : Inhabited Task := ⟨⟨⟨0⟩, .done⟩⟩

abbrev Feeders := Std.TreeMap Nat (Array TaskId)

structure Queue where
  tasks : Array Task
  feeders : Feeders

namespace Queue

def empty : Queue := ⟨#[], ∅⟩

instance : Inhabited Queue := ⟨empty⟩

def size (queue : Queue) : Nat := queue.tasks.size

def get (queue : Queue) (id : TaskId) : Task := queue.tasks[id.index]?.getD default

def feeding (queue : Queue) (owner : NodeId) : List TaskId :=
  (queue.feeders.getD owner.index #[]).toList

def enter (feeders : Feeders) (id : TaskId) (owner : NodeId) : Feeders :=
  feeders.alter owner.index fun there => some ((there.getD #[]).push id)

def push (queue : Queue) (node : NodeId) (owners : List NodeId) : Queue :=
  let id : TaskId := ⟨queue.size⟩
  ⟨queue.tasks.push ⟨node, .waiting⟩, owners.foldl (fun feeders owner => enter feeders id owner)
    queue.feeders⟩

def mark (queue : Queue) (status : Task.Status) (id : TaskId) : Queue :=
  { queue with tasks := queue.tasks.modify id.index fun task => { task with status := status } }

theorem get_mark (queue : Queue) (status : Task.Status) (id other : TaskId) :
    (queue.mark status id).get other =
      if other = id ∧ other.index < queue.size then { queue.get other with status := status }
      else queue.get other := by
  obtain ⟨i⟩ := id
  obtain ⟨j⟩ := other
  simpa [get, mark, size] using Numbered.getD_modify queue.tasks i j _

theorem get_push (queue : Queue) (node : NodeId) (owners : List NodeId) (id : TaskId) :
    (queue.push node owners).get id =
      if id.index = queue.size then ⟨node, .waiting⟩ else queue.get id :=
  Numbered.getD_push queue.tasks ⟨node, .waiting⟩ id.index

theorem get_of_size_le (queue : Queue) {id : TaskId} (outside : queue.size ≤ id.index) :
    queue.get id = default :=
  Numbered.getD_of_size_le queue.tasks outside

@[simp] theorem size_mark (queue : Queue) (status : Task.Status) (id : TaskId) :
    (queue.mark status id).size = queue.size := by
  simp [mark, size]

@[simp] theorem size_push (queue : Queue) (node : NodeId) (owners : List NodeId) :
    (queue.push node owners).size = queue.size + 1 := by
  simp [push, size]

@[simp] theorem feeding_mark (queue : Queue) (status : Task.Status) (id : TaskId)
    (owner : NodeId) : (queue.mark status id).feeding owner = queue.feeding owner := rfl

@[simp] theorem node_mark (queue : Queue) (status : Task.Status) (id other : TaskId) :
    ((queue.mark status id).get other).node = (queue.get other).node := by
  rw [get_mark]
  split <;> rfl

theorem status_mark_self (queue : Queue) (status : Task.Status) {id : TaskId}
    (inside : id.index < queue.size) : ((queue.mark status id).get id).status = status := by
  simp [get_mark, inside]

theorem status_mark_of_ne (queue : Queue) (status : Task.Status) {id other : TaskId}
    (apart : other ≠ id) :
    ((queue.mark status id).get other).status = (queue.get other).status := by
  simp [get_mark, apart]

theorem getD_enter (feeders : Feeders) (id : TaskId) (owner other : NodeId) :
    ((enter feeders id owner).getD other.index #[]).toList =
      (feeders.getD other.index #[]).toList ++ if other = owner then [id] else [] := by
  obtain ⟨i⟩ := owner
  obtain ⟨j⟩ := other
  simp only [enter, Std.TreeMap.getD_alter, Nat.compare_eq_eq, NodeId.mk.injEq]
  by_cases same : i = j
  · subst same
    simp [Std.TreeMap.getD_eq_getD_getElem?]
  · simp [same, Ne.symm same]

theorem getD_foldl_enter (id : TaskId) (other : NodeId) (owners : List NodeId)
    (nodup : owners.Nodup) (feeders : Feeders) :
    ((owners.foldl (fun feeders owner => enter feeders id owner) feeders).getD
        other.index #[]).toList =
      (feeders.getD other.index #[]).toList ++ if other ∈ owners then [id] else [] := by
  induction owners generalizing feeders with
  | nil => simp
  | cons owner rest ih =>
      obtain ⟨absent, rest⟩ := List.nodup_cons.mp nodup
      rw [List.foldl_cons, ih rest, getD_enter]
      by_cases same : other = owner
      · subst same
        simp [absent]
      · simp [same]

theorem feeding_push (queue : Queue) (node : NodeId) {owners : List NodeId}
    (nodup : owners.Nodup) (owner : NodeId) :
    (queue.push node owners).feeding owner =
      queue.feeding owner ++ if owner ∈ owners then [⟨queue.size⟩] else [] :=
  getD_foldl_enter ⟨queue.size⟩ owner owners nodup queue.feeders

end Queue

end XmlSchema

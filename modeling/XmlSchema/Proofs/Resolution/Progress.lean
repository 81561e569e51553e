import XmlSchema.Proofs.Resolution.Scheduling

set_option autoImplicit false

namespace XmlSchema

namespace Model

def IsDone (model : Model) (task : TaskId) : Prop := (model.queue.get task).status = .done

/-- A task that waited at the start and is done now. -/
def Worked (start model : Model) (task : TaskId) : Prop :=
  (start.queue.get task).status = .waiting ∧ model.IsDone task

/-- Every document has been read, and no tag been worked on. -/
structure Poised (start : Model) : Prop where
  gathered : start.Gathered
  order : start.order = #[]
  idle : ∀ task, (start.queue.get task).status ≠ .waiting -> start.IsDone task

theorem within_of_waits {model : Model} {task : TaskId}
    (waits : (model.queue.get task).status = .waiting) : task.index < model.queue.size := by
  refine Nat.not_le.mp fun outside => ?_
  rw [Queue.get_of_size_le _ outside] at waits
  cases waits

end Model

theorem Queue.within_of_running {queue : Queue} {task : TaskId}
    (running : (queue.get task).status = .running) : task.index < queue.size := by
  refine Nat.not_le.mp fun outside => ?_
  rw [Queue.get_of_size_le _ outside] at running
  cases running

theorem Queue.status_mark {queue : Queue} {task : TaskId} (within : task.index < queue.size)
    (status : Task.Status) (other : TaskId) :
    ((queue.mark status task).get other).status =
      if other = task then status else (queue.get other).status := by
  by_cases same : other = task
  · subst same
    rw [if_pos rfl, Queue.status_mark_self queue status within]
  · rw [if_neg same, Queue.status_mark_of_ne queue status same]

namespace Model

section

variable {old new : Model} {task : TaskId}

structure TakesUp (old new : Model) (task : TaskId) : Prop where
  queue : new.queue = old.queue.mark .running task
  waits : (old.queue.get task).status = .waiting

structure PutsBy (old new : Model) (task : TaskId) : Prop where
  queue : new.queue = old.queue.mark .done task
  runs : (old.queue.get task).status = .running

theorem TakesUp.status (takes : old.TakesUp new task) (other : TaskId) :
    (new.queue.get other).status =
      if other = task then .running else (old.queue.get other).status := by
  rw [takes.queue, Queue.status_mark (within_of_waits takes.waits)]

theorem TakesUp.isDone_iff (takes : old.TakesUp new task) (other : TaskId) :
    new.IsDone other ↔ old.IsDone other := by
  unfold IsDone
  rw [takes.status]
  by_cases same : other = task <;> simp [same, takes.waits]

theorem TakesUp.waits_before (takes : old.TakesUp new task) {other : TaskId}
    (waits : (new.queue.get other).status = .waiting) :
    other ≠ task ∧ (old.queue.get other).status = .waiting := by
  rw [takes.status] at waits
  by_cases same : other = task
  · simp [same] at waits
  · exact ⟨same, by simpa [same] using waits⟩

theorem PutsBy.status (puts : old.PutsBy new task) (other : TaskId) :
    (new.queue.get other).status =
      if other = task then .done else (old.queue.get other).status := by
  rw [puts.queue, Queue.status_mark (Queue.within_of_running puts.runs)]

theorem PutsBy.isDone_iff (puts : old.PutsBy new task) (other : TaskId) :
    new.IsDone other ↔ old.IsDone other ∨ other = task := by
  unfold IsDone
  rw [puts.status]
  by_cases same : other = task <;> simp [same]

theorem PutsBy.waits_before (puts : old.PutsBy new task) {other : TaskId}
    (waits : (new.queue.get other).status = .waiting) :
    (old.queue.get other).status = .waiting := by
  rw [puts.status] at waits
  split at waits
  · cases waits
  · exact waits

end

end Model

namespace Pass

/-- The lists of tasks that are to be taken up again, each with the call that it is for. The task of
the call that was started from a list comes first in it. -/
def backlog : List Call -> List (Option Call × List TaskId)
  | [] => []
  | call :: outer => (outer.head?, call.task :: call.rest) :: backlog outer

/-- A list of tasks holds what it is gone through for. -/
structure Errand (start model : Model) (call : Option Call) (tasks : List TaskId) : Prop where
  settled : start.Settled model.IsDone tasks
  awaited : ∀ open_ target, call = some open_ -> open_.remainder.awaited = some target ->
    ∀ task ∈ start.queue.feeding target, model.IsDone task ∨ task ∈ tasks
  waiting : call = none -> ∀ task, (model.queue.get task).status = .waiting -> task ∈ tasks

theorem Errand.mono {start old new : Model} {call : Option Call} {tasks : List TaskId}
    (errand : Errand start old call tasks) (done : ∀ task, old.IsDone task -> new.IsDone task)
    (waits : ∀ task, (new.queue.get task).status = .waiting ->
      (old.queue.get task).status = .waiting) : Errand start new call tasks where
  settled := errand.settled.mono done
  awaited open_ target same awaits task member :=
    (errand.awaited open_ target same awaits task member).imp_left (done task)
  waiting same task waiting := errand.waiting same task (waits task waiting)

theorem Errand.tail {start model : Model} {call : Option Call} {task : TaskId}
    {rest : List TaskId} (errand : Errand start model call (task :: rest))
    (done : model.IsDone task) : Errand start model call rest where
  settled := errand.settled.tail done
  awaited open_ target same awaits other member := by
    rcases errand.awaited open_ target same awaits other member with before | inside
    · exact Or.inl before
    · rcases List.mem_cons.mp inside with rfl | later
      · exact Or.inl done
      · exact Or.inr later
  waiting same other waits := by
    rcases List.mem_cons.mp (errand.waiting same other waits) with rfl | later
    · cases done.symm.trans waits
    · exact later

structure Scheduled (start : Model) (pass : Pass) : Prop where
  alike : start.Alike pass.model
  filed : pass.model.Filed
  placed : ∀ call ∈ pass.calls, call.node = (start.queue.get call.task).node
  fits : ∀ call ∈ pass.calls, pass.model.Fits call.node call.remainder
  distinct : (pass.calls.map Call.task).Nodup
  running : ∀ task, (pass.model.queue.get task).status = .running ↔
    ∃ call ∈ pass.calls, call.task = task
  idle : ∀ task, start.IsDone task -> pass.model.IsDone task
  order : ∀ id, id ∈ pass.model.order.toList ↔
    ∃ task, start.Worked pass.model task ∧ (start.queue.get task).node = id
  nodup : pass.model.order.toList.Nodup
  resolved : ∀ id, (pass.model.node id).isResolved = true ↔
    (start.node id).isResolved = true ∨ id ∈ pass.model.order.toList
  fresh : ∀ task, (pass.model.queue.get task).status = .waiting ->
    (pass.model.node (start.queue.get task).node).referent = none
  front : Errand start pass.model pass.calls.head? pass.todo
  behind : ∀ errand ∈ backlog pass.calls, Errand start pass.model errand.1 errand.2

section

variable {start model : Model} {task : TaskId} {rest : List TaskId} {calls : List Call}

theorem Scheduled.prepared (gathered : start.Gathered)
    (scheduled : Scheduled start ⟨model, task :: rest, calls⟩)
    (waits : (model.queue.get task).status = .waiting) :
    (model.mark .running task).Prepared
      ((model.mark .running task).prepare (model.queue.get task).node).1 (model.queue.get task).node
      ((model.mark .running task).prepare (model.queue.get task).node).2 := by
  have alike := scheduled.alike.trans (Model.Alike.mark model .running task)
  have within := Model.within_of_waits waits
  rw [scheduled.alike.tasks] at within
  obtain ⟨tag, deferred⟩ := gathered.queued.deferred task within
  have fresh := scheduled.fresh task waits
  rw [← scheduled.alike.task] at tag deferred fresh
  refine Model.prepared (alike.shaped gathered.shaped) scheduled.filed
    ((alike.isTag _).mpr tag) fresh ?_
  rw [alike.kind]
  exact deferred

theorem Scheduled.absent {todo : List TaskId} (scheduled : Scheduled start ⟨model, todo, calls⟩)
    (waits : (model.queue.get task).status = .waiting) : ∀ call ∈ calls, call.task ≠ task := by
  intro call member same
  have runs := (scheduled.running task).mpr ⟨call, member, same⟩
  cases waits.symm.trans runs

theorem Scheduled.apart {pass : Pass} (gathered : start.Gathered)
    (scheduled : Scheduled start pass) {other : TaskId}
    (within : task.index < pass.model.queue.size) (there : other.index < pass.model.queue.size)
    (differs : other ≠ task) :
    (start.queue.get other).node ≠ (start.queue.get task).node := by
  rw [scheduled.alike.tasks] at within there
  exact fun same => differs (gathered.queued.distinct other task there within same)

theorem Errand.feeders (gathered : start.Gathered) (alike : start.Alike model)
    (id : NodeId) (remainder : Remainder) :
    Errand start model (some ⟨task, id, remainder, rest⟩)
      ((remainder.awaited.map model.queue.feeding).getD []) where
  settled := by
    cases remainder.awaited with
    | none => trivial
    | some target =>
        simp only [Option.map_some, Option.getD_some]
        rw [alike.feeding]
        exact Model.settled_feeding gathered.queued _ target
  awaited open_ target same awaits other member := by
    cases same
    simp only at awaits
    rw [awaits, Option.map_some, Option.getD_some, alike.feeding]
    exact Or.inr member
  waiting none_ := by cases none_

theorem Scheduled.enter (gathered : start.Gathered)
    (scheduled : Scheduled start ⟨model, task :: rest, calls⟩)
    (waits : (model.queue.get task).status = .waiting) :
    Scheduled start (enter model task rest calls) := by
  have prepared := scheduled.prepared gathered waits
  have within := Model.within_of_waits waits
  have node := scheduled.alike.task task
  have absent := scheduled.absent waits
  unfold Pass.enter
  dsimp only
  generalize (model.mark .running task).prepare (model.queue.get task).node = named at prepared ⊢
  have taken : model.TakesUp named.1 task := ⟨prepared.queue, waits⟩
  have changed := (Model.Alike.mark model .running task).trans prepared.alike
  have alike := scheduled.alike.trans changed
  have done := taken.isDone_iff
  have keeps {errand : Option Call} {tasks : List TaskId} (before : Errand start model errand tasks) :
      Errand start named.1 errand tasks :=
    before.mono (fun other => (done other).mpr) fun _ there => (taken.waits_before there).2
  have apart {other : TaskId} (there : other.index < model.queue.size) (differs : other ≠ task) :
      (start.queue.get other).node ≠ (model.queue.get task).node := by
    rw [node]
    exact scheduled.apart gathered within there differs
  constructor
  case alike => exact alike
  case filed => exact prepared.filed
  case placed =>
    intro call member
    rcases List.mem_cons.mp member with rfl | older
    · exact node
    · exact scheduled.placed call older
  case fits =>
    intro call member
    rcases List.mem_cons.mp member with rfl | older
    · exact prepared.fits
    -- an older call runs another task, so following these names has not touched its tag
    · have runs := (scheduled.running call.task).mpr ⟨call, older, rfl⟩
      refine (scheduled.fits call older).congr changed (prepared.referent call.node ?_)
      rw [scheduled.placed call older]
      exact apart (Queue.within_of_running runs) (absent call older)
  case distinct =>
    refine List.nodup_cons.mpr ⟨fun member => ?_, scheduled.distinct⟩
    obtain ⟨call, older, same⟩ := List.mem_map.mp member
    exact absent call older same
  case running =>
    intro other
    rw [taken.status]
    by_cases same : other = task
    · subst same
      simp
    · rw [if_neg same, scheduled.running other]
      simp [Ne.symm same]
  case idle => exact fun other before => (done other).mpr (scheduled.idle other before)
  case order =>
    intro id
    rw [prepared.order]
    simp only [Model.Worked, done]
    exact scheduled.order id
  case nodup =>
    rw [prepared.order]
    exact scheduled.nodup
  case resolved =>
    intro id
    rw [prepared.resolved, prepared.order]
    exact scheduled.resolved id
  case fresh =>
    intro other there
    -- what still waits is for other tags, and theirs are as fresh as they were
    obtain ⟨differs, waits⟩ := taken.waits_before there
    rw [prepared.referent _ (apart (Model.within_of_waits waits) differs)]
    exact scheduled.fresh other waits
  case front => exact Errand.feeders gathered alike _ _
  case behind =>
    intro errand member
    rcases List.mem_cons.mp member with rfl | older
    · exact keeps scheduled.front
    · exact keeps (scheduled.behind errand older)

theorem Scheduled.skip (scheduled : Scheduled start ⟨model, task :: rest, calls⟩)
    (done : (model.queue.get task).status = .done) :
    Scheduled start ⟨model, rest, calls⟩ :=
  { scheduled with front := scheduled.front.tail done }

end

theorem Scheduled.finished {start model : Model} {todo : List TaskId} {call : Call}
    {outer : List Call} (gathered : start.Gathered)
    (scheduled : Scheduled start ⟨model, todo, call :: outer⟩) (complete : Bool) :
    model.Finished (model.finish call.node call.remainder complete) call.node
      (if complete then call.remainder else call.remainder.alone) := by
  have alike := scheduled.alike
  have runs := (scheduled.running call.task).mpr ⟨call, List.mem_cons_self, rfl⟩
  have within := Queue.within_of_running runs
  rw [alike.tasks] at within
  obtain ⟨tag, deferred⟩ := gathered.queued.deferred call.task within
  rw [← scheduled.placed call List.mem_cons_self] at tag deferred
  refine Model.finished (alike.shaped gathered.shaped) scheduled.filed
    ((alike.isTag _).mpr tag) ?_ (scheduled.fits call List.mem_cons_self) complete
  rw [alike.kind]
  intro schema
  rw [schema] at deferred
  cases deferred

theorem alike_complete (model : Model) (task : TaskId) (id : NodeId) :
    model.Alike (model.complete task id) := by
  have changed := (Model.Alike.mark model .done task).trans
    (Model.Alike.changeNode _ id (f := fun node => { node with isResolved := true }) fun _ => rfl)
  exact ⟨changed.size, changed.declared, changed.scopes, changed.frame, changed.rooted,
    changed.registry, changed.sources, changed.tasks, changed.task, changed.feeding⟩

theorem node_complete (model : Model) (task : TaskId) (id other : NodeId) :
    (model.complete task id).node other =
      if other = id ∧ other.index < model.nodes.size then
        { model.node other with isResolved := true }
      else model.node other :=
  Model.node_changeNode (model.mark .done task) id other _

theorem referent_complete (model : Model) (task : TaskId) (id other : NodeId) :
    ((model.complete task id).node other).referent = (model.node other).referent := by
  rw [node_complete]
  split <;> rfl

theorem resolved_complete {model : Model} {id : NodeId} (inside : id.index < model.nodes.size)
    (task : TaskId) (other : NodeId) :
    ((model.complete task id).node other).isResolved =
      if other = id then true else (model.node other).isResolved := by
  rw [node_complete]
  by_cases same : other = id
  · subst same
    simp [inside]
  · simp [same]

theorem queue_leave (model : Model) (call : Call) (outer : List Call) (complete : Bool) :
    (leave model call outer complete).model.queue = model.queue.mark .done call.task :=
  congrArg (fun queue => Queue.mark queue .done call.task)
    (Model.queue_finish model call.node call.remainder complete)

theorem status_leave (model : Model) (call : Call) (outer : List Call) (complete : Bool)
    (task : TaskId) :
    (model.IsDone task -> (leave model call outer complete).model.IsDone task) ∧
      (((leave model call outer complete).model.queue.get task).status = .waiting ->
        (model.queue.get task).status = .waiting) := by
  unfold Model.IsDone
  rw [queue_leave, Queue.get_mark]
  split
  next => simp
  next => exact ⟨fun done => done, fun waits => waits⟩

section

variable {start model : Model} {todo : List TaskId} {call : Call} {outer : List Call}

theorem Scheduled.runs (scheduled : Scheduled start ⟨model, todo, call :: outer⟩) :
    (model.queue.get call.task).status = .running :=
  (scheduled.running call.task).mpr ⟨call, List.mem_cons_self, rfl⟩

theorem Scheduled.assigned (poised : start.Poised)
    (scheduled : Scheduled start ⟨model, todo, call :: outer⟩) :
    (start.queue.get call.task).status = .waiting := by
  by_contra unassigned
  cases (scheduled.idle _ (poised.idle _ unassigned)).symm.trans scheduled.runs

theorem Scheduled.unlisted (gathered : start.Gathered)
    (scheduled : Scheduled start ⟨model, todo, call :: outer⟩) :
    call.node ∉ model.order.toList := by
  intro member
  obtain ⟨other, worked, same⟩ := (scheduled.order call.node).mp member
  have inside : call.task.index < start.queue.size :=
    scheduled.alike.tasks ▸ Queue.within_of_running scheduled.runs
  have equal := gathered.queued.distinct other call.task (Model.within_of_waits worked.1) inside
    (same.trans (scheduled.placed call List.mem_cons_self))
  cases (equal ▸ worked.2).symm.trans scheduled.runs

theorem Scheduled.worked (poised : start.Poised)
    (scheduled : Scheduled start ⟨model, todo, call :: outer⟩) {after : Model}
    (left : model.PutsBy after call.task) (task : TaskId) :
    start.Worked after task ↔ start.Worked model task ∨ task = call.task := by
  unfold Model.Worked
  rw [left.isDone_iff]
  constructor
  · rintro ⟨waited, before | same⟩
    · exact Or.inl ⟨waited, before⟩
    · exact Or.inr same
  · rintro (⟨waited, before⟩ | rfl)
    · exact ⟨waited, Or.inl before⟩
    · exact ⟨scheduled.assigned poised, Or.inr rfl⟩

/-- The call's tag ends the order, and the list that its task came first in is taken up again. -/
theorem Scheduled.leave (poised : start.Poised)
    (scheduled : Scheduled start ⟨model, todo, call :: outer⟩) (complete : Bool) :
    Scheduled start (leave model call outer complete) := by
  have gathered := poised.gathered
  have finished := scheduled.finished gathered complete
  have placed := scheduled.placed call List.mem_cons_self
  have left : model.PutsBy (Pass.leave model call outer complete).model call.task :=
    ⟨queue_leave model call outer complete, scheduled.runs⟩
  obtain ⟨absent, distinct⟩ := List.nodup_cons.mp scheduled.distinct
  unfold Pass.leave at left ⊢
  generalize model.finish call.node call.remainder complete = after at finished left ⊢
  have completed := alike_complete after call.task call.node
  have changed := finished.alike.trans completed
  have done := left.isDone_iff
  have keeps {errand : Option Call} {tasks : List TaskId} (before : Errand start model errand tasks) :
      Errand start (after.complete call.task call.node) errand tasks :=
    before.mono (fun other there => (done other).mpr (Or.inl there)) fun _ => left.waits_before
  have order : (after.complete call.task call.node).order.toList =
      model.order.toList ++ [call.node] := by
    rw [← finished.order]
    exact Array.toList_push ..
  constructor
  case alike => exact scheduled.alike.trans changed
  case filed =>
    exact finished.filed.mono fun kind name target => (completed.bears kind name target).mpr
  case placed => exact fun other member => scheduled.placed other (List.mem_cons_of_mem _ member)
  case fits =>
    intro other member
    refine (scheduled.fits other (List.mem_cons_of_mem _ member)).congr changed ?_
    rw [referent_complete, finished.referent]
  case distinct => exact distinct
  case running =>
    intro other
    rw [left.status]
    by_cases same : other = call.task
    · subst same
      simp only [if_true, reduceCtorEq, false_iff]
      rintro ⟨older, member, same⟩
      exact absent (List.mem_map.mpr ⟨older, member, same⟩)
    · rw [if_neg same, scheduled.running other]
      simp [Ne.symm same]
  case idle => exact fun other before => (done other).mpr (Or.inl (scheduled.idle other before))
  case order =>
    intro id
    simp only [scheduled.worked poised left, or_and_right, exists_or, exists_eq_left]
    rw [order, List.mem_append, scheduled.order id, List.mem_singleton, placed, eq_comm (a := id)]
  case nodup =>
    rw [order]
    refine List.nodup_append.mpr ⟨scheduled.nodup, by simp, ?_⟩
    intro id member other single same
    rw [List.mem_singleton.mp single] at same
    exact scheduled.unlisted gathered (same ▸ member)
  case resolved =>
    intro id
    have runs := Queue.within_of_running scheduled.runs
    rw [scheduled.alike.tasks] at runs
    have tag := (gathered.queued.deferred call.task runs).1
    rw [← placed] at tag
    have there : call.node.index < after.nodes.size := by
      rw [(scheduled.alike.trans finished.alike).size]
      exact tag.2
    rw [order, resolved_complete there, List.mem_append, List.mem_singleton, ← or_assoc]
    by_cases same : id = call.node
    · simp [same]
    · rw [if_neg same, finished.resolved, scheduled.resolved id]
      simp [same]
  case fresh =>
    intro other waits
    rw [referent_complete, finished.referent]
    exact scheduled.fresh other (left.waits_before waits)
  case front =>
    -- the call's task comes first in the list that it was taken from, and is done now
    have next := scheduled.behind _ List.mem_cons_self
    exact (keeps next).tail ((done call.task).mpr (Or.inr rfl))
  case behind =>
    exact fun errand member => keeps (scheduled.behind errand (List.mem_cons_of_mem _ member))

end

theorem Step.status {pass next : Pass} (step : Step pass next) (task : TaskId) :
    (pass.model.IsDone task -> next.model.IsDone task) ∧
      ((next.model.queue.get task).status = .waiting ->
        (pass.model.queue.get task).status = .waiting) := by
  cases step with
  | enter model first rest calls waits =>
      have taken : model.TakesUp (Pass.enter model first rest calls).model first :=
        ⟨Model.queue_prepare _ _, waits⟩
      exact ⟨(taken.isDone_iff task).mpr, fun later => (taken.waits_before later).2⟩
  | skip => exact ⟨fun done => done, fun waits => waits⟩
  | ignore => exact ⟨fun done => done, fun waits => waits⟩
  | leave model call outer => exact status_leave model call outer true task
  | circle model first rest call outer => exact status_leave model call outer false task

theorem Step.scheduled {start : Model} {pass next : Pass} (step : Step pass next)
    (poised : start.Poised) (scheduled : Scheduled start pass) : Scheduled start next := by
  cases step with
  | enter model task rest calls waits => exact scheduled.enter poised.gathered waits
  | skip model task rest calls done => exact scheduled.skip done
  | ignore model task rest runs =>
      obtain ⟨call, member, -⟩ := (scheduled.running task).mp runs
      cases member
  | leave model call outer => exact scheduled.leave poised true
  | circle model task rest call outer => exact scheduled.leave poised false

theorem Reaches.scheduled {start : Model} {pass next : Pass} (reaches : Reaches pass next)
    (poised : start.Poised) (scheduled : Scheduled start pass) : Scheduled start next := by
  induction reaches with
  | refl => exact scheduled
  | tail _ step ih => exact step.scheduled poised ih

end Pass

namespace Compilation

namespace Sound

variable {read : Compilation}

theorem poised (sound : read.Sound) : read.model.Poised :=
  ⟨sound.gathered, sound.order, fun _ => sound.done_of_not_waits⟩

theorem scheduled (sound : read.Sound) : Pass.Scheduled read.model read.outset where
  alike := Model.Alike.refl read.model
  filed := sound.gathered.filed
  placed _ member := by cases member
  fits _ member := by cases member
  distinct := List.nodup_nil
  running task := by
    constructor
    · intro runs
      change (read.model.queue.get task).status = .running at runs
      have idle : (read.model.queue.get task).status = .done :=
        sound.done_of_not_waits (by simp [runs])
      cases idle.symm.trans runs
    · rintro ⟨_, member, -⟩
      cases member
  idle _ done := done
  order id := by
    have none_ : read.outset.model.order = #[] := sound.order
    rw [none_]
    refine ⟨fun member => absurd member (by simp), ?_⟩
    rintro ⟨task, worked, -⟩
    cases worked.1.symm.trans worked.2
  nodup := by
    have none_ : read.outset.model.order = #[] := sound.order
    rw [none_]
    exact List.nodup_nil
  resolved id := by
    have none_ : read.outset.model.order = #[] := sound.order
    rw [none_]
    exact ⟨Or.inl, fun either => either.resolve_right (by simp)⟩
  fresh _ _ := sound.gathered.unworked.referent _
  front := ⟨sound.settled_agenda _, fun _ _ none_ => (by cases none_),
    fun _ _ waits => sound.mem_agenda waits⟩
  behind _ member := by cases member

end Sound

end Compilation

end XmlSchema

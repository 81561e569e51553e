import Mathlib.Data.Prod.Lex
import XmlSchema.Compilation.Gathering
import XmlSchema.Proofs.Resolution.LookUps
import XmlSchema.Proofs.Resolution.Remainders

set_option autoImplicit false

namespace XmlSchema

namespace Model

section

variable (model : Model) (id : NodeId)

@[simp] theorem queue_prepare : (model.prepare id).1.queue = model.queue := by
  refine (lookUps_prepare model id).keeps (P := fun after => after.queue = model.queue) rfl ?_
  intro one two looksUp before
  cases looksUp with
  | follow id kind written => exact (Noted.follow one id kind written).queue.trans before
  | tell => exact before
  | enter => exact before

@[simp] theorem queue_finish (remainder : Remainder) (complete : Bool) :
    (model.finish id remainder complete).queue = model.queue := by
  refine (Remainder.Steps.finish model id remainder complete).keeps
    (P := fun after => after.queue = model.queue) rfl ?_
  intro one two _ step before
  cases step with
  | copy => exact before
  | inherit => exact before
  | base => exact before
  | report => exact before
  | content => exact (Noted.markAnyContent one id).queue.trans before
  | attributes => exact (Noted.markAnyAttribute one id).queue.trans before

end

section

variable {P : Model -> Prop} {model : Model}

theorem drain_keeps {run : Model -> TaskId -> Model}
    (runs : ∀ {model : Model} (task : TaskId), P model -> P (run model task))
    (kept : P model) (tasks : List TaskId) : P (drain run model tasks).1 := by
  induction tasks generalizing model with
  | nil => exact kept
  | cons task rest ih =>
    unfold drain
    split
    · exact ih (runs task kept)
    · exact kept
    · exact ih kept

/-- What is kept until a tag waits and from then on is kept by the work on the tag with that on all
tags that it awaits. -/
theorem runWith_keeps {Q : Remainder -> Prop}
    (begins : ∀ {model : Model} (task : TaskId) (id : NodeId), P model ->
      P ((model.mark .running task).prepare id).1 ∧
        Q ((model.mark .running task).prepare id).2)
    (ends : ∀ {model : Model} (task : TaskId) (id : NodeId) {remainder : Remainder}
      (complete : Bool), P model -> Q remainder ->
        P ((model.finish id remainder complete).complete task id))
    (fuel : Nat) (kept : P model) (task : TaskId) : P (model.runWith fuel task) := by
  induction fuel generalizing model task with
  | zero => exact kept
  | succ fuel ih =>
    unfold runWith
    dsimp only
    split
    next =>
      obtain ⟨begun, fit⟩ := begins task (model.queue.get task).node kept
      generalize (model.mark .running task).prepare (model.queue.get task).node = prepared
        at begun fit
      refine ends task _ _ ?_ fit
      split
      -- what the tag awaits is worked on inside its own work, with less fuel
      next => exact drain_keeps (P := P) (fun task kept => ih kept task) begun _
      next => exact begun
    next => exact kept

end

end Model

/-- A tag whose work is under way, and the tasks that come after it where it was started. -/
structure Call where
  task : TaskId
  node : NodeId
  remainder : Remainder
  rest : List TaskId

/-- A point of the work: the tasks to look at next, and the open calls, innermost first. -/
structure Pass where
  model : Model
  todo : List TaskId
  calls : List Call

namespace Pass

def enter (model : Model) (task : TaskId) (rest : List TaskId) (calls : List Call) : Pass :=
  let node := (model.queue.get task).node
  let prepared := (model.mark .running task).prepare node
  { model := prepared.1
    todo := (prepared.2.awaited.map prepared.1.queue.feeding).getD []
    calls := ⟨task, node, prepared.2, rest⟩ :: calls }

def leave (model : Model) (call : Call) (outer : List Call) (complete : Bool) : Pass :=
  { model := (model.finish call.node call.remainder complete).complete call.task call.node
    todo := call.rest
    calls := outer }

inductive Step : Pass -> Pass -> Prop where
  | enter (model : Model) (task : TaskId) (rest : List TaskId) (calls : List Call)
      (waiting : (model.queue.get task).status = .waiting) :
      Step ⟨model, task :: rest, calls⟩ (enter model task rest calls)
  | skip (model : Model) (task : TaskId) (rest : List TaskId) (calls : List Call)
      (done : (model.queue.get task).status = .done) :
      Step ⟨model, task :: rest, calls⟩ ⟨model, rest, calls⟩
  | ignore (model : Model) (task : TaskId) (rest : List TaskId)
      (running : (model.queue.get task).status = .running) :
      Step ⟨model, task :: rest, []⟩ ⟨model, rest, []⟩
  | leave (model : Model) (call : Call) (outer : List Call) :
      Step ⟨model, [], call :: outer⟩ (leave model call outer true)
  /-- A task that is running means that the awaited body depends on itself. -/
  | circle (model : Model) (task : TaskId) (rest : List TaskId) (call : Call) (outer : List Call)
      (running : (model.queue.get task).status = .running) :
      Step ⟨model, task :: rest, call :: outer⟩ (leave model call outer false)

abbrev Reaches : Pass -> Pass -> Prop := Relation.ReflTransGen Step

theorem Step.of_waiting {pass : Pass} {task : TaskId} {rest : List TaskId}
    (todo : pass.todo = task :: rest) (waits : (pass.model.queue.get task).status = .waiting) :
    Step pass (Pass.enter pass.model task rest pass.calls) := by
  obtain ⟨model, _, calls⟩ := pass
  cases todo
  exact .enter model task rest calls waits

def waiting (model : Model) : Nat :=
  ((List.range model.queue.size).filter fun index =>
    (model.queue.get ⟨index⟩).status = .waiting).length

def due : List Call -> Nat
  | [] => 0
  | call :: outer => call.rest.length + 1 + due outer

def left (pass : Pass) : Nat := pass.todo.length + due pass.calls

def rank (pass : Pass) : Nat × Nat := (waiting pass.model, pass.left)

theorem waiting_congr {old new : Model} (same : new.queue = old.queue) :
    waiting new = waiting old := by
  simp only [waiting, same]

theorem waiting_of_mark {model : Model} {task other : TaskId} {status : Task.Status}
    (apart : status ≠ .waiting)
    (waits : ((model.mark status task).queue.get other).status = .waiting) :
    (model.queue.get other).status = .waiting := by
  have marked : ((model.mark status task).queue.get other) = _ := Queue.get_mark ..
  rw [marked] at waits
  split at waits
  · exact absurd waits apart
  · exact waits

theorem waiting_mark_le (model : Model) (task : TaskId) {status : Task.Status}
    (apart : status ≠ .waiting) : waiting (model.mark status task) ≤ waiting model := by
  have size : (model.mark status task).queue.size = model.queue.size := Queue.size_mark ..
  unfold waiting
  rw [size]
  refine Graph.length_filter_mono (fun index kept => ?_) _
  exact decide_eq_true (waiting_of_mark apart (of_decide_eq_true kept))

theorem waiting_mark_lt {model : Model} {task : TaskId} {status : Task.Status}
    (waits : (model.queue.get task).status = .waiting) (apart : status ≠ .waiting) :
    waiting (model.mark status task) < waiting model := by
  have size : (model.mark status task).queue.size = model.queue.size := Queue.size_mark ..
  have within : task.index < model.queue.size := by
    refine Nat.not_le.mp fun outside => ?_
    rw [Queue.get_of_size_le _ outside] at waits
    cases waits
  have marked : ((model.mark status task).queue.get task).status = status :=
    Queue.status_mark_self model.queue status within
  unfold waiting
  rw [size]
  refine Graph.length_filter_lt (fun index kept => ?_) (List.mem_range.mpr within)
    (decide_eq_true waits) (decide_eq_false ?_)
  · exact decide_eq_true (waiting_of_mark apart (of_decide_eq_true kept))
  · rw [marked]
    exact apart

theorem waiting_enter {model : Model} {task : TaskId}
    (waits : (model.queue.get task).status = .waiting) (rest : List TaskId) (calls : List Call) :
    waiting (enter model task rest calls).model < waiting model := by
  unfold enter
  dsimp only
  rw [waiting_congr (Model.queue_prepare _ _)]
  exact waiting_mark_lt waits (by decide)

theorem waiting_leave (model : Model) (call : Call) (outer : List Call) (complete : Bool) :
    waiting (leave model call outer complete).model ≤ waiting model := by
  have marked := waiting_mark_le (model.finish call.node call.remainder complete) call.task
    (show Task.Status.done ≠ .waiting by decide)
  rw [waiting_congr (Model.queue_finish model call.node call.remainder complete)] at marked
  exact marked

theorem rank_step {pass next : Pass} (step : Step pass next) :
    Prod.Lex (· < ·) (· < ·) next.rank pass.rank := by
  rw [Prod.lex_def]
  cases step with
  | enter model task rest calls waits => exact Or.inl (waiting_enter waits rest calls)
  | skip model task rest calls => exact Or.inr ⟨rfl, by simp [rank, left]⟩
  | ignore model task rest => exact Or.inr ⟨rfl, by simp [rank, left]⟩
  | leave model call outer =>
      have fewer := waiting_leave model call outer true
      simp only [rank, left, due, List.length_nil]
      have todo : (leave model call outer true).todo = call.rest := rfl
      have calls : (leave model call outer true).calls = outer := rfl
      rw [todo, calls]
      omega
  | circle model task rest call outer =>
      have fewer := waiting_leave model call outer false
      simp only [rank, left, due, List.length_cons]
      have todo : (leave model call outer false).todo = call.rest := rfl
      have calls : (leave model call outer false).calls = outer := rfl
      rw [todo, calls]
      omega

theorem Step.unique {pass next other : Pass} (step : Step pass next) (another : Step pass other) :
    next = other := by
  cases step with
  | enter model task rest calls waits =>
      cases another with
      | enter => rfl
      | skip _ _ _ _ done => cases waits.symm.trans done
      | ignore _ _ _ runs => cases waits.symm.trans runs
      | circle _ _ _ _ _ runs => cases waits.symm.trans runs
  | skip model task rest calls done =>
      cases another with
      | enter _ _ _ _ waits => cases waits.symm.trans done
      | skip => rfl
      | ignore _ _ _ runs => cases runs.symm.trans done
      | circle _ _ _ _ _ runs => cases runs.symm.trans done
  | ignore model task rest runs =>
      cases another with
      | enter _ _ _ _ waits => cases waits.symm.trans runs
      | skip _ _ _ _ done => cases done.symm.trans runs
      | ignore => rfl
  | leave model call outer =>
      cases another with
      | leave => rfl
  | circle model task rest call outer runs =>
      cases another with
      | enter _ _ _ _ waits => cases waits.symm.trans runs
      | skip _ _ _ _ done => cases done.symm.trans runs
      | circle => rfl

theorem Reaches.through {pass next : Pass} {model : Model} (there : Reaches pass next)
    (ends : Reaches pass ⟨model, [], []⟩) : Reaches next ⟨model, [], []⟩ := by
  have unique : Relator.RightUnique Step := fun _ _ _ => Step.unique
  rcases Relation.ReflTransGen.total_of_right_unique unique there ends with further | back
  · exact further
  · rcases Relation.ReflTransGen.cases_head back with same | ⟨_, step, -⟩
    · rw [same]
    · cases step

theorem wellFounded_step : WellFounded fun next pass : Pass => Step pass next :=
  Subrelation.wf (fun step => rank_step step)
    (InvImage.wf rank (Prod.lex ⟨_, Nat.lt_wfRel.wf⟩ ⟨_, Nat.lt_wfRel.wf⟩).wf)

theorem waiting_reaches {pass next : Pass} (reaches : Reaches pass next) :
    waiting next.model ≤ waiting pass.model := by
  induction reaches with
  | refl => exact Nat.le_refl _
  | tail _ step ih =>
      have lower := rank_step step
      rw [Prod.lex_def] at lower
      simp only [rank] at lower
      omega

theorem waiting_le_size (model : Model) : waiting model ≤ model.queue.size := by
  have fewer := List.length_filter_le
    (fun index => decide ((model.queue.get ⟨index⟩).status = .waiting)) (List.range model.queue.size)
  rwa [List.length_range] at fewer

theorem drain_reaches {run : Model -> TaskId -> Model} {fuel : Nat}
    (runs : ∀ model task rest calls, (model.queue.get task).status = .waiting ->
      waiting model ≤ fuel -> Reaches ⟨model, task :: rest, calls⟩ ⟨run model task, rest, calls⟩)
    (model : Model) (tasks : List TaskId) (enough : waiting model ≤ fuel) (call : Call)
    (outer : List Call) :
    Reaches ⟨model, tasks, call :: outer⟩
      (leave (Model.drain run model tasks).1 call outer (Model.drain run model tasks).2) := by
  induction tasks generalizing model with
  | nil => exact .single (.leave model call outer)
  | cons task rest ih =>
      unfold Model.drain
      cases status : (model.queue.get task).status with
      | waiting =>
          have ran := runs model task rest (call :: outer) status enough
          exact ran.trans (ih _ (Nat.le_trans (waiting_reaches ran) enough))
      | running => exact .single (.circle model task rest call outer status)
      | done => exact .head (.skip model task rest _ status) (ih model enough)

/-- With fuel for every task that waits, the recursive program is a run of the machine. -/
theorem runWith_reaches (fuel : Nat) (model : Model) (task : TaskId) (rest : List TaskId)
    (calls : List Call) (waits : (model.queue.get task).status = .waiting)
    (enough : waiting model ≤ fuel) :
    Reaches ⟨model, task :: rest, calls⟩ ⟨model.runWith fuel task, rest, calls⟩ := by
  induction fuel generalizing model task rest calls with
  | zero =>
      have some_ := waiting_mark_lt waits (show Task.Status.done ≠ .waiting by decide)
      omega
  | succ fuel ih =>
      refine .head (.enter model task rest calls waits) ?_
      have fewer := waiting_enter waits rest calls
      have enough : waiting (enter model task rest calls).model ≤ fuel := by omega
      unfold Model.runWith
      simp only [waits]
      unfold enter at enough ⊢
      dsimp only at enough ⊢
      generalize (model.mark .running task).prepare (model.queue.get task).node = prepared at enough ⊢
      have body (tasks : List TaskId) := drain_reaches ih prepared.1 tasks enough
        ⟨task, (model.queue.get task).node, prepared.2, rest⟩ calls
      cases awaits : prepared.2.awaited with
      | none =>
          have drained := body []
          rw [Model.drain] at drained
          simp only [Option.map_none, Option.getD_none]
          exact drained
      | some target =>
          have drained := body (prepared.1.queue.feeding target)
          simp only [Option.map_some, Option.getD_some]
          exact drained

theorem run_reaches (model : Model) (task : TaskId) (rest : List TaskId) :
    Reaches ⟨model, task :: rest, []⟩ ⟨model.run task, rest, []⟩ := by
  cases status : (model.queue.get task).status with
  | waiting =>
      exact runWith_reaches _ model task rest [] status
        (Nat.le_trans (waiting_le_size model) (Nat.le_succ _))
  | running =>
      have same : model.run task = model := by simp [Model.run, Model.runWith, status]
      rw [same]
      exact .single (.ignore model task rest status)
  | done =>
      have same : model.run task = model := by simp [Model.run, Model.runWith, status]
      rw [same]
      exact .single (.skip model task rest [] status)

theorem runAll_reaches (model : Model) (tasks : List TaskId) :
    Reaches ⟨model, tasks, []⟩ ⟨model.runAll tasks, [], []⟩ := by
  induction tasks generalizing model with
  | nil => exact .refl
  | cons task rest ih => exact (run_reaches model task rest).trans (ih (model.run task))

end Pass

namespace Compilation

def duties (compilation : Compilation) (id : DocumentId) : List TaskId :=
  match (compilation.document id).state with
  | .finished => (compilation.document id).tasks.toList
  | _ => []

def agenda (compilation : Compilation) : List TaskId :=
  compilation.order.flatMap compilation.duties

theorem resolveDocument_eq (compilation : Compilation) (id : DocumentId) :
    (compilation.resolveDocument id).model = compilation.model.runAll (compilation.duties id) ∧
      (compilation.resolveDocument id).documents = compilation.documents := by
  unfold resolveDocument duties
  dsimp only
  cases (compilation.document id).state <;> exact ⟨rfl, rfl⟩

section

variable {old new : Compilation}

theorem document_congr (documents : new.documents = old.documents) (id : DocumentId) :
    new.document id = old.document id := by
  unfold document
  rw [documents]

theorem duties_congr (documents : new.documents = old.documents) (id : DocumentId) :
    new.duties id = old.duties id := by
  unfold duties
  rw [document_congr documents]

end

theorem resolve_eq (compilation : Compilation) :
    compilation.resolve.model = compilation.model.runAll compilation.agenda ∧
      compilation.resolve.documents = compilation.documents := by
  have each (ids : List DocumentId) (start : Compilation) :
      (ids.foldl resolveDocument start).model = start.model.runAll (ids.flatMap start.duties) ∧
        (ids.foldl resolveDocument start).documents = start.documents := by
    induction ids generalizing start with
    | nil => exact ⟨rfl, rfl⟩
    | cons id rest ih =>
        obtain ⟨model, documents⟩ := resolveDocument_eq start id
        obtain ⟨after, kept⟩ := ih (start.resolveDocument id)
        have duties : (start.resolveDocument id).duties = start.duties :=
          funext fun id => duties_congr documents id
        rw [List.foldl_cons, List.flatMap_cons, after, model, duties]
        exact ⟨(List.foldl_append ..).symm, kept.trans documents⟩
  exact each compilation.order compilation

def outset (compilation : Compilation) : Pass := ⟨compilation.model, compilation.agenda, []⟩

theorem resolve_reaches (compilation : Compilation) :
    Pass.Reaches compilation.outset ⟨compilation.resolve.model, [], []⟩ := by
  rw [(resolve_eq compilation).1]
  exact Pass.runAll_reaches compilation.model compilation.agenda

end Compilation

end XmlSchema

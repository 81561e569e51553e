import XmlSchema.Proofs.Resolution.Types

set_option autoImplicit false

namespace XmlSchema

structure Sweep where
  model : Model
  complete : Bool
  ran : List TaskId

def Sweep.after (task : TaskId) (sweep : Sweep) : Sweep := { sweep with ran := task :: sweep.ran }

namespace Model

instance (model : Model) (feeder owner : NodeId) : Decidable (model.Feeds feeder owner) :=
  decidable_of_iff _ (mem_fed model feeder owner)

def adds (owner : NodeId) (model : Model) (task : TaskId) : Bool :=
  decide (model.Feeds (model.queue.get task).node owner)

/-- Goes through tasks, of which those count that pass a test by the model as it is by then: one
that waits is run, and at one that is running this ends. -/
def sweep (run : Model -> TaskId -> Model) (test : Model -> TaskId -> Bool) (model : Model) :
    List TaskId -> Sweep
  | [] => ⟨model, true, []⟩
  | task :: rest =>
      if test model task then
        match (model.queue.get task).status with
        | .waiting => (sweep run test (run model task) rest).after task
        | .running => ⟨model, false, []⟩
        | .done => sweep run test model rest
      else sweep run test model rest

def scan (run : Model -> TaskId -> Model) (owner : NodeId) (model : Model) : Sweep :=
  model.sweep run (adds owner) model.queue.all

/-- Runs a task that waits. What has to be done before is found by going through all tasks. -/
def scanWith : Nat -> Model -> TaskId -> Model
  | 0, model, _ => model
  | fuel + 1, model, task =>
      let found := model.queue.get task
      match found.status with
      | .waiting =>
          let prepared := (model.mark .running task).prepare found.node
          let scanned := match prepared.2.awaited with
            | some target =>
                let swept := scan (scanWith fuel) target prepared.1
                (swept.model, swept.complete)
            | none => (prepared.1, true)
          (scanned.1.finish found.node prepared.2 scanned.2).complete task found.node
      | _ => model

def Indexed (model : Model) : Prop :=
  ∀ owner, model.queue.feeding owner = model.queue.all.filter (model.adds owner)

section

variable {old new model : Model} {run other : Model -> TaskId -> Model}
  {test : Model -> TaskId -> Bool}

theorem Queued.indexed (queued : model.Queued) : model.Indexed := by
  intro owner
  rw [queued.feeding owner]
  apply List.filter_congr
  intro task _
  simp only [adds, mem_fed]

theorem Alike.adds (alike : old.Alike new) (owner : NodeId) (task : TaskId) :
    new.adds owner task = old.adds owner task := by
  simp only [Model.adds, ← mem_fed, alike.task, fed_congr alike.kind alike.parent]

theorem Alike.all (alike : old.Alike new) : new.queue.all = old.queue.all := by
  simp only [Queue.all, alike.tasks]

theorem Alike.indexed (alike : old.Alike new) (indexed : old.Indexed) : new.Indexed := by
  intro owner
  rw [alike.feeding, indexed owner, alike.all]
  apply List.filter_congr
  intro task _
  exact (alike.adds owner task).symm

theorem drain_eq_sweep (run : Model -> TaskId -> Model) (model : Model) (tasks : List TaskId) :
    drain run model tasks = ((model.sweep run (fun _ _ => true) tasks).model,
      (model.sweep run (fun _ _ => true) tasks).complete) := by
  induction tasks generalizing model with
  | nil => rfl
  | cons task rest ih =>
      cases status : (model.queue.get task).status <;> simp [drain, sweep, status, ih, Sweep.after]

section

variable (keeps : ∀ (model : Model) (task : TaskId), model.Alike (run model task))
include keeps

theorem sweep_filter
    (settled : ∀ {old new : Model}, old.Alike new -> ∀ task, test new task = test old task)
    (model : Model) (tasks : List TaskId) :
    model.sweep run test tasks = model.sweep run (fun _ _ => true) (tasks.filter (test model)) := by
  induction tasks generalizing model with
  | nil => rfl
  | cons task rest ih =>
      by_cases passes : test model task = true
      next =>
        have later : rest.filter (test (run model task)) = rest.filter (test model) := by
          apply List.filter_congr
          intro other _
          exact settled (keeps model task) other
        cases status : (model.queue.get task).status <;> simp [sweep, passes, status, ih, later]
      next => simp [sweep, passes, ih]

theorem sweep_congr
    (same : ∀ {model : Model}, model.Indexed -> ∀ task, run model task = other model task)
    (indexed : model.Indexed) (tasks : List TaskId) :
    model.sweep run test tasks = model.sweep other test tasks := by
  induction tasks generalizing model with
  | nil => rfl
  | cons task rest ih =>
      have later := ih ((keeps model task).indexed indexed)
      rw [same indexed task] at later
      cases status : (model.queue.get task).status <;>
        simp [sweep, status, ih indexed, same indexed task, later]

theorem sweep_feeding (indexed : model.Indexed) (owner : NodeId) :
    model.sweep run (fun _ _ => true) (model.queue.feeding owner) = model.scan run owner := by
  rw [indexed owner, scan, sweep_filter keeps fun alike task => alike.adds owner task]

end

theorem alike_runWith (fuel : Nat) (model : Model) (task : TaskId) :
    model.Alike (model.runWith fuel task) :=
  (Steady.runWith fuel model task).alike

/-- However deep tasks run each other, those that each of them needs may be looked for in the whole
queue. -/
theorem runWith_eq_scanWith (fuel : Nat) (indexed : model.Indexed) (task : TaskId) :
    model.runWith fuel task = model.scanWith fuel task := by
  induction fuel generalizing model task with
  | zero => rfl
  | succ fuel ih =>
      have scans {begun : Model} (alike : model.Alike begun) (target : NodeId) :
          drain (runWith fuel) begun (begun.queue.feeding target) =
            ((begun.scan (scanWith fuel) target).model,
              (begun.scan (scanWith fuel) target).complete) := by
        have kept := alike.indexed indexed
        rw [drain_eq_sweep, sweep_feeding (alike_runWith fuel) kept, scan,
          sweep_congr (alike_runWith fuel) ih kept, ← scan]
      have begun := ((Steady.mark model .running task).trans
        (Steady.prepare (model.mark .running task) (model.queue.get task).node).1).alike
      simp only [runWith, scans begun]
      rfl

theorem drain_feeding (indexed : model.Indexed) (fuel : Nat) (owner : NodeId) :
    model.sweep (runWith fuel) (fun _ _ => true) (model.queue.feeding owner) =
      model.scan (scanWith fuel) owner := by
  rw [sweep_feeding (alike_runWith fuel) indexed, scan,
    sweep_congr (alike_runWith fuel) (runWith_eq_scanWith fuel) indexed, ← scan]

end

end Model

end XmlSchema

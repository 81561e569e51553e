import XmlSchema.Proofs.Documents.Founded
import XmlSchema.Proofs.Resolution.LookUps
import XmlSchema.Proofs.Resolution.Targets

set_option autoImplicit false

namespace XmlSchema

def Namespaces.Uses (namespaces : Namespaces) : Prop :=
  ∀ id, ∀ used ∈ (namespaces.get id).references, used.index < namespaces.size

theorem Namespaces.Uses.addReference {namespaces : Namespaces} (uses : namespaces.Uses)
    (user : NamespaceId) {used : NamespaceId} (within : used.index < namespaces.size) :
    (namespaces.addReference user used).Uses := by
  unfold Namespaces.addReference
  split
  next => exact uses
  next =>
    intro id other member
    rw [size_change]
    rw [get_change] at member
    split at member
    next =>
      split at member
      · exact uses id other member
      · rcases List.mem_append.mp member with before | new
        · exact uses id other before
        · exact List.mem_singleton.mp new ▸ within
    next => exact uses id other member

namespace Model

variable {old new model : Model} {id : NodeId}

theorem uses_follow (rooted : model.namespaces.Rooted model.scopes) (uses : model.namespaces.Uses)
    (kind : Symbols) (written : String) : (model.follow id kind written).1.namespaces.Uses := by
  unfold follow
  split
  next => exact uses
  next name _ =>
    split
    next => exact uses
    next target _ =>
      unfold noteUse
      split
      next => exact uses
      next =>
        split
        next user used _ known =>
          exact uses.addReference user (rooted.byName _ used known)
        next => exact uses

theorem uses_prepare (rooted : model.namespaces.Rooted model.scopes)
    (uses : model.namespaces.Uses) : (model.prepare id).1.namespaces.Uses := by
  suffices both : (model.prepare id).1.namespaces.Rooted (model.prepare id).1.scopes ∧
      (model.prepare id).1.namespaces.Uses from both.2
  refine @LookUps.keeps model _ (fun model =>
    model.namespaces.Rooted model.scopes ∧ model.namespaces.Uses) (lookUps_prepare model id)
    ⟨rooted, uses⟩ fun looksUp before => ?_
  cases looksUp with
  | follow id kind written =>
      exact ⟨(Noted.follow _ id kind written).rooted before.1, uses_follow before.1 before.2 kind written⟩
  | tell => exact before
  | enter id kind name target => exact ⟨(Alike.define ..).rooted before.1, before.2⟩

theorem namespaces_markWildcard (model : Model) (id : NodeId) (mark : Node -> Node) :
    (model.markWildcard id mark).namespaces = model.namespaces := by
  unfold markWildcard
  split <;> rfl

theorem namespaces_step {start one two : Model} {remainder : Remainder}
    (step : remainder.Step start id one two) : two.namespaces = one.namespaces := by
  cases step with
  | copy => rfl
  | inherit => rfl
  | base => rfl
  | report => rfl
  | content => exact namespaces_markWildcard ..
  | attributes => exact namespaces_markWildcard ..

@[simp] theorem namespaces_finish (model : Model) (id : NodeId) (remainder : Remainder)
    (complete : Bool) : (model.finish id remainder complete).namespaces = model.namespaces :=
  (Remainder.Steps.finish model id remainder complete).keeps
    (P := fun after => after.namespaces = model.namespaces) rfl
    fun _ step before => (namespaces_step step).trans before

theorem Grounded.alike (grounded : old.Grounded) (alike : old.Alike new)
    (uses : new.namespaces.Uses) : new.Grounded where
  scopes := by
    have size := alike.registry.size
    refine ⟨alike.rooted grounded.scopes.rooted, alike.scopes ▸ grounded.scopes.floor,
      fun id outer around => ?_, fun id home there => ?_, uses⟩
    · rw [alike.parentScope] at around
      exact grounded.scopes.lower id outer around
    · have same : (new.scopes.get id).home = _ := (congrArg Scope.home (alike.frame id) :)
      rw [size]
      exact grounded.scopes.homes id home (same.symm.trans there)
  bodies id := by
    rw [alike.scope, alike.scopes]
    exact grounded.bodies id
  defaults source id there := by
    rw [alike.registry.size]
    unfold Model.source at there
    rw [alike.sources] at there
    exact grounded.defaults source id there

end Model

namespace Pass

structure Listed (start : Model) (pass : Pass) : Prop where
  todo : ∀ task ∈ pass.todo, task.index < start.queue.size
  rest : ∀ call ∈ pass.calls, ∀ task ∈ call.rest, task.index < start.queue.size

variable {start : Model} {pass next : Pass}

theorem Step.uses (step : Step pass next) (rooted : pass.model.namespaces.Rooted pass.model.scopes)
    (uses : pass.model.namespaces.Uses) : next.model.namespaces.Uses := by
  have left (model : Model) (call : Call) (outer : List Call) (complete : Bool) :
      (Pass.leave model call outer complete).model.namespaces = model.namespaces :=
    Model.namespaces_finish model call.node call.remainder complete
  cases step with
  | enter model task rest calls =>
      exact @Model.uses_prepare (model.mark .running task) _ rooted uses
  | skip => exact uses
  | ignore => exact uses
  | leave model call outer =>
      rw [left]
      exact uses
  | circle model task rest call outer =>
      rw [left]
      exact uses

theorem Step.feeders (step : Step pass next) :
    next.model.queue.feeders = pass.model.queue.feeders := by
  have left (model : Model) (call : Call) (outer : List Call) (complete : Bool) :
      (Pass.leave model call outer complete).model.queue.feeders = model.queue.feeders :=
    (congrArg Queue.feeders (Model.queue_finish model call.node call.remainder complete) :)
  cases step with
  | enter model task rest calls =>
      have prepared := Model.queue_prepare (model.mark .running task) (model.queue.get task).node
      exact (congrArg Queue.feeders prepared :)
  | skip => rfl
  | ignore => rfl
  | leave model call outer => exact left ..
  | circle model task rest call outer => exact left ..

theorem Reaches.founded (reaches : Reaches pass next) (poised : start.Poised)
    (scheduled : Scheduled start pass) (founded : pass.model.Founded) : next.model.Founded := by
  -- the scopes and the tags stay, so uses of namespaces and feeders are all that could be new
  have uses : next.model.namespaces.Uses ∧
      next.model.queue.feeders = pass.model.queue.feeders ∧
        next.model.nodes.size = pass.model.nodes.size := by
    induction reaches with
    | refl => exact ⟨founded.grounded.scopes.uses, rfl, rfl⟩
    | tail before step ih =>
        have along := Reaches.scheduled before poised scheduled
        have after := Reaches.scheduled (.single step) poised along
        have rooted := along.alike.rooted poised.gathered.shaped.registry
        exact ⟨step.uses rooted ih.1, step.feeders.trans ih.2.1,
          (after.alike.size.trans along.alike.size.symm).trans ih.2.2⟩
  have along := reaches.scheduled poised scheduled
  have rooted := along.alike.rooted poised.gathered.shaped.registry
  refine ⟨founded.grounded.alike (scheduled.alike.between along.alike rooted) uses.1,
    fun owner there => ?_⟩
  rw [uses.2.1] at there
  exact Nat.lt_of_lt_of_eq (founded.manned owner there) uses.2.2.symm

theorem Step.listed (step : Step pass next) (poised : start.Poised)
    (scheduled : Scheduled start pass) (listed : Listed start pass) : Listed start next := by
  have left {model : Model} {todo : List TaskId} {call : Call} {outer : List Call}
      (listed : Listed start ⟨model, todo, call :: outer⟩) (complete : Bool) :
      Listed start (Pass.leave model call outer complete) :=
    ⟨listed.rest call List.mem_cons_self, fun other member =>
      listed.rest other (List.mem_cons_of_mem _ member)⟩
  cases step with
  | enter model task rest calls waits =>
      have after := scheduled.enter poised.gathered waits
      obtain ⟨-, others⟩ := List.forall_mem_cons.mp listed.todo
      refine ⟨fun other member => ?_, List.forall_mem_cons.mpr ⟨others, listed.rest⟩⟩
      -- what comes next feeds the body that is waited for, and the same tasks fed it at the start
      obtain ⟨target, -, there⟩ : ∃ target, _ ∧ other ∈
          ((model.mark .running task).prepare (model.queue.get task).node).1.queue.feeding target := by
        simp only [Pass.enter] at member
        cases awaits : ((model.mark .running task).prepare
            (model.queue.get task).node).2.awaited with
        | none =>
            rw [awaits] at member
            cases member
        | some target =>
            rw [awaits] at member
            exact ⟨target, trivial, member⟩
      have same := after.alike.feeding target
      rw [Pass.enter] at same
      exact ((poised.gathered.queued.mem_feeding target other).mp (same ▸ there)).1
  | skip model task rest calls =>
      exact ⟨(List.forall_mem_cons.mp listed.todo).2, listed.rest⟩
  | ignore model task rest =>
      exact ⟨(List.forall_mem_cons.mp listed.todo).2, listed.rest⟩
  | leave => exact left listed true
  | circle => exact left listed false

theorem Reaches.listed (reaches : Reaches pass next) (poised : start.Poised)
    (scheduled : Scheduled start pass) (listed : Listed start pass) : Listed start next := by
  induction reaches with
  | refl => exact listed
  | tail before step ih =>
      exact step.listed poised (Reaches.scheduled before poised scheduled) ih

end Pass

namespace Compilation

theorem Sound.listed {read : Compilation} (sound : read.Sound) :
    Pass.Listed read.model read.outset where
  todo task member := by
    obtain ⟨id, -, listed⟩ := List.mem_flatMap.mp member
    obtain ⟨finished, there⟩ := (Sound.mem_duties read id task).mp listed
    exact (sound.tasks id (Sound.within_of_finished finished) task there).1
  rest _ member := by cases member

end Compilation

end XmlSchema

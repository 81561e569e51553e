import XmlSchema.Proofs.Bounded
import XmlSchema.Proofs.Resolution.LookUps
import XmlSchema.Proofs.Resolution.Machine

set_option autoImplicit false

namespace XmlSchema

def Remainder.Bounded (remainder : Remainder) : Prop :=
  ∀ kinds factor, remainder = .own kinds factor -> factor.WellFormed

namespace Model

variable {old new model : Model}

theorem Noted.bounded (noted : old.Noted new) (bounded : old.Bounded) : new.Bounded :=
  bounded.congr (fun id => (congrArg Node.occurs (noted.core id) :)) noted.scopes

theorem LooksUp.bounded (looksUp : old.LooksUp new) (bounded : old.Bounded) : new.Bounded := by
  cases looksUp with
  | follow id kind written => exact (Noted.follow old id kind written).bounded bounded
  | tell id keeps => exact bounded.noted id fun node => (congrArg Node.occurs (keeps node) :)
  | enter id kind name target => exact bounded.define _ kind name target (bounded.nodes id)

namespace Bounded

theorem remainder (bounded : model.Bounded) (id : NodeId) : (model.prepare id).2.Bounded := by
  obtain ⟨found, -, leaves⟩ := Inquiry.Reached.prepare model id
  rintro kinds factor same
  rw [same] at leaves
  have body : (model.node id).body? = some (kinds, factor) := leaves
  unfold Node.body? at body
  split at body <;> cases body
  · exact bounded.nodes id
  · exact bounded.nodes id
  · exact Occurs.wellFormed_optionalized _
  · exact Occurs.wellFormed_once
  · exact Occurs.wellFormed_once

theorem prepare (bounded : model.Bounded) (id : NodeId) : (model.prepare id).1.Bounded :=
  (lookUps_prepare model id).keeps bounded LooksUp.bounded

theorem factor (bounded : model.Bounded) {id source : NodeId} {remainder : Remainder}
    (left : remainder.Bounded) {kinds : List Symbols} {factor : Occurs}
    (copies : remainder.copies? model id = some (kinds, factor, source)) : factor.WellFormed := by
  cases remainder <;> cases copies
  case own => exact left _ _ rfl
  case body => exact bounded.nodes id
  case derivation => exact Occurs.wellFormed_once
  case inheritance => exact Occurs.wellFormed_once

theorem finish (bounded : model.Bounded) (id : NodeId) {remainder : Remainder}
    (left : remainder.Bounded) (complete : Bool) : (model.finish id remainder complete).Bounded := by
  refine (Remainder.Steps.finish model id remainder complete).keeps
    (P := Model.Bounded) bounded ?_
  intro one two _ step before
  have inlined (kinds : List Symbols) (target source : ScopeId) (inherited : Bool)
      {factor : Occurs} (formed : factor.WellFormed) : Model.Bounded
        { one with scopes := one.scopes.inlineEach kinds target factor source inherited } :=
    before.withScopes rfl
      (before.scopes.foldl (fun kind scopes => scopes.inlineInto _ kind formed _ _) kinds)
  cases step with
  | copy around copies => exact inlined _ _ _ _ (bounded.factor left copies)
  | inherit => exact inlined _ _ _ _ Occurs.wellFormed_once
  | base => exact before.noted _ fun _ => rfl
  | report => exact (Noted.circular ..).bounded before
  | content => exact (Noted.markAnyContent ..).bounded before
  | attributes => exact (Noted.markAnyAttribute ..).bounded before

theorem mark (bounded : model.Bounded) (status : Task.Status) (task : TaskId) :
    (model.mark status task).Bounded := bounded.congr (fun _ => rfl) rfl

theorem complete (bounded : model.Bounded) (task : TaskId) (id : NodeId) :
    (model.complete task id).Bounded := by
  have noted : Bounded ((model.mark .done task).changeNode id fun node =>
      { node with isResolved := true }) := (bounded.mark .done task).noted id fun _ => rfl
  exact noted.congr (fun _ => rfl) rfl

end Bounded

end Model

namespace Pass

structure Bounded (pass : Pass) : Prop where
  model : pass.model.Bounded
  calls : ∀ call ∈ pass.calls, call.remainder.Bounded

variable {pass next : Pass}

theorem Bounded.leave {model : Model} {todo : List TaskId} {call : Call} {outer : List Call}
    (bounded : Bounded ⟨model, todo, call :: outer⟩) (complete : Bool) :
    (leave model call outer complete).Bounded := by
  obtain ⟨here, others⟩ := List.forall_mem_cons.mp bounded.calls
  exact ⟨(bounded.model.finish call.node here complete).complete call.task call.node, others⟩

theorem Step.bounded (step : Step pass next) (bounded : pass.Bounded) : next.Bounded := by
  cases step with
  | enter model task rest calls =>
      have marked := bounded.model.mark .running task
      exact ⟨marked.prepare _, List.forall_mem_cons.mpr ⟨marked.remainder _, bounded.calls⟩⟩
  | skip => exact ⟨bounded.model, bounded.calls⟩
  | ignore => exact ⟨bounded.model, bounded.calls⟩
  | leave => exact bounded.leave true
  | circle => exact bounded.leave false

end Pass

end XmlSchema

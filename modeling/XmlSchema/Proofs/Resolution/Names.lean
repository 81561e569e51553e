import XmlSchema.Proofs.Names
import XmlSchema.Proofs.Resolution.Records

set_option autoImplicit false

namespace XmlSchema

theorem Prefixes.isProper_qualify {prefixes : Prefixes} {label rest : String} {name : QName}
    (local_ : Name.isNcName rest = true) (qualified : prefixes.qualify label rest = .ok name) :
    name.IsProper := by
  unfold qualify at qualified
  split at qualified
  · cases qualified
    exact local_
  · cases qualified

theorem Prefixes.isProper_referenceName {prefixes : Prefixes} {written : String} {name : QName}
    (read : prefixes.referenceName written = .ok name) : name.IsProper := by
  unfold referenceName Name.checkQName Name.isQName at read
  dsimp only at read
  cases parts : Name.split (Text.trim written) with
  | mk label rest =>
      rw [parts] at read
      cases label with
      | none =>
          by_cases fits : Name.isNcName rest = true <;> simp only [fits] at read <;> cases read
          exact fits
      | some label =>
          by_cases fits : (Name.isNcName label && Name.isNcName rest) = true <;>
            simp only [fits] at read
          · rw [Bool.and_eq_true] at fits
            exact isProper_qualify fits.2 read
          · cases read

def Remainder.Proper : Remainder -> Prop
  | .derivation _ base => ∀ type, base = some type -> type.IsProper
  | _ => True

theorem Remainder.Proper.base {remainder : Remainder} (named : remainder.Proper)
    {base : Option TypeRef} (given : remainder.base? = some base) :
    ∀ type, base = some type -> type.IsProper := by
  cases remainder <;> cases given
  case derivation => exact named
  case inheritance =>
    rintro type ⟨⟩
    trivial

namespace Model

variable {model : Model} {id : NodeId}

theorem isProper_follow (model : Model) (id : NodeId) (kind : Symbols) (written : String) :
    ∀ type, (model.follow id kind written).2.typeRef? = some type -> type.IsProper := by
  unfold follow
  intro type leads
  cases read : model.readName id written with
  | error fault =>
      rw [read] at leads
      cases leads
  | ok name =>
      rw [read] at leads
      dsimp only at leads
      split at leads <;> cases leads
      · exact Prefixes.isProper_referenceName read
      · trivial

theorem isProper_namelessType (model : Model) (id : NodeId) :
    ∀ type, model.namelessType id = some type -> type.IsProper := by
  unfold namelessType
  intro type found
  obtain ⟨target, -, rfl⟩ := Option.map_eq_some_iff.mp found
  trivial

namespace Proper

theorem setType (proper : model.Proper) (id : NodeId) {type : Option TypeRef}
    (named : ∀ given, type = some given -> given.IsProper) : (model.setType id type).Proper := by
  apply proper.changeNode
  intro node fit
  exact ⟨fit.name, named, fit.base, fit.memberTypes⟩

theorem setBase (proper : model.Proper) (owner : NodeId) (how : Derivation) {base : Option TypeRef}
    (named : ∀ given, base = some given -> given.IsProper) :
    (model.setBase owner how base).Proper := by
  apply proper.changeNode
  intro node fit
  exact ⟨fit.name, fit.typeRef, named, fit.memberTypes⟩

theorem setMemberTypes (proper : model.Proper) (id : NodeId) {types : List TypeRef}
    (named : ∀ given ∈ types, given.IsProper) : (model.setMemberTypes id types).Proper := by
  apply proper.changeNode
  intro node fit
  exact ⟨fit.name, fit.typeRef, fit.base, named⟩

theorem refer (proper : model.Proper) (id target : NodeId) :
    (model.changeNode id fun node => { node with referent := some target }).Proper := by
  apply proper.noted
  simp

end Proper

end Model

structure Inquiry.Proper (inquiry : Inquiry) : Prop where
  model : inquiry.model.Proper
  found : ∀ {kind : Symbols} {reference : Reference}, (kind, reference) ∈ inquiry.found ->
    ∀ type, reference.typeRef? = some type -> type.IsProper

namespace Inquiry

variable {start : Model} {id : NodeId} {one two : Inquiry}

theorem Proper.offers (proper : one.Proper) {type : Option TypeRef}
    (offers : start.Offers id one.found type) : ∀ given, type = some given -> given.IsProper := by
  rcases offers with rfl | ⟨reference, there, rfl⟩
  · exact Model.isProper_namelessType start id
  · exact proper.found there

theorem Step.proper (step : Step start id one two) (first : start.Proper) (proper : one.Proper) :
    two.Proper := by
  cases step with
  | follow model found kind written =>
      have followed := proper.model.congr (Model.nodes_follow model id kind written)
      have named := Model.isProper_follow model id kind written
      generalize model.follow id kind written = step at followed named
      refine ⟨followed, fun member => ?_⟩
      rcases List.mem_append.mp member with earlier | last
      · exact proper.found earlier
      · obtain ⟨-, rfl⟩ := Prod.mk.inj (List.mem_singleton.mp last)
        exact named
  | member => exact ⟨(proper.model.refer id _).congr rfl, proper.found⟩
  | group => exact ⟨proper.model.refer id _, proper.found⟩
  | type _ offers => exact ⟨proper.model.setType _ (proper.offers offers), proper.found⟩
  | members _ offers =>
      refine ⟨proper.model.setMemberTypes _ fun given member => ?_, proper.found⟩
      rcases offers given member with own | offered
      · exact (first id).memberTypes given own
      · exact proper.offers offered given rfl
  | head =>
      refine ⟨?_, proper.found⟩
      apply proper.model.noted
      simp

end Inquiry

namespace Model

variable {model : Model} {id : NodeId}

namespace Proper

theorem prepare (proper : model.Proper) (id : NodeId) :
    (model.prepare id).1.Proper ∧ (model.prepare id).2.Proper := by
  obtain ⟨found, reached, leaves⟩ := Inquiry.Reached.prepare model id
  have followed : Inquiry.Proper ⟨(model.prepare id).1, found⟩ :=
    reached.keeps ⟨proper, nofun⟩ fun _ step before => step.proper proper before
  refine ⟨followed.model, ?_⟩
  generalize (model.prepare id).2 = remainder at leaves
  cases remainder with
  | derivation how base => exact followed.offers leaves
  | _ => trivial

theorem finish (proper : model.Proper) (id : NodeId) {remainder : Remainder}
    (named : remainder.Proper) (complete : Bool) : (model.finish id remainder complete).Proper := by
  refine (Remainder.Steps.finish model id remainder complete).keeps
    (P := Model.Proper) proper ?_
  intro one two _ step before
  cases step with
  | copy => exact before.congr rfl
  | inherit => exact before.congr rfl
  | base how _ given => exact before.setBase _ how (named.base given)
  | report => exact before.congr rfl
  | content => exact before.markWildcard id (by simp)
  | attributes => exact before.markWildcard id (by simp)

theorem complete (proper : model.Proper) (task : TaskId) (id : NodeId) :
    (model.complete task id).Proper := by
  have marked : (model.mark .done task).Proper := proper.congr rfl
  have resolved : Proper ((model.mark .done task).changeNode id fun node =>
      { node with isResolved := true }) := by
    apply marked.noted
    simp
  exact resolved.congr rfl

theorem runWith (fuel : Nat) (proper : model.Proper) (task : TaskId) :
    (model.runWith fuel task).Proper := by
  refine runWith_keeps (P := Model.Proper) (Q := Remainder.Proper) ?_ ?_ fuel proper task
  · intro one task id before
    have marked : (one.mark .running task).Proper := before.congr rfl
    exact marked.prepare id
  · intro one task id _ complete before named
    exact (before.finish id named complete).complete task id

theorem runAll (proper : model.Proper) (tasks : List TaskId) : (model.runAll tasks).Proper := by
  unfold Model.runAll
  induction tasks generalizing model with
  | nil => exact proper
  | cons task rest ih => exact ih (proper.runWith _ task)

end Proper

end Model

end XmlSchema

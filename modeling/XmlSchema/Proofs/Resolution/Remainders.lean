import Mathlib.Logic.Relation
import XmlSchema.Proofs.Resolution.Passing

set_option autoImplicit false

namespace XmlSchema

namespace Scopes

theorem foldl_inlineIntoParent_of_root (scopes : Scopes) {id : ScopeId}
    (root : (scopes.get id).parent = none) (kinds : List Symbols) (factor : Occurs)
    (source : ScopeId) :
    kinds.foldl (fun scopes kind => scopes.inlineIntoParent id kind factor source) scopes =
      scopes := by
  induction kinds with
  | nil => rfl
  | cons kind rest ih =>
    have nothing : scopes.inlineIntoParent id kind factor source = scopes := by
      simp only [inlineIntoParent, root]
    rw [List.foldl_cons, nothing]
    exact ih

end Scopes

namespace Remainder

def copies? (model : Model) (id : NodeId) :
    Remainder -> Option (List Symbols × Occurs × NodeId)
  | .nothing => none
  | .own kinds factor => some (kinds, factor, id)
  | .body _ target members => some ([members], (model.node id).occurs, target)
  | .derivation _ _ => some ([.elements, .attributes], .once, id)
  | .inheritance _ _ _ => some ([.elements, .attributes], .once, id)

/-- One thing that is done of what is left on a tag, which was first looked at in the model `start`. -/
inductive Step (start : Model) (id : NodeId) (remainder : Remainder) : Model -> Model -> Prop where
  | copy {model : Model} {outer : ScopeId} {kinds : List Symbols} {factor : Occurs}
      {source : NodeId} (around : (start.scopes.get (start.node id).scope).parent = some outer)
      (copies : remainder.copies? start id = some (kinds, factor, source)) :
      Step start id remainder model
        { model with
          scopes := model.scopes.inlineEach kinds outer factor (start.node source).scope false }
  | inherit {model : Model} {owner target : NodeId}
      (around : start.enclosing id Kind.isType = some owner)
      (heir : remainder.heritage? = some target) :
      Step start id remainder model
        { model with
          scopes := model.scopes.inlineEach Model.inheritedKinds (start.node owner).scope .once
            (start.node target).scope true }
  | base {model : Model} {owner : NodeId} {base : Option TypeRef} (how : Derivation)
      (around : start.enclosing id Kind.isType = some owner)
      (given : remainder.base? = some base) :
      Step start id remainder model (model.setBase owner how base)
  | report {model : Model} (name : QName) : Step start id remainder model (model.circular id name)
  | content {model : Model} {name : QName} {target : NodeId} {members : Symbols}
      (group : remainder = .body name target members) :
      Step start id remainder model (model.markAnyContent id)
  | attributes {model : Model} {name : QName} {target : NodeId} {members : Symbols}
      (group : remainder = .body name target members) :
      Step start id remainder model (model.markAnyAttribute id)

abbrev Steps (start : Model) (id : NodeId) (remainder : Remainder) : Model -> Model -> Prop :=
  Relation.ReflTransGen (Step start id remainder)

variable {start model one two : Model} {id : NodeId} {remainder : Remainder}

theorem Step.alike (step : Step start id remainder one two) : one.Alike two := by
  have inlined (kinds : List Symbols) (target : ScopeId) (factor : Occurs) (source : ScopeId)
      (inherited : Bool) : one.Alike
        { one with scopes := one.scopes.inlineEach kinds target factor source inherited } :=
    .withScopes one (Scopes.size_inlineEach ..)
      (Scopes.keeps_inlineEach Scope.frame (fun _ _ => rfl) _ _ _ _ _ _)
  cases step with
  | copy => exact inlined ..
  | inherit => exact inlined ..
  | base => exact .changeNode one _ fun _ => rfl
  | report name => exact (Model.Noted.circular one id name).alike
  | content => exact (Model.Noted.markAnyContent one id).alike
  | attributes => exact (Model.Noted.markAnyAttribute one id).alike

namespace Steps

theorem keeps {P : Model -> Prop} (steps : Steps start id remainder start model) (before : P start)
    (step : ∀ {one two : Model}, Steps start id remainder start one ->
      Step start id remainder one two -> P one -> P two) : P model := by
  induction steps with
  | refl => exact before
  | tail done next ih => exact step done next ih

theorem alike (steps : Steps start id remainder one two) : one.Alike two := by
  induction steps with
  | refl => exact .refl one
  | tail _ step ih => exact ih.trans step.alike

theorem inlineBody (steps : Steps start id remainder start model) {kinds : List Symbols}
    {factor : Occurs} (copies : remainder.copies? start id = some (kinds, factor, id)) :
    Steps start id remainder start (model.inlineBody id kinds factor) := by
  have alike := steps.alike
  unfold Model.inlineBody
  dsimp only
  cases around : (model.scopes.get (model.node id).scope).parent with
  | none =>
      rw [Scopes.foldl_inlineIntoParent_of_root _ around]
      exact steps
  | some outer =>
      rw [Scopes.foldl_inlineIntoParent _ around, alike.scope]
      rw [alike.parentScope, alike.scope] at around
      exact steps.tail (.copy around copies)

theorem setBase (steps : Steps start id remainder start model) {owner : NodeId} (how : Derivation)
    {base : Option TypeRef} (around : model.enclosing id Kind.isType = some owner)
    (given : remainder.base? = some base) :
    Steps start id remainder start (model.setBase owner how base) := by
  rw [steps.alike.enclosing] at around
  exact steps.tail (.base how around given)

theorem inherit (steps : Steps start id remainder start model) {owner target : NodeId}
    (around : model.enclosing id Kind.isType = some owner)
    (heir : remainder.heritage? = some target) :
    Steps start id remainder start (model.inherit owner target) := by
  have alike := steps.alike
  unfold Model.inherit
  dsimp only
  rw [alike.scope, alike.scope]
  rw [alike.enclosing] at around
  exact steps.tail (.inherit around heir)

theorem derive (steps : Steps start id remainder start model) (how : Derivation)
    {base : Option TypeRef} (given : remainder.base? = some base) (heritage : Option NodeId)
    (heirs : ∀ target, heritage = some target -> remainder.heritage? = some target) :
    Steps start id remainder start (model.derive id how base heritage) := by
  have copies : remainder.copies? start id = some ([.elements, .attributes], .once, id) := by
    cases remainder <;> first | rfl | cases given
  unfold Model.derive
  dsimp only
  refine Steps.inlineBody ?_ copies
  split
  next owner around =>
    cases heritage with
    | none => exact steps.setBase how around given
    | some target =>
        have inherits := steps.inherit around (heirs target rfl)
        refine inherits.setBase how ?_ given
        rw [inherits.alike.enclosing, ← steps.alike.enclosing]
        exact around
  next => exact steps

theorem copyGroup {name : QName} (target : NodeId) (members : Symbols) :
    Steps start id (.body name target members) start (start.copyGroup id target members) := by
  have copied : Steps start id (.body name target members) start
      { start with
        scopes := start.scopes.inlineIntoParent (start.node id).scope members
          (start.node id).occurs (start.node target).scope } := by
    unfold Scopes.inlineIntoParent
    split
    next outer around =>
      have copies : copies? start id (.body name target members) =
          some ([members], (start.node id).occurs, target) := rfl
      exact .single (Step.copy around copies)
    next => exact .refl
  unfold Model.copyGroup
  dsimp only
  split <;> split
  · exact (copied.tail (.content rfl)).tail (.attributes rfl)
  · exact copied.tail (.attributes rfl)
  · exact copied.tail (.content rfl)
  · exact copied

theorem finish (start : Model) (id : NodeId) (remainder : Remainder) (complete : Bool) :
    Steps start id remainder start (start.finish id remainder complete) := by
  cases remainder with
  | nothing => exact .refl
  | own kinds factor => exact inlineBody .refl rfl
  | body name target members =>
      cases complete with
      | true => exact copyGroup target members
      | false => exact .single (.report name)
  | derivation how base =>
      have first : Steps start id (.derivation how base) start start := .refl
      exact first.derive how rfl none nofun
  | inheritance how target written =>
      cases complete with
      | true =>
          have first : Steps start id (.inheritance how target written) start start := .refl
          exact first.derive how rfl (some target) fun _ same => same
      | false =>
          have reported (name : QName) :
              Steps start id (.inheritance how target written) start (start.circular id name) :=
            .single (.report name)
          exact (reported _).derive how rfl none nofun

end Steps

end Remainder

end XmlSchema

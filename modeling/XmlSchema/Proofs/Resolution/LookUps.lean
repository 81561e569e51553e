import XmlSchema.Proofs.Resolution.Inquiries

set_option autoImplicit false

namespace XmlSchema

namespace Model

inductive LooksUp : Model -> Model -> Prop where
  | follow (model : Model) (id : NodeId) (kind : Symbols) (written : String) :
      LooksUp model (model.follow id kind written).1
  | tell (model : Model) (id : NodeId) {f : Node -> Node}
      (keeps : ∀ node, (f node).declared = node.declared) : LooksUp model (model.changeNode id f)
  | enter (model : Model) (id : NodeId) (kind : Symbols) (name : QName) (target : NodeId) :
      LooksUp model
        (model.define (model.node id).scope kind name target (model.node id).occurs)

abbrev LookUps : Model -> Model -> Prop := Relation.ReflTransGen LooksUp

theorem LookUps.keeps {old new : Model} {P : Model -> Prop} (lookUps : old.LookUps new)
    (before : P old) (step : ∀ {one two : Model}, one.LooksUp two -> P one -> P two) : P new := by
  induction lookUps with
  | refl => exact before
  | tail _ next ih => exact step next ih

end Model

theorem Inquiry.Step.lookUps {start : Model} {id : NodeId} {one two : Inquiry}
    (step : Step start id one two) : one.model.LookUps two.model := by
  cases step with
  | follow model found kind written =>
      dsimp only
      exact .single (.follow model id kind written)
  | @member model found kind name target =>
      -- the entry is made where the tag stands, which being told of its referent does not change
      let refer (node : Node) : Node := { node with referent := some target }
      have told : model.LooksUp (model.changeNode id refer) := .tell model id fun _ => rfl
      have scope := Model.keeps_changeNode Node.scope model id id (f := refer) fun _ => rfl
      have occurs := Model.keeps_changeNode Node.occurs model id id (f := refer) fun _ => rfl
      have entered := Model.LooksUp.enter (model.changeNode id refer) id kind
        ((model.node target).name.getD name) target
      rw [scope, occurs] at entered
      exact (Relation.ReflTransGen.single told).tail entered
  | group => exact .single (.tell _ id fun _ => rfl)
  | type => exact .single (.tell _ _ fun _ => rfl)
  | members => exact .single (.tell _ _ fun _ => rfl)
  | head => exact .single (.tell _ _ fun _ => rfl)

theorem Model.lookUps_prepare (model : Model) (id : NodeId) :
    model.LookUps (model.prepare id).1 := by
  obtain ⟨found, reached, -⟩ := Inquiry.Reached.prepare model id
  exact reached.keeps (P := fun inquiry => model.LookUps inquiry.model) .refl
    fun _ step before => before.trans step.lookUps

end XmlSchema

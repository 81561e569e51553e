import XmlSchema.Proofs.Reading.Allotment
import XmlSchema.Proofs.Reading.Targets

set_option autoImplicit false

namespace XmlSchema

theorem Scopes.within_of_parent {scopes : Scopes} {id outer : ScopeId}
    (around : (scopes.get id).parent = some outer) : id.index < scopes.size := by
  refine Nat.not_le.mp fun outside => ?_
  rw [get_of_size_le scopes outside] at around
  cases around

namespace Model

def Inner (model : Model) : Prop :=
  model.Traced (fun id target => (model.node target).parent = some id) fun scope target =>
    (model.node target).kind.isType = true ∧
      (model.scopes.get (model.node target).scope).parent = some scope

variable {old new : Model}

theorem Traced.inner
    (traced : new.Traced (fun id target => (old.node target).parent = some id) fun scope target =>
      (old.node target).kind.isType = true ∧
        (old.scopes.get (old.node target).scope).parent = some scope)
    (parents : ∀ target, (new.node target).parent = (old.node target).parent)
    (kinds : ∀ target, (new.node target).kind = (old.node target).kind)
    (bodies : ∀ target, (old.node target).kind.isType = true ->
      (new.node target).scope = (old.node target).scope)
    (around : ∀ scope outer, (old.scopes.get scope).parent = some outer ->
      (new.scopes.get scope).parent = some outer) : new.Inner := by
  refine traced.mono (fun id target stands => (parents target).trans stands) ?_
  rintro scope target ⟨type, outer⟩
  rw [kinds, bodies target type]
  exact ⟨type, around _ _ outer⟩

theorem Inner.congr (inner : old.Inner) (nodes : new.nodes = old.nodes)
    (scopes : new.scopes = old.scopes) : new.Inner := by
  have same := Draft.node_congr nodes
  refine (Traced.withScopes inner nodes fun _ => by rw [scopes]).inner
    (fun target => congrArg Node.parent (same target))
    (fun target => congrArg Node.kind (same target))
    (fun target _ => congrArg Node.scope (same target)) fun scope outer around => ?_
  rw [scopes]
  exact around

theorem Inner.addNode (inner : old.Inner) {node : Node} (fresh : node.written = node) :
    (old.addNode node).Inner := by
  -- a tag that stands somewhere is there already, and is not the new one
  have before {id : NodeId} (there : old.node id ≠ default) :
      (old.addNode node).node id = old.node id := by
    rw [node_addNode, if_neg]
    rintro rfl
    exact there (node_of_size_le old (Nat.le_refl _))
  refine (Traced.addNode inner fresh).mono (fun id target stands => ?_) ?_
  · rw [before]
    · exact stands
    · intro missing
      rw [missing] at stands
      cases stands
  · rintro scope target ⟨type, outer⟩
    rw [before]
    · exact ⟨type, outer⟩
    · intro missing
      rw [missing] at type
      cases type

theorem Inner.createChild (inner : old.Inner) (outer : ScopeId) :
    Inner { old with scopes := old.scopes.createChild outer } := by
  refine Traced.inner (Traced.withScopes inner rfl fun _ => Scopes.typeOf_create ..)
    (fun _ => rfl) (fun _ => rfl) (fun _ _ => rfl) fun scope around there => ?_
  exact (Scopes.parent_create_of_lt _ _ _ (Scopes.within_of_parent there)).trans there

end Model

namespace Draft

variable {draft : Draft}

theorem Tells.inner {id : NodeId} {new : Draft} (tells : draft.Tells id new)
    (inner : draft.model.Inner) : new.model.Inner := by
  have traced := tells.traced inner (fun _ _ stands => stands)
    fun type _ around => ⟨type, around⟩
  have carried (carries : draft.model.Carries new.model) : new.model.Inner :=
    traced.inner (fun target => (congrArg Node.parent (carries.written target) :)) carries.kind
      (fun target _ => carries.scope target) fun scope outer around =>
        (carries.parent scope (Scopes.within_of_parent around)).trans around
  cases tells with
  | source kind =>
      have registers := Model.Registers.registerRoot draft.model draft.document
      have node := node_congr registers.nodes
      rw [Model.declareSource_eq] at traced ⊢
      generalize (draft.model.registerRoot draft.document).1 = root at registers node traced ⊢
      refine traced.inner (fun target => ?_) (fun target => ?_) (fun target type => ?_) ?_
      · rw [← node]
        exact Model.keeps_changeNode Node.parent _ id target fun _ => rfl
      · rw [← node]
        exact Model.keeps_changeNode Node.kind _ id target fun _ => rfl
      · -- the schema tag comes to have another scope, and is no type
        have apart : target ≠ id := by
          rintro rfl
          rw [kind] at type
          cases type
        rw [← node]
        exact congrArg Node.scope ((Model.node_changeNode ..).trans
          (if_neg fun same => apart same.1))
      · intro scope outer around
        exact (congrArg Scope.parent (registers.kept scope (Scopes.within_of_parent around))).trans
          around
  | second => exact inner
  | request => exact carried (Model.Registers.registerImport ..).carries
  | other => exact carried (Model.retains_declare ..).carries

theorem Move.inner {attempt : Attempt Draft} (move : draft.Move attempt)
    (inner : draft.model.Inner) : attempt.state.model.Inner := by
  cases move with
  | root attributes => exact inner
  | still model tasks still =>
      have traced := @Model.Traced.congr _ model _ _ inner
        (fun id => Node.targets_of_told (still.told id))
        fun scope => congrArg (fun scopes => Scopes.typeOf scopes scope) still.scopes
      refine traced.inner (fun target => (congrArg Node.parent (still.told target) :))
        (fun target => (congrArg Node.kind (still.told target) :))
        (fun target _ => (congrArg Node.scope (still.told target) :)) fun scope outer around => ?_
      rw [still.scopes]
      exact around
  | body outer skipped => exact (inner.createChild outer).congr rfl rfl
  | tag outer node fresh scope source read outermost inside =>
      exact (tells_declare (draft.withTag outer node) draft.model.nextNode).inner
        ((inner.createChild outer).addNode fresh)

end Draft

namespace Compilation

variable {options : Options} {fetch : Fetch} {old new : Compilation}

theorem Change.inner (change : Change options fetch old new) (inner : old.model.Inner) :
    new.model.Inner :=
  change.keeps_model inner
    (fun _ _ _ => (Draft.moves_read ..).1.keeps inner fun move => move.inner)
    fun _ _ read => read.congr rfl rfl

theorem Changes.inner (changes : Changes options fetch .empty new) : new.model.Inner :=
  changes.keeps (Model.traced_empty _ _) fun change => change.inner

end Compilation

end XmlSchema

import XmlSchema.Proofs.Documents.Arrival

set_option autoImplicit false

namespace XmlSchema

namespace TypeRef

def target? : TypeRef -> Option NodeId
  | .resolved target => some target
  | .unresolved _ => none

end TypeRef

namespace Node

def types (node : Node) : List TypeRef :=
  node.typeRef.toList ++ node.base.toList ++ node.memberTypes

def targets (node : Node) : List NodeId :=
  node.referent.toList ++ node.substitutes ++ node.types.filterMap TypeRef.target?

theorem targets_of_told {a b : Node} (same : a.told = b.told) : a.targets = b.targets :=
  (congrArg targets same :)

theorem targets_of_written {node : Node} (fresh : node.written = node) : node.targets = [] :=
  fresh ▸ rfl

end Node

namespace Model

structure Traced (model : Model) (fit : NodeId -> NodeId -> Prop)
    (marked : ScopeId -> NodeId -> Prop) : Prop where
  targets : ∀ id, ∀ target ∈ (model.node id).targets, fit id target
  markers : ∀ scope target, model.scopes.typeOf scope = some target -> marked scope target

namespace Traced

variable {old new : Model} {fit : NodeId -> NodeId -> Prop} {marked : ScopeId -> NodeId -> Prop}

theorem congr (traced : old.Traced fit marked)
    (targets : ∀ id, (new.node id).targets = (old.node id).targets)
    (markers : ∀ scope, new.scopes.typeOf scope = old.scopes.typeOf scope) :
    new.Traced fit marked where
  targets id target member := by
    rw [targets] at member
    exact traced.targets id target member
  markers scope target there := by
    rw [markers] at there
    exact traced.markers scope target there

theorem mono (traced : old.Traced fit marked) {fits : NodeId -> NodeId -> Prop}
    {marks : ScopeId -> NodeId -> Prop} (targets : ∀ id target, fit id target -> fits id target)
    (markers : ∀ scope target, marked scope target -> marks scope target) :
    old.Traced fits marks where
  targets id target member := targets id target (traced.targets id target member)
  markers scope target there := markers scope target (traced.markers scope target there)

theorem withScopes (traced : old.Traced fit marked) (nodes : new.nodes = old.nodes)
    (markers : ∀ scope, new.scopes.typeOf scope = old.scopes.typeOf scope) :
    new.Traced fit marked :=
  traced.congr (fun id => congrArg Node.targets (Draft.node_congr nodes id)) markers

theorem changeNode (traced : old.Traced fit marked) (id : NodeId) {f : Node -> Node}
    (added : ∀ target ∈ (f (old.node id)).targets,
      target ∈ (old.node id).targets ∨ fit id target) : (old.changeNode id f).Traced fit marked where
  targets other target member := by
    rw [node_changeNode] at member
    split at member
    next here =>
      rw [here.1] at member ⊢
      exact (added target member).elim (traced.targets id target) fun fits => fits
    next => exact traced.targets other target member
  markers := traced.markers

theorem noted (traced : old.Traced fit marked) (id : NodeId) {f : Node -> Node}
    (same : ∀ node, (f node).targets = node.targets) : (old.changeNode id f).Traced fit marked :=
  traced.changeNode id fun target member => .inl (by rwa [same] at member)

theorem addNode (traced : old.Traced fit marked) {node : Node} (fresh : node.written = node) :
    (old.addNode node).Traced fit marked where
  targets id target member := by
    rw [node_addNode] at member
    split at member
    next =>
      rw [Node.targets_of_written fresh] at member
      cases member
    next => exact traced.targets id target member
  markers := traced.markers

theorem setType (traced : old.Traced fit marked) {scope : ScopeId} {id : NodeId}
    (added : marked scope id) :
    Traced { old with scopes := old.scopes.setType scope id } fit marked where
  targets := traced.targets
  markers other target there := by
    simp only [Scopes.typeOf, Scopes.setType, Scopes.get_change] at there
    split at there
    next here =>
      cases before : (old.scopes.get other).typeMarker with
      | none =>
          rw [before] at there
          cases there
          rw [here.1]
          exact added
      | some first =>
          rw [before] at there
          cases there
          exact traced.markers other first before
    next => exact traced.markers other target there

theorem define (traced : old.Traced fit marked) (scope : ScopeId) (kind : Symbols) (name : QName)
    (target : NodeId) (occurs : Occurs) :
    (old.define scope kind name target occurs).Traced fit marked :=
  traced.withScopes rfl fun _ => Scopes.typeOf_changeTable ..

theorem register (traced : old.Traced fit marked) (name url short : Option String) :
    (old.register name url short).1.Traced fit marked := by
  refine traced.withScopes rfl fun scope => ?_
  unfold Model.register Namespaces.register
  dsimp only
  split
  · rfl
  · exact Scopes.typeOf_create ..

theorem registerPrefixes (traced : old.Traced fit marked) (bound : List (String × String)) :
    (old.registerPrefixes bound).Traced fit marked := by
  induction bound generalizing old with
  | nil => exact traced
  | cons entry rest ih => exact ih (traced.register (some entry.2) none (some entry.1))

theorem registerDefault (traced : old.Traced fit marked) (uri : Option String) :
    (old.registerDefault uri).1.Traced fit marked := by
  unfold Model.registerDefault
  split
  · exact traced.register ..
  · exact traced

theorem registerRoot (traced : old.Traced fit marked) (document : Document) :
    (old.registerRoot document).1.Traced fit marked :=
  ((traced.register ..).registerPrefixes _).registerDefault _

theorem declareSource (traced : old.Traced fit marked) (document : Document) (id : NodeId) :
    (old.declareSource document id).1.Traced fit marked := by
  rw [declareSource_eq]
  refine noted ?_ id fun _ => rfl
  exact (traced.registerRoot document).withScopes rfl fun _ => rfl

theorem declareName (traced : old.Traced fit marked) (id : NodeId) (kind : Symbols) :
    (old.declareName id kind).state.Traced fit marked := by
  unfold Model.declareName
  dsimp only
  split
  next => exact traced
  next written _ =>
    split
    next => exact traced
    next =>
      have named : Traced (old.changeNode id fun node =>
          { node with name := some ⟨old.targetUri id, Text.trim written⟩ }) fit marked :=
        traced.noted id fun _ => rfl
      exact named.define ..

theorem setOccurs (traced : old.Traced fit marked) (id : NodeId) (occurs : Occurs) :
    (old.setOccurs id occurs).Traced fit marked := traced.noted id fun _ => rfl

theorem declareOccurs (traced : old.Traced fit marked) (id : NodeId) :
    (old.declareOccurs id).state.Traced fit marked := by
  unfold Model.declareOccurs
  dsimp only
  split
  · exact traced
  · exact traced.setOccurs ..

theorem andThen {attempt : Attempt Model} {next : Model -> Attempt Model}
    (first : attempt.state.Traced fit marked)
    (second : ∀ between : Model, between.Traced fit marked ->
      (next between).state.Traced fit marked) :
    (attempt.andThen next).state.Traced fit marked := by
  unfold Attempt.andThen
  split
  · exact second _ first
  · exact first

theorem declareEnumeration (traced : old.Traced fit marked) (id : NodeId) :
    (old.declareEnumeration id).state.Traced fit marked := by
  unfold Model.declareEnumeration
  split
  next => exact traced
  next =>
    split
    · exact traced.noted _ fun _ => rfl
    · exact traced

theorem markWildcard (traced : old.Traced fit marked) (id : NodeId) {mark : Node -> Node}
    (same : ∀ node, (mark node).targets = node.targets) :
    (old.markWildcard id mark).Traced fit marked := by
  unfold Model.markWildcard
  split
  · exact traced.noted _ same
  · exact traced

section

variable {id : NodeId}
  (union : ∀ parent, (old.node id).parent = some parent -> fit parent id)
  (around : ∀ scope, (old.scopes.get (old.node id).scope).parent = some scope -> marked scope id)

include union around

theorem declareNamelessType (traced : old.Traced fit marked) :
    (old.declareNamelessType id).Traced fit marked := by
  unfold Model.declareNamelessType
  dsimp only
  split
  next parent inside =>
    have fits := union parent (Option.filter_eq_some_iff.mp inside).1
    refine traced.changeNode parent fun target member => ?_
    simp only [Node.targets, Node.types, List.filterMap_append, List.mem_append,
      List.filterMap_cons, List.filterMap_nil, TypeRef.target?, List.mem_singleton] at member ⊢
    rcases member with before | before | before | rfl
    · exact .inl (.inl before)
    · exact .inl (.inr (.inl before))
    · exact .inl (.inr (.inr before))
    · exact .inr fits
  next =>
    split
    next scope outer => exact traced.setType (around scope outer)
    next => exact traced

theorem declareType (traced : old.Traced fit marked) :
    (old.declareType id).state.Traced fit marked := by
  unfold Model.declareType
  split
  · exact traced.declareName ..
  · exact traced.declareNamelessType union around

end

theorem declare (traced : old.Traced fit marked) {id : NodeId}
    (union : (old.node id).kind.isType = true ->
      ∀ parent, (old.node id).parent = some parent -> fit parent id)
    (around : (old.node id).kind.isType = true ->
      ∀ scope, (old.scopes.get (old.node id).scope).parent = some scope -> marked scope id) :
    (old.declare id).state.Traced fit marked := by
  have bounded := traced.declareOccurs id
  unfold Model.declare
  split
  · exact andThen bounded fun _ between => between.declareName ..
  · exact (traced.setOccurs id _).declareName ..
  next kind => exact traced.declareType (union (by rw [kind]; rfl)) (around (by rw [kind]; rfl))
  next kind => exact traced.declareType (union (by rw [kind]; rfl)) (around (by rw [kind]; rfl))
  · exact andThen bounded fun _ between => between.declareName ..
  · exact traced.declareName ..
  · exact bounded
  · exact bounded
  · exact bounded
  · exact andThen bounded fun _ between => between.markWildcard id fun _ => rfl
  · exact traced.markWildcard id fun _ => rfl
  · exact traced.declareEnumeration id
  · exact traced

end Traced

structure Contained (model : Model) : Prop where
  targets : ∀ id, ∀ target ∈ (model.node id).targets, target.index < model.nodes.size
  markers : ∀ scope target, model.scopes.typeOf scope = some target ->
    target.index < model.nodes.size

namespace Contained

variable {old new : Model}

theorem traced (contained : old.Contained) {size : Nat} (same : old.nodes.size = size) :
    old.Traced (fun _ target => target.index < size) fun _ target => target.index < size := by
  subst same
  exact ⟨contained.targets, contained.markers⟩

theorem of_traced {size : Nat} (traced : new.Traced (fun _ target => target.index < size)
      fun _ target => target.index < size) (same : new.nodes.size = size) : new.Contained := by
  subst same
  exact ⟨traced.targets, traced.markers⟩

theorem congr (contained : old.Contained) (size : new.nodes.size = old.nodes.size)
    (targets : ∀ id, (new.node id).targets = (old.node id).targets)
    (markers : ∀ scope, new.scopes.typeOf scope = old.scopes.typeOf scope) : new.Contained :=
  of_traced ((contained.traced rfl).congr targets markers) size

theorem withScopes (contained : old.Contained) (nodes : new.nodes = old.nodes)
    (markers : ∀ scope, new.scopes.typeOf scope = old.scopes.typeOf scope) : new.Contained :=
  of_traced ((contained.traced rfl).withScopes nodes markers) (congrArg Array.size nodes)

theorem changeNode (contained : old.Contained) (id : NodeId) {f : Node -> Node}
    (added : ∀ target ∈ (f (old.node id)).targets,
      target ∈ (old.node id).targets ∨ target.index < old.nodes.size) :
    (old.changeNode id f).Contained :=
  of_traced ((contained.traced rfl).changeNode id added) (size_changeNode ..)

theorem noted (contained : old.Contained) (id : NodeId) {f : Node -> Node}
    (same : ∀ node, (f node).targets = node.targets) : (old.changeNode id f).Contained :=
  of_traced ((contained.traced rfl).noted id same) (size_changeNode ..)

theorem define (contained : old.Contained) (scope : ScopeId) (kind : Symbols) (name : QName)
    (target : NodeId) (occurs : Occurs) : (old.define scope kind name target occurs).Contained :=
  of_traced ((contained.traced rfl).define scope kind name target occurs) rfl

theorem markWildcard (contained : old.Contained) (id : NodeId) {mark : Node -> Node}
    (same : ∀ node, (mark node).targets = node.targets) :
    (old.markWildcard id mark).Contained := by
  refine of_traced ((contained.traced rfl).markWildcard id same) ?_
  unfold Model.markWildcard
  split
  · exact size_changeNode ..
  · rfl

end Contained

theorem traced_empty (fit : NodeId -> NodeId -> Prop) (marked : ScopeId -> NodeId -> Prop) :
    empty.Traced fit marked where
  targets id target member := by
    rcases node_empty id with ⟨-, same⟩ | ⟨localName, -, same⟩ <;> rw [same] at member <;>
      cases member
  markers scope target there := by
    have builtins : Builtin.scopes.typeOf scope = none := by
      obtain ⟨index⟩ := scope
      cases index <;> rfl
    rcases scopes_empty with same | ⟨home, same⟩ <;> rw [same] at there
    · cases builtins.symm.trans there
    · rw [Scopes.typeOf_create] at there
      cases builtins.symm.trans there

theorem contained_empty : empty.Contained := .of_traced (traced_empty _ _) rfl

end Model

namespace Draft

variable {draft : Draft}

theorem Tells.traced {fit : NodeId -> NodeId -> Prop} {marked : ScopeId -> NodeId -> Prop}
    {id : NodeId} {new : Draft} (tells : draft.Tells id new)
    (traced : draft.model.Traced fit marked)
    (union : (draft.model.node id).kind.isType = true ->
      ∀ parent, (draft.model.node id).parent = some parent -> fit parent id)
    (around : (draft.model.node id).kind.isType = true -> ∀ scope,
      (draft.model.scopes.get (draft.model.node id).scope).parent = some scope ->
        marked scope id) : new.model.Traced fit marked := by
  cases tells with
  | source => exact traced.declareSource ..
  | second => exact traced
  | request =>
      dsimp only
      unfold registerImport
      split
      · exact traced.register ..
      · exact traced
  | other => exact traced.declare union around

theorem Move.contained {attempt : Attempt Draft} (move : draft.Move attempt)
    (contained : draft.model.Contained) : attempt.state.model.Contained := by
  cases move with
  | root attributes => exact contained
  | still model tasks still =>
      exact contained.congr still.size (fun id => Node.targets_of_told (still.told id))
        fun scope => congrArg (fun scopes => Scopes.typeOf scopes scope) still.scopes
  | body outer skipped => exact contained.withScopes rfl fun _ => Scopes.typeOf_create ..
  | tag outer node fresh scope source read outermost inside =>
      have placed : Model.Contained
          { draft.model with scopes := draft.model.scopes.createChild outer } :=
        contained.withScopes rfl fun _ => Scopes.typeOf_create ..
      have grown (target : NodeId) (within : target.index < draft.model.nodes.size) :
          target.index < draft.model.nodes.size + 1 := Nat.lt_succ_of_lt within
      have added := ((placed.traced rfl).addNode fresh).mono (fun _ => grown) fun _ => grown
      have tells := tells_declare (draft.withTag outer node) draft.model.nextNode
      have last : draft.model.nextNode.index < draft.model.nodes.size + 1 := Nat.lt_succ_self _
      refine .of_traced (tells.traced added (fun _ _ _ => last) fun _ _ _ => last) ?_
      exact tells.opened.size.trans (Model.size_addNode ..)

theorem contained_read (contained : draft.model.Contained) (limits : Limits) (bytes : List UInt8) :
    (draft.read limits bytes).state.model.Contained :=
  (moves_read draft limits bytes).1.keeps contained fun move => move.contained

end Draft

namespace Compilation

variable {options : Options} {fetch : Fetch} {old new : Compilation}

theorem Change.contained (change : Change options fetch old new) (contained : old.model.Contained) :
    new.model.Contained :=
  change.keeps_model contained (fun _ _ _ => Draft.contained_read contained ..)
    fun _ _ read => read.withScopes rfl fun _ => rfl

theorem Changes.contained (changes : Changes options fetch .empty new) : new.model.Contained :=
  changes.keeps Model.contained_empty fun change => change.contained

end Compilation

end XmlSchema

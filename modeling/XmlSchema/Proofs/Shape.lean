import XmlSchema.Proofs.Feeding
import XmlSchema.Proofs.Registry

set_option autoImplicit false

namespace XmlSchema

namespace Node

/-- A node without what is only noted on it. -/
def core (node : Node) : Node :=
  { node with
    text := ""
    typeRef := none
    substitutes := []
    memberTypes := []
    enumeration := []
    documentation := []
    anyContent := false
    anyAttribute := false }

/-- What is known of a node once its tag has closed. -/
def declared (node : Node) : Node :=
  { node.core with
    base := none
    derivation := none
    referent := none
    isResolved := false }

def IsFresh (node : Node) : Prop :=
  node.core =
    { Node.fresh node.kind node.scope with
      attributes := node.attributes
      source := node.source
      line := node.line
      parent := node.parent }

/-- Where a node stands. -/
def standing (node : Node) : Node :=
  { Node.fresh node.kind node.scope with
    source := node.source
    parent := node.parent }

theorem standing_of_declared {a b : Node} (same : a.declared = b.declared) :
    a.standing = b.standing :=
  (congrArg standing same :)

theorem declared_of_core {a b : Node} (same : a.core = b.core) : a.declared = b.declared :=
  (congrArg declared same :)

theorem standing_of_core {a b : Node} (same : a.core = b.core) : a.standing = b.standing :=
  (congrArg standing same :)

theorem kind_of_standing {a b : Node} (same : a.standing = b.standing) : a.kind = b.kind :=
  (congrArg kind same :)

theorem scope_of_standing {a b : Node} (same : a.standing = b.standing) : a.scope = b.scope :=
  (congrArg scope same :)

theorem parent_of_standing {a b : Node} (same : a.standing = b.standing) :
    a.parent = b.parent :=
  (congrArg parent same :)

theorem source_of_standing {a b : Node} (same : a.standing = b.standing) :
    a.source = b.source :=
  (congrArg source same :)

end Node

namespace Kind

def Holds (outer inner : Kind) : Prop := inner ∈ (Place.tag outer).childKinds

instance (outer inner : Kind) : Decidable (Holds outer inner) :=
  inferInstanceAs (Decidable (inner ∈ (Place.tag outer).childKinds))

theorem not_holds_schema (outer : Kind) : ¬ outer.Holds .schema := by
  cases outer <;> decide

end Kind

namespace Place

theorem lookup_kinds {κ : Type} [BEq κ] {label : Kind -> κ} {key : κ} {kinds : List Kind}
    {found : Place}
    (hit : (kinds.map fun kind => (label kind, Place.tag kind)).lookup key = some found) :
    ∃ kind ∈ kinds, found = .tag kind := by
  induction kinds with
  | nil => simp at hit
  | cons first rest ih =>
      rw [List.map_cons, List.lookup_cons] at hit
      split at hit
      next => exact ⟨first, List.mem_cons_self, (Option.some.inj hit).symm⟩
      next =>
        obtain ⟨kind, member, same⟩ := ih hit
        exact ⟨kind, List.mem_cons_of_mem _ member, same⟩

theorem child_cases {place found : Place} {name : QName} (child : place.child name = some found) :
    found = .anything ∨ ∃ kind ∈ place.childKinds, found = .tag kind := by
  unfold Place.child at child
  split at child
  next hit =>
    cases child
    exact Or.inr (lookup_kinds hit)
  next =>
    split at child
    next hit =>
      cases child
      exact Or.inr (lookup_kinds hit)
    next =>
      unfold wildcard at child
      split at child
      · cases child
      · exact Or.inl (Option.some.inj child).symm

theorem mem_childKinds {place : Place} {name : QName} {kind : Kind}
    (child : place.child name = some (.tag kind)) : kind ∈ place.childKinds := by
  rcases child_cases child with free | ⟨other, member, same⟩
  · cases free
  · cases same
    exact member

end Place

namespace Model

def IsTag (model : Model) (id : NodeId) : Prop :=
  Builtin.nodes.length ≤ id.index ∧ id.index < model.nodes.size

instance (model : Model) (id : NodeId) : Decidable (model.IsTag id) :=
  inferInstanceAs (Decidable (_ ∧ _))

structure StandsIn (model : Model) (id parent : NodeId) : Prop where
  tag : model.IsTag parent
  lower : parent.index < id.index
  holds : (model.node parent).kind.Holds (model.node id).kind
  scope : (model.scopes.get (model.node id).scope).parent = some (model.node parent).scope
  source : (model.node id).source = (model.node parent).source

structure Shaped (model : Model) : Prop where
  builtins : Builtin.nodes.length ≤ model.nodes.size
  primitive : ∀ id : NodeId, id.index < Builtin.nodes.length ->
    (model.node id).standing = { Node.fresh (model.node id).kind Builtin.scope with
        source := (model.node id).source } ∧
      (model.node id).kind.isType = true
  registry : model.namespaces.Rooted model.scopes
  floor : Builtin.scope.index < model.scopes.size
  outermost : (model.scopes.get Builtin.scope).parent = none
  root : ∀ id, model.IsTag id -> (model.node id).parent = none ->
    (model.node id).kind = .schema ∧
      (model.scopes.get (model.node id).scope).parent = some Builtin.scope
  inside : ∀ id parent, model.IsTag id -> (model.node id).parent = some parent ->
    model.StandsIn id parent
  held : ∀ id, model.IsTag id -> (model.node id).scope.index < model.scopes.size
  apart : ∀ a b, model.IsTag a -> model.IsTag b -> (model.node a).kind ≠ .schema ->
    (model.node a).scope = (model.node b).scope -> a = b

namespace Shaped

variable {model : Model}

theorem tag_of_parent (shaped : model.Shaped) {id parent : NodeId}
    (inside : (model.node id).parent = some parent) : model.IsTag id := by
  constructor
  next =>
    refine Nat.not_lt.mp fun primitive => ?_
    have alone : (model.node id).parent = none :=
      (congrArg Node.parent (shaped.primitive id primitive).1 :)
    simp [alone] at inside
  next =>
    refine Nat.not_le.mp fun outside => ?_
    rw [node_of_size_le model outside] at inside
    cases inside

theorem tag_of_not_isType (shaped : model.Shaped) {id : NodeId}
    (plain : (model.node id).kind.isType = false)
    (there : (model.node id).kind ≠ .annotationTag) : model.IsTag id := by
  constructor
  next =>
    refine Nat.not_lt.mp fun primitive => ?_
    cases plain.symm.trans (shaped.primitive id primitive).2
  next =>
    refine Nat.not_le.mp fun outside => ?_
    rw [node_of_size_le model outside] at there
    exact there rfl

theorem standsIn (shaped : model.Shaped) {id parent : NodeId}
    (inside : (model.node id).parent = some parent) : model.StandsIn id parent :=
  shaped.inside id parent (shaped.tag_of_parent inside) inside

theorem parent_of_kind (shaped : model.Shaped) {id : NodeId} (tag : model.IsTag id)
    (kind : (model.node id).kind ≠ .schema) : ∃ parent, model.StandsIn id parent ∧
      (model.node id).parent = some parent := by
  cases inside : (model.node id).parent with
  | none => exact absurd (shaped.root id tag inside).1 kind
  | some parent => exact ⟨parent, shaped.standsIn inside, rfl⟩

theorem ancestors_eq (shaped : model.Shaped) {id parent : NodeId}
    (inside : (model.node id).parent = some parent) :
    model.ancestors id = parent :: model.ancestors parent :=
  ancestors_of_parent inside (shaped.standsIn inside).lower

theorem feeds_parent (shaped : model.Shaped) {id parent : NodeId}
    (inside : (model.node id).parent = some parent) : model.Feeds id parent :=
  Model.feeds_parent inside (shaped.standsIn inside).lower

theorem of_mem_ancestors (shaped : model.Shaped) {id outer : NodeId}
    (around : outer ∈ model.ancestors id) :
    model.IsTag outer ∧ (model.node outer).source = (model.node id).source := by
  fun_induction ancestors model id with
  | case1 => simp at around
  | case2 id parent found lower ih =>
      have next := shaped.standsIn found
      rcases List.mem_cons.mp around with rfl | further
      · exact ⟨next.tag, next.source.symm⟩
      · exact ⟨(ih further).1, (ih further).2.trans next.source.symm⟩
  | case3 => simp at around

theorem source_of_feeds (shaped : model.Shaped) {feeder owner : NodeId}
    (feeds : model.Feeds feeder owner) :
    (model.node owner).source = (model.node feeder).source := by
  rcases feeds with rfl | ⟨around, -⟩
  · rfl
  · exact (shaped.of_mem_ancestors around).2

theorem scope_ne_builtin (shaped : model.Shaped) {id : NodeId} (tag : model.IsTag id) :
    (model.node id).scope ≠ Builtin.scope := by
  intro same
  have alone := shaped.outermost
  rw [← same] at alone
  cases inside : (model.node id).parent with
  | none => simp [(shaped.root id tag inside).2] at alone
  | some parent => simp [(shaped.standsIn inside).scope] at alone

theorem surrounding_eq (shaped : model.Shaped) {id parent : NodeId}
    (inside : (model.node id).parent = some parent) :
    model.scopes.surrounding (model.node id).scope = (model.node parent).scope := by
  simp [Scopes.surrounding, (shaped.standsIn inside).scope]

end Shaped

theorem ancestors_congr {old new : Model}
    (parents : ∀ id, (new.node id).parent = (old.node id).parent) (id : NodeId) :
    new.ancestors id = old.ancestors id := by
  obtain ⟨index⟩ := id
  induction index using Nat.strongRecOn with
  | ind index ih =>
      rw [ancestors, ancestors, parents]
      split
      next => rfl
      next parent found =>
        split
        next lower => rw [ih parent.index lower]
        next => rfl

theorem Shaped.congr {old new : Model} (shaped : old.Shaped)
    (size : new.nodes.size = old.nodes.size)
    (standing : ∀ id, (new.node id).standing = (old.node id).standing)
    (registry : new.namespaces.Rooted new.scopes)
    (more : old.scopes.size ≤ new.scopes.size)
    (parents : ∀ id : ScopeId, id.index < old.scopes.size ->
      (new.scopes.get id).parent = (old.scopes.get id).parent) : new.Shaped := by
  have kind (id : NodeId) : (new.node id).kind = (old.node id).kind :=
    Node.kind_of_standing (standing id)
  have scope (id : NodeId) : (new.node id).scope = (old.node id).scope :=
    Node.scope_of_standing (standing id)
  have source (id : NodeId) : (new.node id).source = (old.node id).source :=
    Node.source_of_standing (standing id)
  have parent (id : NodeId) : (new.node id).parent = (old.node id).parent :=
    Node.parent_of_standing (standing id)
  have tag (id : NodeId) : new.IsTag id ↔ old.IsTag id := by simp [IsTag, size]
  constructor
  case builtins => exact size ▸ shaped.builtins
  case primitive =>
    intro id primitive
    rw [standing, kind, source]
    exact shaped.primitive id primitive
  case registry => exact registry
  case floor => exact Nat.lt_of_lt_of_le shaped.floor more
  case outermost =>
    rw [parents _ shaped.floor]
    exact shaped.outermost
  case root =>
    intro id isTag alone
    rw [tag] at isTag
    rw [parent] at alone
    rw [kind, scope, parents _ (shaped.held id isTag)]
    exact shaped.root id isTag alone
  case inside =>
    intro id outer isTag inside
    rw [tag] at isTag
    rw [parent] at inside
    -- only how nodes stand counts, and that has not changed
    have there := shaped.inside id outer isTag inside
    refine ⟨(tag outer).mpr there.tag, there.lower, ?_, ?_, ?_⟩
    · rw [kind, kind]
      exact there.holds
    · rw [scope, scope, parents _ (shaped.held id isTag)]
      exact there.scope
    · rw [source, source]
      exact there.source
  case held =>
    intro id isTag
    rw [tag] at isTag
    rw [scope]
    exact Nat.lt_of_lt_of_le (shaped.held id isTag) more
  case apart =>
    intro a b isTagA isTagB plain same
    rw [tag] at isTagA isTagB
    rw [kind] at plain
    rw [scope, scope] at same
    exact shaped.apart a b isTagA isTagB plain same

end Model

end XmlSchema

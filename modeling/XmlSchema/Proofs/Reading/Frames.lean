import XmlSchema.Proofs.Reading.Soundness

set_option autoImplicit false

namespace XmlSchema

namespace Draft

inductive Framed (first : Nat) (draft : Draft) : List Frame -> Prop where
  | bottom (capture : Option NodeId) :
      Framed first draft [⟨some .document, Builtin.scope, none, capture⟩]
  | node {frame outer : Frame} {rest : List Frame} (id : NodeId)
      (around : Framed first draft (outer :: rest)) (node : frame.node = some id)
      (place : frame.place = some (.tag (draft.model.node id).kind))
      (scope : frame.scope = (draft.model.node id).scope) (owned : draft.Owns first id)
      (parent : (draft.model.node id).parent = outer.node)
      (lowest : outer.node = none -> rest = []) :
      Framed first draft (frame :: outer :: rest)
  | plain {frame outer : Frame} {rest : List Frame} (around : Framed first draft (outer :: rest))
      (node : frame.node = none) (place : frame.place = none ∨ frame.place = some .anything) :
      Framed first draft (frame :: outer :: rest)

namespace Framed

variable {first : Nat} {draft : Draft} {frame outer : Frame} {rest frames : List Frame}
  {id : NodeId}

theorem tail (framed : draft.Framed first (frame :: outer :: rest)) :
    draft.Framed first (outer :: rest) := by
  cases framed with
  | node _ around => exact around
  | plain around => exact around

theorem bottom_of_single (framed : draft.Framed first [frame]) : frame.node = none := by
  cases framed
  rfl

theorem owned (framed : draft.Framed first frames) (member : frame ∈ frames)
    (node : frame.node = some id) : draft.Owns first id := by
  induction framed with
  | bottom =>
      rw [List.mem_singleton.mp member] at node
      cases node
  | node other around there place scope owned parent lowest ih =>
      rcases List.mem_cons.mp member with rfl | further
      · exact Option.some.inj (there.symm.trans node) ▸ owned
      · exact ih further
  | plain around there place ih =>
      rcases List.mem_cons.mp member with rfl | further
      · simp [there] at node
      · exact ih further

theorem ancestors_eq (shaped : draft.model.Shaped) (framed : draft.Framed first (frame :: rest))
    (node : frame.node = some id) : draft.model.ancestors id = rest.filterMap Frame.node := by
  generalize all : frame :: rest = frames at framed
  induction framed generalizing frame rest id with
  | bottom =>
      cases all
      cases node
  | plain around there =>
      cases all
      simp [there] at node
  | @node _ next below other around there place scope owned parent lowest ih =>
      cases all
      obtain rfl : other = id := Option.some.inj (there.symm.trans node)
      cases inner : next.node with
      | none =>
          rw [inner] at parent
          obtain rfl := lowest inner
          simp [Model.ancestors_of_root parent, inner]
      | some up =>
          rw [inner] at parent
          rw [shaped.ancestors_eq parent, ih inner rfl, List.filterMap_cons_some inner]

theorem mem_ancestors (shaped : draft.model.Shaped) (framed : draft.Framed first (frame :: rest))
    (node : frame.node = some id) (outer : NodeId) :
    outer ∈ draft.model.ancestors id ↔ ∃ below ∈ rest, below.node = some outer := by
  rw [framed.ancestors_eq shaped node, List.mem_filterMap]

theorem congr {new : Draft} (framed : draft.Framed first frames)
    (more : draft.model.nodes.size ≤ new.model.nodes.size)
    (same : ∀ id, draft.Owns first id ->
      (new.model.node id).standing = (draft.model.node id).standing) :
    new.Framed first frames := by
  induction framed with
  | bottom capture => exact .bottom capture
  | node id around node place scope owned parent lowest ih =>
      have standing := same id owned
      refine .node id ih node ?_ ?_ (owned.mono more) ?_ lowest
      · rw [Node.kind_of_standing standing]
        exact place
      · rw [Node.scope_of_standing standing]
        exact scope
      · rw [Node.parent_of_standing standing]
        exact parent
  | plain around node place ih => exact .plain ih node place

theorem opens (framed : draft.Framed first (outer :: rest)) {kind : Kind} {name : QName}
    (child : (outer.place.bind fun place => place.child name) = some (.tag kind)) :
    (outer :: rest).findSome? Frame.node = outer.node ∧
      (outer.node = none -> kind = .schema ∧ outer.scope = Builtin.scope ∧ rest = []) ∧
      ∀ id, outer.node = some id ->
        draft.Owns first id ∧ (draft.model.node id).kind.Holds kind ∧
          outer.scope = (draft.model.node id).scope := by
  cases framed with
  | bottom capture =>
      refine ⟨rfl, fun _ => ⟨?_, rfl, rfl⟩, fun id node => by cases node⟩
      have member : kind ∈ Place.document.childKinds :=
        Place.mem_childKinds (by simpa using child)
      simpa [Place.childKinds, Place.content] using member
  | node id around node place scope owned parent lowest =>
      refine ⟨by simp [node], fun missing => by simp [node] at missing, fun other there => ?_⟩
      obtain rfl : id = other := Option.some.inj (node.symm.trans there)
      rw [place] at child
      exact ⟨owned, Place.mem_childKinds child, scope⟩
  | plain around node place =>
      rcases place with missing | anything
      · simp [missing] at child
      · rw [anything] at child
        have member : kind ∈ Place.anything.childKinds :=
          Place.mem_childKinds (by simpa using child)
        simp [Place.childKinds, Place.content] at member

end Framed

structure Beside (id : NodeId) (old new : Draft) : Prop where
  size : new.model.nodes.size = old.model.nodes.size
  queue : new.model.queue = old.model.queue
  sources : old.model.sources.size ≤ new.model.sources.size
  core : ∀ other, other ≠ id -> (new.model.node other).core = (old.model.node other).core
  kind : (new.model.node id).kind = (old.model.node id).kind
  parent : (new.model.node id).parent = (old.model.node id).parent
  begun : old.document.source ≠ none -> new.document.source ≠ none

namespace Beside

theorem refl (id : NodeId) (draft : Draft) : Beside id draft draft :=
  ⟨rfl, rfl, Nat.le_refl _, fun _ _ => rfl, rfl, rfl, fun begun => begun⟩

theorem trans {id : NodeId} {one two three : Draft} (first : Beside id one two)
    (second : Beside id two three) : Beside id one three where
  size := second.size.trans first.size
  queue := second.queue.trans first.queue
  sources := Nat.le_trans first.sources second.sources
  core other apart := (second.core other apart).trans (first.core other apart)
  kind := second.kind.trans first.kind
  parent := second.parent.trans first.parent
  begun begun := second.begun (first.begun begun)

theorem changed {id : NodeId} (draft : Draft) (f : Node -> Node) {new : Draft}
    (nodes : ∀ other, new.model.node other = (draft.model.changeNode id f).node other)
    (size : new.model.nodes.size = draft.model.nodes.size)
    (queue : new.model.queue = draft.model.queue)
    (sources : draft.model.sources.size ≤ new.model.sources.size)
    (kind : ∀ node, (f node).kind = node.kind) (parent : ∀ node, (f node).parent = node.parent)
    (begun : draft.document.source ≠ none -> new.document.source ≠ none) :
    Beside id draft new where
  size := size
  queue := queue
  sources := sources
  core other apart := by
    rw [nodes, Model.node_changeNode, if_neg fun same => apart same.1]
  kind := by
    rw [nodes]
    exact Model.keeps_changeNode Node.kind draft.model id id kind
  parent := by
    rw [nodes]
    exact Model.keeps_changeNode Node.parent draft.model id id parent
  begun := begun

end Beside

theorem Edit.beside {first : Nat} {id : NodeId} {old new : Draft}
    (edit : Edit first (some id) old new) : Beside id old new := by
  cases edit with
  | document _ document source tasks =>
      refine ⟨rfl, rfl, Nat.le_refl _, fun _ _ => rfl, rfl, rfl, fun begun => ?_⟩
      exact source ▸ begun
  | noted _ other f keeps =>
      have core (some : NodeId) := Model.keeps_changeNode Node.core old.model other some keeps
      have standing := Node.standing_of_core (core id)
      exact ⟨by simp, rfl, Nat.le_refl _, fun some _ => core some, Node.kind_of_standing standing,
        Node.parent_of_standing standing, fun begun => begun⟩
  | registered =>
      exact ⟨rfl, rfl, Nat.le_refl _, fun _ _ => rfl, rfl, rfl, fun begun => begun⟩
  | marked =>
      exact ⟨rfl, rfl, Nat.le_refl _, fun _ _ => rfl, rfl, rfl, fun begun => begun⟩
  | bounded _ _ occurs =>
      exact Beside.changed old _ (fun _ => rfl) (by simp [Model.setOccurs]) rfl (Nat.le_refl _)
        (fun _ => rfl) (fun _ => rfl) fun begun => begun
  | named _ _ kind name owned =>
      exact Beside.changed old _ (fun _ => rfl) Model.size_enter rfl (Nat.le_refl _)
        (fun _ => rfl) (fun _ => rfl) fun begun => begun
  | sourced _ _ target source =>
      exact Beside.changed old _ (fun _ => rfl) (by simp) rfl (by simp [Model.changeNode])
        (fun _ => rfl) (fun _ => rfl) fun _ => Option.some_ne_none _

theorem Declares.beside {first : Nat} {id : NodeId} {old new : Draft}
    (declares : Declares first id old new) : Beside id old new := by
  induction declares with
  | refl => exact Beside.refl id _
  | tail _ edit ih => exact ih.trans edit.beside

end Draft

end XmlSchema

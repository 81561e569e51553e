import XmlSchema.Proofs.Filing
import XmlSchema.Proofs.Shape

set_option autoImplicit false

namespace XmlSchema

def Symbols.isMember : Symbols -> Bool
  | .elements => true
  | .attributes => true
  | _ => false

theorem Symbols.isMember_iff (kind : Symbols) :
    kind.isMember = true ↔ kind = .elements ∨ kind = .attributes := by
  cases kind <;> decide

namespace Model

def ownBounds (model : Model) (id : NodeId) (kind : Symbols) (name : QName) : Bounds :=
  (model.scopes.table (model.node id).scope kind).own name

def children (model : Model) (id : NodeId) : List NodeId :=
  ((List.range model.nodes.size).map NodeId.mk).filter fun child =>
    (model.node child).parent = some id

def named (model : Model) (kind : Symbols) (id : NodeId) (name : QName) : Bounds :=
  let node := model.node id
  if node.kind.symbols? = some kind ∧ node.name = some name then node.occurs else 0

def referred (model : Model) (kind : Symbols) (id : NodeId) (name : QName) : Bounds :=
  let node := model.node id
  let target := node.referent.bind fun target => (model.node target).name
  if node.kind.symbols? = some kind ∧ target = some name then node.occurs else 0

/-- A particle passes on its body by its bounds, and a reference to a group that group's body. -/
def passed (model : Model) (kind : Symbols) (id : NodeId) (name : QName) : Bounds :=
  let node := model.node id
  match kind, node.kind with
  | .elements, .sequence => (model.ownBounds id .elements name).scale node.occurs
  | .elements, .all => (model.ownBounds id .elements name).scale node.occurs
  | .elements, .choice => (model.ownBounds id .elements name).scale node.occurs.optionalized
  | .elements, .group =>
      match node.referent with
      | some target => (model.ownBounds target .elements name).scale node.occurs
      | none => 0
  | .attributes, .attributeGroup =>
      match node.referent with
      | some target => model.ownBounds target .attributes name
      | none => 0
  | kind, .complexContent => model.ownBounds id kind name
  | kind, .simpleContent => model.ownBounds id kind name
  | kind, .extension => model.ownBounds id kind name
  | kind, .restriction => model.ownBounds id kind name
  | _, _ => 0

/-- What a tag contributes to the tag that it stands in. -/
def contribution (model : Model) (kind : Symbols) (id : NodeId) (name : QName) : Bounds :=
  model.named kind id name + model.referred kind id name + model.passed kind id name

def content (model : Model) (kind : Symbols) (id : NodeId) (name : QName) : Bounds :=
  ((model.children id).map fun child => model.contribution kind child name).sum

/-- What a tag has contributed so far: its body goes where it belongs when the tag is resolved. -/
def contributed (model : Model) (kind : Symbols) (id : NodeId) (name : QName) : Bounds :=
  model.named kind id name + model.referred kind id name +
    if (model.node id).isResolved then model.passed kind id name else 0

def Single (model : Model) : Prop :=
  ∀ id, (model.node id).kind = .attributeGroup -> (model.node id).occurs = .once

def Tallied (model : Model) : Prop :=
  ∀ id kind name, model.IsTag id -> (model.node id).kind ≠ .schema -> kind.isMember = true ->
    model.ownBounds id kind name =
      ((model.children id).map fun child => model.contributed kind child name).sum

theorem mem_children (model : Model) (id child : NodeId) :
    child ∈ model.children id ↔ (model.node child).parent = some id := by
  simp only [children, List.mem_filter, List.mem_map, List.mem_range, decide_eq_true_eq]
  constructor
  · exact And.right
  · intro inside
    refine ⟨⟨child.index, ?_, rfl⟩, inside⟩
    refine Nat.not_le.mp fun outside => ?_
    rw [node_of_size_le model outside] at inside
    cases inside

theorem nodup_children (model : Model) (id : NodeId) : (model.children id).Nodup := by
  have numbers : ((List.range model.nodes.size).map NodeId.mk).Nodup := by
    refine List.Pairwise.map _ ?_ List.nodup_range
    intro a b apart same
    exact apart (NodeId.mk.inj same)
  exact numbers.filter _

theorem children_congr {old new : Model} (size : new.nodes.size = old.nodes.size)
    (parents : ∀ id, (new.node id).parent = (old.node id).parent) (id : NodeId) :
    new.children id = old.children id := by
  simp only [children, size, parents]

theorem sum_map_of_grows {α : Type} [DecidableEq α] {items : List α} (nodup : items.Nodup)
    {before after : α -> Bounds} {item : α} {gain : Bounds} (member : item ∈ items)
    (grows : after item = before item + gain)
    (elsewhere : ∀ other ∈ items, other ≠ item -> after other = before other) :
    (items.map after).sum = (items.map before).sum + gain := by
  induction items with
  | nil => cases member
  | cons first rest ih =>
      obtain ⟨absent, nodup⟩ := List.nodup_cons.mp nodup
      rw [List.map_cons, List.sum_cons, List.map_cons, List.sum_cons]
      by_cases same : first = item
      next =>
        subst same
        have others : rest.map after = rest.map before := by
          refine List.map_congr_left fun other inside => ?_
          refine elsewhere other (List.mem_cons_of_mem _ inside) ?_
          rintro rfl
          exact absent inside
        rw [others, grows, add_assoc, add_comm gain, ← add_assoc]
      next =>
        have inside : item ∈ rest := by
          rcases List.mem_cons.mp member with rfl | inside
          · exact absurd rfl same
          · exact inside
        have next := ih nodup inside fun other member apart =>
          elsewhere other (List.mem_cons_of_mem _ member) apart
        rw [next, elsewhere first List.mem_cons_self same, add_assoc]

/-- The tally of every body stays right when nothing is contributed to it, or what one tag in it
contributes is added to the body. -/
theorem Tallied.step {old new : Model} (tallied : old.Tallied)
    (size : new.nodes.size = old.nodes.size)
    (standing : ∀ id, (new.node id).kind = (old.node id).kind ∧
      (new.node id).parent = (old.node id).parent)
    (step : ∀ id kind name, old.IsTag id -> (old.node id).kind ≠ .schema ->
      kind.isMember = true ->
      new.ownBounds id kind name = old.ownBounds id kind name ∧
          (∀ child ∈ old.children id,
            new.contributed kind child name = old.contributed kind child name) ∨
        ∃ child gain, child ∈ old.children id ∧
          new.ownBounds id kind name = old.ownBounds id kind name + gain ∧
          new.contributed kind child name = old.contributed kind child name + gain ∧
          ∀ other ∈ old.children id, other ≠ child ->
            new.contributed kind other name = old.contributed kind other name) :
    new.Tallied := by
  intro id kind name tag plain member
  have there : old.IsTag id := ⟨tag.1, size ▸ tag.2⟩
  rw [(standing id).1] at plain
  rw [children_congr size (fun id => (standing id).2)]
  have before := tallied id kind name there plain member
  rcases step id kind name there plain member with
    ⟨kept, same⟩ | ⟨child, gain, inside, grown, added, same⟩
  next =>
    rw [kept, before]
    exact congrArg List.sum (List.map_congr_left fun child inside => (same child inside).symm)
  next =>
    rw [grown, before]
    exact (sum_map_of_grows (nodup_children old id) inside added same).symm

end Model

end XmlSchema

import XmlSchema.Proofs.Documents.Arrival

set_option autoImplicit false

namespace XmlSchema

namespace Attributes

theorem get?_foldl {step : Attributes -> String -> Attributes} {label : String}
    (aside : ∀ kept name, label ≠ name -> (step kept name).get? label = kept.get? label)
    (names : List String) (start : Attributes) :
    label ∈ names ∨ (names.foldl step start).get? label = start.get? label := by
  induction names generalizing start with
  | nil => exact .inr rfl
  | cons name rest ih =>
      by_cases same : label = name
      next => exact .inl (same ▸ List.mem_cons_self)
      next =>
        rcases ih (step start name) with later | before
        · exact .inl (List.mem_cons_of_mem _ later)
        · exact .inr (before.trans (aside start name same))

theorem listed_keep {kind : Kind} {written : List (String × String)} {label value : String}
    (kept : (keep kind written).get? label = some value) : label ∈ kind.attributeNames := by
  unfold keep at kept
  refine (get?_foldl (fun kept name apart => ?_) kind.attributeNames .empty).resolve_right
    fun same => by cases same.symm.trans kept
  split
  · exact Table.get?_put_of_ne kept _ apart
  · rfl

end Attributes

namespace Model

structure Untried (model : Model) : Prop where
  unresolved : model.unresolved = #[]
  listed : ∀ id label value, (model.node id).attribute? label = some value ->
    label ∈ (model.node id).kind.attributeNames

theorem untried_empty : empty.Untried where
  unresolved := rfl
  listed id label value there := by
    rcases node_empty id with ⟨-, same⟩ | ⟨localName, -, same⟩ <;> rw [same] at there <;> cases there

variable {old new : Model}

theorem Untried.congr (untried : old.Untried) (unresolved : new.unresolved = old.unresolved)
    (kind : ∀ id, (new.node id).kind = (old.node id).kind)
    (attributes : ∀ id, (new.node id).attributes = (old.node id).attributes) : new.Untried where
  unresolved := unresolved.trans untried.unresolved
  listed id label value there := by
    rw [Node.attribute?, attributes] at there
    rw [kind]
    exact untried.listed id label value there

theorem Untried.changeNode (untried : old.Untried) (id : NodeId) {f : Node -> Node}
    (kind : ∀ node, (f node).kind = node.kind)
    (attributes : ∀ node, (f node).attributes = node.attributes) :
    (old.changeNode id f).Untried :=
  untried.congr rfl (fun other => keeps_changeNode Node.kind old id other kind)
    fun other => keeps_changeNode Node.attributes old id other attributes

theorem Untried.addNode (untried : old.Untried) {node : Node}
    (kept : ∃ written, node.attributes = .keep node.kind written) : (old.addNode node).Untried where
  unresolved := untried.unresolved
  listed id label value there := by
    rw [node_addNode] at there ⊢
    split at there
    next same =>
      rw [if_pos same]
      obtain ⟨written, kept⟩ := kept
      rw [Node.attribute?, kept] at there
      exact Attributes.listed_keep there
    next other =>
      rw [if_neg other]
      exact untried.listed id label value there

end Model

namespace Draft

theorem Edit.untried {first : Nat} {declaring : Option NodeId} {old new : Draft}
    (edit : Edit first declaring old new) (untried : old.model.Untried) : new.model.Untried := by
  have alike {model : Model} (unresolved : model.unresolved = old.model.unresolved)
      (nodes : model.nodes = old.model.nodes) : model.Untried :=
    untried.congr unresolved (fun id => congrArg Node.kind (node_congr nodes id))
      fun id => congrArg Node.attributes (node_congr nodes id)
  cases edit with
  | document => exact untried
  | noted _ id f keeps =>
      exact untried.changeNode id (fun node => (congrArg Node.kind (keeps node) :))
        fun node => (congrArg Node.attributes (keeps node) :)
  | registered => exact alike rfl rfl
  | marked => exact alike rfl rfl
  | bounded _ id => exact untried.changeNode id (fun _ => rfl) fun _ => rfl
  | named _ id kind name =>
      have changed : (old.model.changeNode id fun node => { node with name := some name }).Untried :=
        untried.changeNode id (fun _ => rfl) fun _ => rfl
      exact changed.congr rfl (fun _ => rfl) fun _ => rfl
  | sourced _ id =>
      refine Model.Untried.changeNode ?_ id (fun _ => rfl) fun _ => rfl
      exact alike rfl rfl
  | body => exact alike rfl rfl
  | tag _ outer node fresh scope source admits kept =>
      have inside := @alike { old.model with scopes := old.model.scopes.createChild outer } rfl rfl
      exact inside.addNode kept
  | deferred => exact alike rfl rfl
  | resolved _ id => exact untried.changeNode id (fun _ => rfl) fun _ => rfl

theorem Sound.untried {start : Model} {draft : Draft} (sound : draft.Sound start)
    (untried : start.Untried) : draft.model.Untried := by
  obtain ⟨document, edits⟩ := sound.edited
  clear sound
  induction edits with
  | refl => exact untried
  | tail _ edit ih =>
      obtain ⟨declaring, edit⟩ := edit
      exact edit.untried ih

end Draft

namespace Compilation

theorem Change.untried {options : Options} {fetch : Fetch} {old new : Compilation}
    (change : Change options fetch old new) (sound : old.Sound) (untried : old.model.Untried) :
    new.model.Untried := by
  refine change.keeps_model untried (fun requested adopted fetched => ?_)
    fun _ _ read => read.congr rfl (fun _ => rfl) fun _ => rfl
  have read := (@Draft.read_sound old.model sound.gathered
    (.fresh fetched.canonical requested adopted) rfl rfl options.limits fetched.bytes).1
  exact read.untried untried

theorem Changes.untried {options : Options} {fetch : Fetch} {read : Compilation}
    (changes : Changes options fetch .empty read) : read.Sound ∧ read.model.Untried := by
  induction changes with
  | refl => exact ⟨sound_empty, Model.untried_empty⟩
  | tail _ change ih => exact ⟨change.sound ih.1, change.untried ih.1 ih.2⟩

theorem untried_gather {options : Options} {fetch : Fetch} {url : Url} {read : Compilation}
    (gathered : gather options fetch url = .ok read) : read.model.Untried :=
  (gather_arrives gathered).changes.untried.2

end Compilation

end XmlSchema

import XmlSchema.Proofs.Bounded
import XmlSchema.Proofs.Reading.Documents
import XmlSchema.Proofs.Reading.Moves

set_option autoImplicit false

namespace XmlSchema

namespace Model

section

variable {old : Model}

theorem Bounded.setOccurs (bounded : old.Bounded) (id : NodeId) {occurs : Occurs}
    (formed : occurs.WellFormed) : (old.setOccurs id occurs).Bounded :=
  bounded.changeNode id fun _ _ => formed

theorem Bounded.declareName (bounded : old.Bounded) (id : NodeId) (kind : Symbols) :
    (old.declareName id kind).state.Bounded := by
  unfold Model.declareName
  dsimp only
  split
  next => exact bounded
  next written _ =>
    split
    next => exact bounded
    next =>
      have named : Bounded (old.changeNode id fun node =>
          { node with name := some ⟨old.targetUri id, Text.trim written⟩ }) :=
        bounded.noted id fun _ => rfl
      exact named.define _ kind _ id (bounded.nodes id)

theorem Bounded.declareOccurs (bounded : old.Bounded) (id : NodeId) :
    (old.declareOccurs id).state.Bounded := by
  unfold Model.declareOccurs
  dsimp only
  split
  next => exact bounded
  next read => exact bounded.setOccurs id (Occurs.wellFormed_read read)

theorem Bounded.declareNamelessType (bounded : old.Bounded) (id : NodeId) :
    (old.declareNamelessType id).Bounded := by
  unfold Model.declareNamelessType
  dsimp only
  split
  · exact bounded.noted _ fun _ => rfl
  · split
    · exact bounded.withScopes rfl (bounded.scopes.setType _ id)
    · exact bounded

theorem Bounded.declareType (bounded : old.Bounded) (id : NodeId) :
    (old.declareType id).state.Bounded := by
  unfold Model.declareType
  split
  · exact bounded.declareName id .types
  · exact bounded.declareNamelessType id

theorem Bounded.declareEnumeration (bounded : old.Bounded) (id : NodeId) :
    (old.declareEnumeration id).state.Bounded := by
  unfold Model.declareEnumeration
  split
  · exact bounded
  · split
    · exact bounded.noted _ fun _ => rfl
    · exact bounded

theorem Bounded.andThen {attempt : Attempt Model} {next : Model -> Attempt Model}
    (first : attempt.state.Bounded)
    (second : ∀ between : Model, between.Bounded -> (next between).state.Bounded) :
    (attempt.andThen next).state.Bounded := by
  unfold Attempt.andThen
  split
  · exact second _ first
  · exact first

theorem Bounded.declare (bounded : old.Bounded) (id : NodeId) :
    (old.declare id).state.Bounded := by
  have read := bounded.declareOccurs id
  unfold Model.declare
  split
  · exact read.andThen fun _ between => between.declareName id .elements
  · exact (bounded.setOccurs id (Occurs.wellFormed_occursOfUse _)).declareName id .attributes
  · exact bounded.declareType id
  · exact bounded.declareType id
  · exact read.andThen fun _ between => between.declareName id .groups
  · exact bounded.declareName id .attributeGroups
  · exact read
  · exact read
  · exact read
  · exact read.andThen fun _ between => between.markWildcard id fun _ => rfl
  · exact bounded.markWildcard id fun _ => rfl
  · exact bounded.declareEnumeration id
  · exact bounded

theorem Bounded.register (bounded : old.Bounded) (name url short : Option String) :
    (old.register name url short).1.Bounded := by
  refine bounded.withScopes rfl ?_
  unfold Model.register Namespaces.register
  dsimp only
  split
  · exact bounded.scopes
  · exact bounded.scopes.create _ _

theorem Bounded.registerRoot (bounded : old.Bounded) (document : Document) :
    (old.registerRoot document).1.Bounded := by
  have prefixes {old : Model} (bounded : old.Bounded) (bound : List (String × String)) :
      (old.registerPrefixes bound).Bounded := by
    induction bound generalizing old with
    | nil => exact bounded
    | cons entry rest ih => exact ih (bounded.register ..)
  have known := prefixes (bounded.register (some ((document.prefixes.getD .empty).targetUri.getD ""))
    (some document.url.text) none) (document.prefixes.getD .empty).bound
  unfold Model.registerRoot Model.registerDefault
  dsimp only
  split
  · exact known.register ..
  · exact known

theorem Bounded.declareSource (bounded : old.Bounded) (document : Document) (id : NodeId) :
    (old.declareSource document id).1.Bounded := by
  rw [declareSource_eq]
  refine Bounded.noted ?_ id fun _ => rfl
  exact (bounded.registerRoot document).congr (fun _ => rfl) rfl

theorem bounded_empty : empty.Bounded where
  nodes id := by
    rcases node_empty id with ⟨-, same⟩ | ⟨localName, -, same⟩ <;> rw [same] <;>
      exact Occurs.wellFormed_once
  scopes scope kind := by
    intro entry member
    rcases table_empty scope kind with same | ⟨-, same⟩ <;> rw [same] at member
    · cases member
    · obtain ⟨named, -, rfl⟩ := List.mem_map.mp member
      exact Occurs.wellFormed_once

end

end Model

namespace Draft

variable {draft : Draft}

theorem Tells.bounded {id : NodeId} {new : Draft} (tells : draft.Tells id new)
    (bounded : draft.model.Bounded) : new.model.Bounded := by
  cases tells with
  | source => exact bounded.declareSource draft.document id
  | second => exact bounded
  | request _ imports =>
      unfold registerImport
      split
      · exact bounded.register ..
      · exact bounded
  | other => exact bounded.declare id

theorem Move.bounded {attempt : Attempt Draft} (move : draft.Move attempt)
    (bounded : draft.model.Bounded) : attempt.state.model.Bounded := by
  cases move with
  | root attributes => exact bounded
  | still model tasks still =>
      exact bounded.congr (fun id => (congrArg Node.occurs (still.told id) :)) still.scopes
  | body outer skipped => exact bounded.withScopes rfl (bounded.scopes.create _ _)
  | tag outer node fresh scope source read outermost inside =>
      have opened : (draft.withTag outer node).model.Bounded := by
        refine ⟨fun id => ?_, bounded.scopes.create _ _⟩
        rw [node_withTag]
        split
        · rw [← fresh]
          exact Occurs.wellFormed_once
        · exact bounded.nodes id
      exact (tells_declare (draft.withTag outer node) draft.model.nextNode).bounded opened

end Draft

end XmlSchema

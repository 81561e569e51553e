import XmlSchema.Proofs.Documents.Invariants
import XmlSchema.Proofs.Names

set_option autoImplicit false

namespace XmlSchema

namespace Name

theorem isNcName_of_check {written : String} (checked : checkNcName written = .ok ()) :
    isNcName written = true := by
  unfold checkNcName at checked
  split at checked
  · assumption
  · cases checked

end Name

namespace Model

namespace Proper

variable {old : Model}

theorem setOccurs (proper : old.Proper) (id : NodeId) (occurs : Occurs) :
    (old.setOccurs id occurs).Proper := by
  apply proper.noted
  simp

theorem declareName (proper : old.Proper) (id : NodeId) (kind : Symbols) :
    (old.declareName id kind).state.Proper := by
  unfold Model.declareName
  dsimp only
  split
  next => exact proper
  next written _ =>
    split
    next => exact proper
    next checked =>
      have named : Proper (old.changeNode id fun node =>
          { node with name := some ⟨old.targetUri id, Text.trim written⟩ }) := by
        apply proper.changeNode
        intro node fit
        refine ⟨?_, fit.typeRef, fit.base, fit.memberTypes⟩
        rintro name ⟨⟩
        exact Name.isNcName_of_check checked
      exact named.congr rfl

theorem declareOccurs (proper : old.Proper) (id : NodeId) :
    (old.declareOccurs id).state.Proper := by
  unfold Model.declareOccurs
  dsimp only
  split
  · exact proper
  · exact proper.setOccurs id _

theorem declareNamelessType (proper : old.Proper) (id : NodeId) :
    (old.declareNamelessType id).Proper := by
  unfold Model.declareNamelessType
  dsimp only
  split
  next =>
    apply proper.changeNode
    intro node fit
    refine ⟨fit.name, fit.typeRef, fit.base, fun type member => ?_⟩
    rcases List.mem_append.mp member with before | added
    · exact fit.memberTypes type before
    · rw [List.mem_singleton.mp added]
      trivial
  next => split <;> exact proper.congr rfl

theorem declareType (proper : old.Proper) (id : NodeId) : (old.declareType id).state.Proper := by
  unfold Model.declareType
  split
  · exact proper.declareName id .types
  · exact proper.declareNamelessType id

theorem declareEnumeration (proper : old.Proper) (id : NodeId) :
    (old.declareEnumeration id).state.Proper := by
  unfold Model.declareEnumeration
  split
  next => exact proper
  next =>
    split
    · apply proper.noted
      simp
    · exact proper

theorem andThen {attempt : Attempt Model} {next : Model -> Attempt Model}
    (first : attempt.state.Proper)
    (second : ∀ between : Model, between.Proper -> (next between).state.Proper) :
    (attempt.andThen next).state.Proper := by
  unfold Attempt.andThen
  split
  · exact second _ first
  · exact first

theorem declare (proper : old.Proper) (id : NodeId) : (old.declare id).state.Proper := by
  have read := proper.declareOccurs id
  unfold Model.declare
  split
  · exact andThen read fun _ between => between.declareName id .elements
  · exact (proper.setOccurs id _).declareName id .attributes
  · exact proper.declareType id
  · exact proper.declareType id
  · exact andThen read fun _ between => between.declareName id .groups
  · exact proper.declareName id .attributeGroups
  · exact read
  · exact read
  · exact read
  · exact andThen read fun _ between => between.markWildcard id (by simp)
  · exact proper.markWildcard id (by simp)
  · exact proper.declareEnumeration id
  · exact proper

theorem declareSource (proper : old.Proper) (document : Document) (id : NodeId) :
    (old.declareSource document id).1.Proper := by
  rw [declareSource_eq]
  apply noted
  · exact proper.congr (old.stores_registerRoot document).1
  · simp

end Proper

theorem proper_empty : empty.Proper := by
  intro id
  rcases node_empty id with ⟨-, same⟩ | ⟨localName, listed, same⟩ <;> rw [same]
  · exact ⟨nofun, nofun, nofun, nofun⟩
  · refine ⟨?_, nofun, nofun, nofun⟩
    rintro name ⟨⟩
    have names : ∀ name ∈ Builtin.names, Name.isNcName name = true := by decide +kernel
    exact names localName (List.mem_of_getElem? listed)

end Model

namespace Draft

variable {draft : Draft}

theorem Tells.proper {id : NodeId} {new : Draft} (tells : draft.Tells id new)
    (proper : draft.model.Proper) : new.model.Proper := by
  cases tells with
  | source => exact proper.declareSource draft.document id
  | second => exact proper
  | request _ imports => exact proper.congr (registerImport_sources draft id).1
  | other => exact proper.declare id

theorem Move.proper {attempt : Attempt Draft} (move : draft.Move attempt)
    (proper : draft.model.Proper) : attempt.state.model.Proper := by
  cases move with
  | root attributes => exact proper
  | still model tasks still =>
      intro id
      obtain ⟨name, typeRef, base, memberTypes⟩ := proper id
      have told := still.told id
      exact ⟨(congrArg Node.name told :) ▸ name, (congrArg Node.typeRef told :) ▸ typeRef,
        (congrArg Node.base told :) ▸ base, (congrArg Node.memberTypes told :) ▸ memberTypes⟩
  | body outer skipped => exact proper.congr rfl
  | tag outer node fresh scope source read outermost inside =>
      have opened : (draft.withTag outer node).model.Proper := by
        intro id
        rw [node_withTag]
        split
        · rw [← fresh]
          exact ⟨nofun, nofun, nofun, nofun⟩
        · exact proper id
      exact (tells_declare (draft.withTag outer node) draft.model.nextNode).proper opened

theorem keeps_proper : Draft.Keeps Model.Proper :=
  ⟨fun move proper => move.proper proper, fun _ _ proper => proper.congr rfl⟩

end Draft

end XmlSchema

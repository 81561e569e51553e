import XmlSchema.Proofs.Reading.Moves

set_option autoImplicit false

namespace XmlSchema

namespace Draft

structure Asks (draft : Draft) : Prop where
  source : ∀ source, draft.document.source = some source ->
    source.index < draft.model.sources.size ∧
      (draft.model.source source).prefixes.targetUri = draft.document.targetUri
  asked : ∀ asked ∈ draft.document.imports, asked.kind = .includeTag ->
    asked.uri = draft.document.targetUri
  unread : draft.document.prefixes = none ->
    draft.document.source = none ∧ draft.document.imports = #[]

section

variable {draft new : Draft} {id : NodeId}

theorem Asks.congr (asks : draft.Asks) (sources : new.model.sources = draft.model.sources)
    (source : new.document.source = draft.document.source)
    (imports : new.document.imports = draft.document.imports)
    (prefixes : new.document.prefixes = draft.document.prefixes) : new.Asks where
  source := by
    unfold Model.source Document.targetUri
    rw [source, sources, prefixes]
    exact asks.source
  asked := by
    unfold Document.targetUri
    rw [imports, prefixes]
    exact asks.asked
  unread := by
    rw [source, imports, prefixes]
    exact asks.unread

theorem Asks.withRoot (asks : draft.Asks) (attributes : List (String × String)) :
    Asks ⟨draft.model, draft.document.withRoot attributes⟩ := by
  by_cases read : draft.document.prefixes = none
  next =>
    obtain ⟨source, imports⟩ := asks.unread read
    have same : (draft.document.withRoot attributes).source = none ∧
        (draft.document.withRoot attributes).imports = #[] := by
      unfold Document.withRoot
      rw [read]
      exact ⟨source, imports⟩
    refine ⟨fun some_ there => ?_, fun asked member => ?_, fun _ => same⟩
    · cases same.1.symm.trans there
    · change asked ∈ (draft.document.withRoot attributes).imports at member
      simp [same.2] at member
  next =>
    rw [Document.withRoot_of_read read]
    exact asks

theorem Asks.declareSchema (asks : draft.Asks) (read : draft.document.prefixes ≠ none) :
    (draft.declareSchema id).state.Asks := by
  have made := Model.source_declareSource draft.model draft.document id
  unfold Draft.declareSchema
  split
  next => exact asks
  next =>
    refine ⟨fun source same => ?_, asks.asked, fun none_ => absurd none_ read⟩
    obtain rfl := Option.some.inj same
    refine ⟨made.1, (congrArg Prefixes.targetUri made.2).trans ?_⟩
    change (draft.document.prefixes.getD .empty).targetUri = draft.document.targetUri
    unfold Document.targetUri
    cases draft.document.prefixes <;> rfl

theorem Asks.declareImport (asks : draft.Asks) (read : draft.document.prefixes ≠ none)
    (home : (draft.model.node id).source = draft.document.source)
    (sourced : draft.document.source ≠ none) : (draft.declareImport id).state.Asks := by
  have document := draft.document_registerImport id
  have sources : (draft.registerImport id).model.sources = draft.model.sources := by
    unfold registerImport
    split <;> rfl
  have registered : (draft.registerImport id).Asks :=
    asks.congr sources (by rw [document]) (by rw [document]) (by rw [document])
  unfold Draft.declareImport
  dsimp only
  split
  next => exact registered
  next =>
    split
    next => exact registered
    next location joined =>
      refine ⟨registered.source, fun asked member include_ => ?_,
        fun none_ => absurd ((congrArg Document.prefixes document).symm.trans none_) read⟩
      rcases Array.mem_push.mp member with before | rfl
      · exact registered.asked asked before include_
      · obtain ⟨source, found⟩ := Option.ne_none_iff_exists'.mp sourced
        have target : draft.importUri id = draft.document.targetUri := by
          have kind : (draft.model.node id).kind = .includeTag := include_
          unfold importUri Model.targetUri Model.sourceOf?
          rw [kind, home, found]
          exact (asks.source source found).2
        have same : (draft.registerImport id).document.targetUri = draft.document.targetUri :=
          congrArg Document.targetUri document
        exact target.trans same.symm

theorem Asks.declare (asks : draft.Asks) (read : draft.document.prefixes ≠ none)
    (home : (draft.model.node id).source = draft.document.source)
    (outermost : draft.document.source = none -> (draft.model.node id).kind = .schema) :
    (draft.declare id).state.Asks := by
  have sourced (plain : (draft.model.node id).kind ≠ .schema) : draft.document.source ≠ none :=
    fun none_ => plain (outermost none_)
  unfold Draft.declare
  split
  next => exact asks.declareSchema read
  next kind => exact asks.declareImport read home (sourced (by simp [kind]))
  next kind => exact asks.declareImport read home (sourced (by simp [kind]))
  next => exact asks.congr (Model.retains_declare draft.model id).sources rfl rfl rfl

theorem Move.asks {attempt : Attempt Draft} (move : draft.Move attempt) (asks : draft.Asks) :
    attempt.state.Asks := by
  cases move with
  | root attributes => exact asks.withRoot attributes
  | still model tasks still => exact asks.congr still.sources rfl rfl rfl
  | body outer skipped => exact asks.congr rfl rfl rfl rfl
  | tag outer node fresh scope source read outermost inside =>
      have added : (draft.withTag outer node).Asks := asks.congr rfl rfl rfl rfl
      refine added.declare read ?_ fun none_ => (kind_withTag ..).trans (outermost none_)
      rw [node_withTag, if_pos rfl]
      exact source

end

theorem asks_read {draft : Draft} (source : draft.document.source = none)
    (imports : draft.document.imports = #[]) (limits : Limits) (bytes : List UInt8) :
    (draft.read limits bytes).state.Asks := by
  refine (moves_read draft limits bytes).1.keeps ?_ fun move asks => move.asks asks
  refine ⟨fun some_ same => ?_, fun asked member => ?_, fun _ => ⟨source, imports⟩⟩
  · cases source.symm.trans same
  · simp [imports] at member

end Draft

end XmlSchema

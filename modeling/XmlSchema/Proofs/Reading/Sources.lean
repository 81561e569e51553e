import XmlSchema.Proofs.Documents.Arrival

set_option autoImplicit false

namespace XmlSchema

namespace Draft

variable {draft : Draft} {id : NodeId}

structure Sourced (first : Nat) (draft : Draft) : Prop where
  own : draft.document.source = none ∧ draft.model.sources.size = first ∨
    draft.document.source = some ⟨first⟩ ∧ draft.model.sources.size = first + 1
  tags : ∀ id, draft.model.IsTag id -> (draft.model.node id).source ≠ none

namespace Sourced

variable {first : Nat} {new : Draft}

theorem congr (sourced : draft.Sourced first)
    (source : new.document.source = draft.document.source)
    (all : new.model.sources = draft.model.sources)
    (size : new.model.nodes.size = draft.model.nodes.size)
    (tags : ∀ id, (new.model.node id).source = (draft.model.node id).source) :
    new.Sourced first where
  own := by
    rw [source, all]
    exact sourced.own
  tags id tag := by
    rw [tags]
    exact sourced.tags id ⟨tag.1, size ▸ tag.2⟩

theorem declareSource (own : draft.model.sources.size = first)
    (tags : ∀ other, draft.model.IsTag other -> other ≠ id ->
      (draft.model.node other).source ≠ none) :
    Sourced first ⟨(draft.model.declareSource draft.document id).1,
      { draft.document with source := some (draft.model.declareSource draft.document id).2 }⟩ := by
  obtain ⟨nodes, sources⟩ := draft.model.stores_registerRoot draft.document
  rw [Model.declareSource_eq]
  generalize (draft.model.registerRoot draft.document).1 = root at nodes sources
  have count : root.sources.size = first := (congrArg Array.size sources).trans own
  refine ⟨.inr ⟨congrArg (fun index => some (SourceId.mk index)) count, ?_⟩, fun other tag => ?_⟩
  · exact (Array.size_push _).trans (congrArg (· + 1) count)
  · have inside : draft.model.IsTag other := by
      refine ⟨tag.1, ?_⟩
      rw [← nodes]
      exact Nat.lt_of_lt_of_eq tag.2 (Model.size_changeNode ..)
    dsimp only
    rw [Model.node_changeNode]
    split
    next => exact Option.some_ne_none _
    next elsewhere =>
      have apart : other ≠ id := fun same => elsewhere ⟨same, nodes ▸ inside.2⟩
      have same := node_congr nodes other
      exact fun none_ => tags other inside apart ((congrArg Node.source same).symm.trans none_)

end Sourced

theorem Move.sourced {first : Nat} {attempt : Attempt Draft} (move : draft.Move attempt)
    (sourced : draft.Sourced first) : attempt.state.Sourced first := by
  cases move with
  | root attributes =>
      exact sourced.congr (Reading.source_withRoot draft.document attributes) rfl rfl fun _ => rfl
  | still model tasks still =>
      exact sourced.congr rfl still.sources still.size fun id =>
        Node.source_of_written (Node.written_of_told (still.told id))
  | body outer skipped => exact sourced.congr rfl rfl rfl fun _ => rfl
  | tag outer node fresh scope source read outermost inside =>
      have size : (draft.withTag outer node).model.nodes.size = draft.model.nodes.size + 1 :=
        Model.size_addNode ..
      have others (other : NodeId) (tag : (draft.withTag outer node).model.IsTag other)
          (apart : other ≠ draft.model.nextNode) :
          ((draft.withTag outer node).model.node other).source ≠ none := by
        rw [node_withTag, if_neg apart]
        refine sourced.tags other ⟨tag.1, ?_⟩
        have differs : other.index ≠ draft.model.nodes.size := fun same =>
          apart (congrArg NodeId.mk same)
        have below := size ▸ tag.2
        omega
      -- a new tag has the source of its document, once there is one
      have added (begun : draft.document.source ≠ none) : (draft.withTag outer node).Sourced first := by
        refine ⟨sourced.own, fun other tag => ?_⟩
        by_cases same : other = draft.model.nextNode
        next =>
          rw [node_withTag, if_pos same, source]
          exact begun
        next => exact others other tag same
      have begun (plain : ((draft.withTag outer node).model.node draft.model.nextNode).kind ≠ .schema) :
          draft.document.source ≠ none :=
        fun none_ => plain ((kind_withTag ..).trans (outermost none_))
      have tells := tells_declare (draft.withTag outer node) draft.model.nextNode
      generalize ((draft.withTag outer node).declare draft.model.nextNode).state = told at tells
      cases tells with
      | source kind unsourced =>
          have own := (sourced.own.resolve_right fun some_ => by
            cases unsourced.symm.trans some_.1).2
          exact Sourced.declareSource own others
      | second _ there => exact added there
      | request kind imports =>
          have stores := registerImport_sources (draft.withTag outer node) draft.model.nextNode
          exact (added (begun kind)).congr rfl stores.2 (congrArg Array.size stores.1)
            fun other => congrArg Node.source (node_congr stores.1 other)
      | other kind =>
          have retains := Model.retains_declare (draft.withTag outer node).model draft.model.nextNode
          exact (added (begun kind)).congr rfl retains.sources retains.size
            fun other => Node.source_of_written (retains.written other)

theorem sourced_read (unsourced : draft.document.source = none)
    (tags : ∀ id, draft.model.IsTag id -> (draft.model.node id).source ≠ none) (limits : Limits)
    (bytes : List UInt8) : (draft.read limits bytes).state.Sourced draft.model.sources.size :=
  (moves_read draft limits bytes).1.keeps ⟨.inl ⟨unsourced, rfl⟩, tags⟩
    fun move => move.sourced

end Draft

namespace Compilation

/-- Every source is that of a document, and every node but a built-in type has one. -/
structure Owned (compilation : Compilation) : Prop where
  sources : ∀ source : SourceId, source.index < compilation.model.sources.size ->
    ∃ document : DocumentId, document.index < compilation.documents.size ∧
      (compilation.document document).source = some source
  tags : ∀ id, compilation.model.IsTag id -> (compilation.model.node id).source ≠ none
  builtins : ∀ id : NodeId, id.index < Builtin.nodes.length ->
    (compilation.model.node id).isResolved = true

section

variable {options : Options} {fetch : Fetch} {old new : Compilation}

theorem Owned.congr (owned : old.Owned) (model : new.model = old.model)
    (size : new.documents.size = old.documents.size)
    (source : ∀ id, (new.document id).source = (old.document id).source) : new.Owned where
  sources shared within := by
    obtain ⟨document, inside, same⟩ := owned.sources shared (model ▸ within)
    exact ⟨document, size ▸ inside, (source document).trans same⟩
  tags := by
    rw [model]
    exact owned.tags
  builtins := by
    rw [model]
    exact owned.builtins

theorem Owned.parse (owned : old.Owned) (sound : old.Sound) (options : Options) (requested : Url)
    (adopted : Option String) (fetched : Fetched) :
    (old.parse options requested adopted fetched).compilation.Owned := by
  obtain ⟨read, state, joined, -⟩ := sound.joined options requested adopted fetched rfl
  have sourced : Draft.Sourced old.model.sources.size _ := @Draft.sourced_read
    ⟨old.model, .fresh fetched.canonical requested adopted⟩ rfl owned.tags options.limits
    fetched.bytes
  refine ⟨fun shared within => ?_, fun id tag => ?_, fun id builtin => ?_⟩
  · by_cases before : shared.index < old.model.sources.size
    next =>
      obtain ⟨document, inside, same⟩ := owned.sources shared before
      refine ⟨document, ?_, ?_⟩
      · rw [joined.size_documents]
        exact Nat.lt_succ_of_lt inside
      · rw [joined.before inside]
        exact same
    next =>
      rw [joined.sources] at within
      rcases sourced.own with ⟨-, none_⟩ | ⟨source, one⟩
      · exact absurd (none_ ▸ within) before
      · refine ⟨⟨old.documents.size⟩, ?_, ?_⟩
        · rw [joined.size_documents]
          exact Nat.lt_succ_self _
        · rw [joined.last]
          have last : shared.index = old.model.sources.size := by omega
          exact source.trans (congrArg (fun index => some (SourceId.mk index)) last.symm)
  · rw [joined.node]
    exact sourced.tags id (joined.isTag tag)
  · have core := joined.core read (Nat.lt_of_lt_of_le builtin sound.gathered.shaped.builtins)
    exact (congrArg Node.isResolved core :).trans (owned.builtins id builtin)

theorem Change.owned (change : Change options fetch old new) (sound : old.Sound)
    (owned : old.Owned) : new.Owned := by
  cases change with
  | link requested fetched =>
      obtain ⟨byUrl, same⟩ := old.withAlias_eq requested fetched.canonical
      rw [same]
      exact owned.congr rfl rfl fun _ => rfl
  | parse requested adopted fetched => exact owned.parse sound options requested adopted fetched
  | depend asker needed =>
      exact owned.congr rfl (size_depend old asker needed) fun id =>
        keeps_changeDocument Document.source old asker id fun _ => by split <;> rfl
  | noteFailure => exact owned.congr rfl rfl fun _ => rfl

theorem owned_empty : empty.Owned where
  sources _ within := absurd within (Nat.not_lt_zero _)
  tags id tag := absurd tag (Model.not_isTag_empty id)
  builtins id builtin := by
    rcases Model.node_empty id with ⟨missing, -⟩ | ⟨localName, -, same⟩
    · rw [Builtin.length_nodes] at builtin
      exact absurd (List.getElem?_eq_none_iff.mp missing) (Nat.not_le.mpr builtin)
    · exact (congrArg Node.isResolved same).trans rfl

theorem Changes.owned (changes : Changes options fetch .empty new) : new.Owned :=
  (@Changes.keeps _ _ _ _ (fun compilation => compilation.Sound ∧ compilation.Owned) changes
    ⟨sound_empty, owned_empty⟩ fun change holds =>
      ⟨change.sound holds.1, change.owned holds.1 holds.2⟩).2

end

end Compilation

end XmlSchema

import XmlSchema.Content
import XmlSchema.Proofs.Documents.Milestones
import XmlSchema.Proofs.Reading.Sources
import XmlSchema.Proofs.Resolution.References
import XmlSchema.Proofs.Resolution.Targets

set_option autoImplicit false

namespace XmlSchema

namespace Graph

theorem holds_walk {graph : Graph} {holds : Nat -> Prop}
    (closed : ∀ vertex, holds vertex -> ∀ next ∈ graph.successors vertex, holds next)
    {seen : List Nat} {visits : List Visit}
    (start : ∀ vertex, .enters vertex ∈ visits -> holds vertex) :
    ∀ vertex, .enters vertex ∈ graph.walk seen visits -> holds vertex := by
  fun_induction walk graph seen visits with
  | case1 => exact start
  | case2 seen first rest ih =>
      intro vertex member
      rcases List.mem_cons.mp member with same | later
      · cases same
      · exact ih (fun vertex member => start vertex (List.mem_cons_of_mem _ member)) vertex later
  | case3 seen first rest known ih =>
      exact ih fun vertex member => start vertex (List.mem_cons_of_mem _ member)
  | case4 seen first rest fresh ih =>
      have here := start first List.mem_cons_self
      intro vertex member
      rcases List.mem_cons.mp member with same | later
      · cases same
        exact here
      · refine ih (fun vertex member => ?_) vertex later
        rcases List.mem_append.mp member with next | other
        · obtain ⟨successor, inside, same⟩ := List.mem_map.mp next
          cases same
          exact closed first here _ inside
        · rcases List.mem_cons.mp other with same | rest
          · cases same
          · exact start vertex (List.mem_cons_of_mem _ rest)

theorem holds_preorder {graph : Graph} {holds : Nat -> Prop}
    (closed : ∀ vertex, holds vertex -> ∀ next ∈ graph.successors vertex, holds next)
    {start : List Nat} (begun : ∀ vertex ∈ start, holds vertex) :
    ∀ vertex ∈ graph.preorder start, holds vertex := by
  intro vertex member
  obtain ⟨visit, walked, entered⟩ := List.mem_filterMap.mp member
  cases visit with
  | leaves => cases entered
  | enters other =>
      cases entered
      refine holds_walk closed (fun vertex member => ?_) vertex walked
      obtain ⟨first, listed, same⟩ := List.mem_map.mp member
      cases same
      exact begun _ listed

end Graph

namespace Model

/-- The nodes that a model gives out: globals, the members of what it gives out, what may stand in
for it, and the types, bases, item and member types of it. -/
inductive Shows (model : Model) : NodeId -> Prop where
  | listed (home : NamespaceId) (kind : Symbols) {member : Member}
      (there : member ∈ model.globals home kind) : model.Shows member.node
  | found (kind : Symbols) (name : QName) {target : NodeId}
      (there : model.global kind name = some target) : model.Shows target
  | member {id : NodeId} (kind : Symbols) {member : Member} (shown : model.Shows id)
      (there : member ∈ model.members id kind) : model.Shows member.node
  | alternative {id other : NodeId} (shown : model.Shows id)
      (there : other ∈ model.alternatives id) : model.Shows other
  | type {id target : NodeId} (shown : model.Shows id)
      (there : model.typeOf id = some (.resolved target)) : model.Shows target
  | part {id target : NodeId} (shown : model.Shows id)
      (there : .resolved target ∈ (model.node id).types) : model.Shows target

section

variable {model : Model}

theorem within_of_entry (filed : model.Filed) {scope : ScopeId}
    {kind : Symbols} {entry : QName × Definition}
    (member : entry ∈ (model.scopes.table scope kind).entries) :
    entry.2.target.index < model.nodes.size :=
  within_of_bears (filed scope kind entry.1 entry.2 (Table.get?_of_mem _ member))

theorem within_of_type (contained : model.Contained) {id target : NodeId}
    (there : .resolved target ∈ (model.node id).types) : target.index < model.nodes.size :=
  contained.targets id target
    (List.mem_append_right _ (List.mem_filterMap.mpr ⟨.resolved target, there, rfl⟩))

theorem within_alternatives (contained : model.Contained) {id : NodeId}
    (within : id.index < model.nodes.size) :
    ∀ other ∈ model.alternatives id, other.index < model.nodes.size := by
  intro other member
  obtain ⟨vertex, walked, rfl⟩ := List.mem_map.mp (List.mem_of_mem_filter member)
  refine @Graph.holds_preorder model.substitution (fun vertex => vertex < model.nodes.size)
    (fun vertex _ next follows => ?_) _ (fun start same => ?_) vertex walked
  · unfold Graph.successors at follows
    split at follows
    · obtain ⟨substitute, listed, rfl⟩ := List.mem_map.mp follows
      exact contained.targets ⟨vertex⟩ substitute
        (List.mem_append_left _ (List.mem_append_right _ listed))
    · cases follows
  · exact List.mem_singleton.mp same ▸ within

theorem within_members (contained : model.Contained) (filed : model.Filed)
    {id : NodeId} {kind : Symbols} {member : Member}
    (there : member ∈ model.members id kind) : member.node.index < model.nodes.size := by
  have plain (there : member ∈ (model.scopes.table (model.node id).scope kind).entries.map
      Member.ofEntry) : member.node.index < model.nodes.size := by
    obtain ⟨entry, listed, rfl⟩ := List.mem_map.mp there
    exact within_of_entry filed listed
  unfold members at there
  dsimp only at there
  split at there
  next =>
    obtain ⟨entry, listed, expanded⟩ := List.mem_flatMap.mp there
    obtain ⟨other, alternative, rfl⟩ := List.mem_map.mp expanded
    exact within_alternatives contained (within_of_entry filed listed) other alternative
  next => exact plain there

theorem Shows.within (contained : model.Contained) (filed : model.Filed)
    {id : NodeId} (shown : model.Shows id) :
    id.index < model.nodes.size := by
  induction shown with
  | listed home kind there =>
      obtain ⟨entry, listed, rfl⟩ := List.mem_map.mp there
      exact within_of_entry filed listed
  | found kind name there =>
      unfold global at there
      split at there
      next => cases there
      next home _ =>
        obtain ⟨definition, held, rfl⟩ := Option.map_eq_some_iff.mp there
        obtain ⟨scope, -, entered⟩ := List.exists_of_findSome?_eq_some held
        exact within_of_bears (filed scope kind name definition entered)
  | member kind _ there => exact within_members contained filed there
  | alternative _ there ih => exact within_alternatives contained ih _ there
  | @type id target _ there =>
      have typed (other : NodeId) (same : (model.node other).typeRef = some (.resolved target)) :
          target.index < model.nodes.size := by
        refine @within_of_type model contained other target ?_
        unfold Node.types
        rw [same]
        exact List.mem_append_left _ (List.mem_append_left _ List.mem_cons_self)
      unfold typeOf at there
      dsimp only at there
      split at there <;> exact typed _ there
  | part _ there => exact within_of_type contained there

end

end Model

namespace Pass

variable {start : Model} {pass next : Pass}

theorem Step.sources (step : Step pass next) (untried : start.Untried)
    (scheduled : Scheduled start pass) : next.model.sources = pass.model.sources := by
  cases step with
  | enter => exact (scheduled.follows_enter untried).sources
  | skip => rfl
  | ignore => rfl
  | leave model call outer => exact (ledger_leave model call outer true).1
  | circle model task rest call outer => exact (ledger_leave model call outer false).1

theorem Reaches.sources (reaches : Reaches pass next) (untried : start.Untried)
    (poised : start.Poised) (scheduled : Scheduled start pass) :
    next.model.sources = pass.model.sources := by
  induction reaches with
  | refl => rfl
  | tail before step ih =>
      exact (step.sources untried (Reaches.scheduled before poised scheduled)).trans ih

end Pass

namespace Compilation

def IsFailed (compilation : Compilation) (id : NodeId) : Prop :=
  compilation.model.IsTag id ∧
    ∃ document, (compilation.document document).state = .failed ∧
      (compilation.document document).source ≠ none ∧
      (compilation.model.node id).source = (compilation.document document).source

section

variable {read : Compilation}

theorem Sound.finished_or_failed (sound : read.Sound) (owned : read.Owned) {id : NodeId}
    (tag : read.resolve.model.IsTag id) : read.resolve.IsFinished id ∨ read.resolve.IsFailed id := by
  have documents := document_congr (resolve_eq read).2
  have alike := sound.ended.alike
  have before := (alike.isTag id).mp tag
  obtain ⟨document, within, source⟩ := sound.owner id before
  rcases sound.read document within with finished | failed
  · exact .inl ((isFinished_congr alike (resolve_eq read).2 id).mpr
      ⟨before, document, finished, source⟩)
  · refine .inr ⟨tag, document, ?_, ?_, ?_⟩
    · rw [documents]
      exact failed
    · rw [documents, ← source]
      exact owned.tags id before
    · rw [documents, alike.source]
      exact source

theorem Sound.not_isResolved (sound : read.Sound) {id : NodeId} (failed : read.resolve.IsFailed id)
    (deferred : (read.resolve.model.node id).kind.isDeferred = true) :
    (read.resolve.model.node id).isResolved = false := by
  have documents := document_congr (resolve_eq read).2
  have alike := sound.ended.alike
  obtain ⟨tag, document, state, sourced, source⟩ := failed
  rw [documents] at state sourced source
  rw [alike.source] at source
  refine Bool.eq_false_iff.mpr fun resolved => ?_
  rcases (sound.ended.resolved id).mp resolved with early | listed
  · rw [alike.kind] at deferred
    cases deferred.symm.trans (sound.gathered.unworked.waiting id early)
  · obtain ⟨-, finished⟩ := (sound.mem_order_resolve id).mp listed
    obtain ⟨-, other, ended, same⟩ :=
      (isFinished_congr alike (resolve_eq read).2 id).mp finished
    obtain ⟨shared, found⟩ := Option.ne_none_iff_exists'.mp sourced
    have one := sound.distinct document other (Sound.within_of_ended (by rw [state]; decide))
      (Sound.within_of_finished ended) shared found (same.symm.trans (source.trans found))
    rw [one, ended] at state
    cases state

/-- A node that is there is resolved, or it is a tag of a document that failed. -/
theorem Sound.resolved_or_failed (sound : read.Sound) (owned : read.Owned) {id : NodeId}
    (within : id.index < read.resolve.model.nodes.size) :
    (read.resolve.model.node id).isResolved = true ∨ read.resolve.IsFailed id := by
  by_cases builtin : id.index < Builtin.nodes.length
  next => exact .inl ((sound.ended.resolved id).mpr (.inl (owned.builtins id builtin)))
  next =>
    exact (sound.finished_or_failed owned ⟨Nat.not_lt.mp builtin, within⟩).imp_left sound.isResolved

theorem Sound.sources_resolve (sound : read.Sound) (untried : read.model.Untried) :
    read.resolve.model.sources = read.model.sources :=
  read.resolve_reaches.sources untried sound.poised sound.scheduled

theorem Sound.source_of_one (sound : read.Sound) (owned : read.Owned) {source : SourceId}
    (within : source.index < read.model.sources.size) :
    ∃ document : DocumentId, document.index < read.documents.size ∧
      ∀ other : DocumentId, other.index < read.documents.size ->
        ((read.document other).source = some source ↔ other = document) := by
  obtain ⟨document, inside, found⟩ := owned.sources source within
  refine ⟨document, inside, fun other there => ⟨fun same => ?_, fun same => same ▸ found⟩⟩
  exact sound.distinct other document there inside source same found

end

/-- What a compilation gives out. Its nodes are there, and are resolved unless they are tags of a
document that failed; what such tags refer to is never looked up. Each source is that of one document.
So everything that is given out comes from documents that were read to their end if and only if every
document that failed did so before its schema tag. -/
theorem compile_exposes {options : Options} {fetch : Fetch} {url : Url} {compilation : Compilation}
    (compiled : compile options fetch url = .ok compilation) :
    (∀ id, compilation.model.Shows id -> id.index < compilation.model.nodes.size ∧
      ((compilation.model.node id).isResolved = true ∨ compilation.IsFailed id)) ∧
    (∀ id, compilation.IsFailed id -> (compilation.model.node id).kind.isDeferred = true ->
      (compilation.model.node id).isResolved = false) ∧
    (∀ source : SourceId, source.index < compilation.model.sources.size ->
      ∃ document : DocumentId, document.index < compilation.documents.size ∧
        ∀ other : DocumentId, other.index < compilation.documents.size ->
          ((compilation.document other).source = some source ↔ other = document)) ∧
    ((∀ id, compilation.model.Shows id -> (compilation.model.node id).isResolved = true) ∧
        (∀ source : SourceId, source.index < compilation.model.sources.size ->
          ∃ document, (compilation.document document).state = .finished ∧
            (compilation.document document).source = some source) ↔
      ∀ document, (compilation.document document).state = .failed ->
        (compilation.document document).source = none) := by
  obtain ⟨read, gathered, sound, rfl⟩ := compile_ok compiled
  have changes := (gather_arrives gathered).changes
  have owned := changes.owned
  have contained := sound.contained_resolve changes.contained
  have sources := sound.sources_resolve (untried_gather gathered)
  have documents := document_congr (resolve_eq read).2
  have within {id : NodeId} (shown : read.resolve.model.Shows id) :=
    shown.within contained sound.ended.filed
  simp only [sources, (resolve_eq read).2, documents]
  refine ⟨fun id shown => ⟨within shown, sound.resolved_or_failed owned (within shown)⟩,
    fun id => sound.not_isResolved, fun source => sound.source_of_one owned, ?_, ?_⟩
  · rintro ⟨-, finished⟩ document failed
    -- a source of a failed document would have to be that of a finished one, too
    cases found : (read.document document).source with
    | none => rfl
    | some source =>
        have inside := Sound.within_of_ended (by rw [failed]; decide)
        obtain ⟨other, ended, same⟩ := finished source (sound.ranged document inside source found)
        have one := sound.distinct other document (Sound.within_of_finished ended) inside source
          same found
        rw [one, failed] at ended
        cases ended
  · intro early
    refine ⟨fun id shown => ?_, fun source there => ?_⟩
    · refine (sound.resolved_or_failed owned (within shown)).resolve_right ?_
      rintro ⟨-, document, failed, sourced, -⟩
      rw [documents] at failed sourced
      exact sourced (early document failed)
    · obtain ⟨document, inside, found⟩ := owned.sources source there
      refine ⟨document, (sound.read document inside).resolve_right fun failed => ?_, found⟩
      cases found.symm.trans (early document failed)

def brokenText : String :=
  "<schema xmlns='http://www.w3.org/2001/XMLSchema' targetNamespace='t'>" ++
    "<element name='e' type='string'/><element name='1'/></schema>"

def servingBroken : Fetch := fun url =>
  if url.text = rootUrl.text then .ok ⟨includingText.toUTF8.toList, rootUrl⟩
  else .ok ⟨brokenText.toUTF8.toList, url⟩

theorem resolve_of_idle {read : Compilation}
    (idle : ∀ document ∈ read.documents, document.state = .failed ∨ document.tasks = #[]) :
    read.resolve.model = read.model := by
  have duties (id : DocumentId) : read.duties id = [] := by
    unfold duties
    split
    next finished =>
      have there : read.document id ∈ read.documents := by
        have within := Sound.within_of_finished finished
        unfold document
        rw [Array.getElem?_eq_getElem within]
        exact Array.getElem_mem within
      rcases idle _ there with failed | none_
      · cases finished.symm.trans failed
      · rw [none_]
    next => rfl
  have nothing : read.agenda = [] := List.flatMap_eq_nil_iff.mpr fun id _ => duties id
  rw [(resolve_eq read).1, nothing]
  rfl

set_option maxRecDepth 100000 in
theorem resolve_broken :
    ∃ read : Compilation, compile .standard servingBroken rootUrl = .ok read.resolve ∧
      read.resolve.model = read.model ∧ read.resolve.documents = read.documents ∧
      (read.document ⟨1⟩).state = .failed ∧ (read.document ⟨1⟩).source = some ⟨1⟩ ∧
      (read.document ⟨0⟩).source = some ⟨0⟩ ∧ read.documents.size = 2 ∧
      read.model.sources.size = 2 ∧ read.model.global .elements ⟨some "t", "e"⟩ = some ⟨49⟩ ∧
      (read.model.node ⟨49⟩).isResolved = false := by
  obtain ⟨read, gathered, idle, rest⟩ := @gather_of_served .standard servingBroken rootUrl
    (fun read => (∀ document ∈ read.documents.toList,
        document.state = .failed ∨ document.tasks = #[]) ∧
      (read.document ⟨1⟩).state = .failed ∧ (read.document ⟨1⟩).source = some ⟨1⟩ ∧
      (read.document ⟨0⟩).source = some ⟨0⟩ ∧ read.documents.size = 2 ∧
      read.model.sources.size = 2 ∧ read.model.global .elements ⟨some "t", "e"⟩ = some ⟨49⟩ ∧
      (read.model.node ⟨49⟩).isResolved = false) _ 1 (by
        unfold servingBroken
        rw [toList_bytes, toList_bytes]
        decide +kernel)
  have model := resolve_of_idle fun document member =>
    idle document (Array.mem_toList_iff.mpr member)
  exact ⟨read, compile_of_gather gathered, model, (resolve_eq read).2, rest⟩

/-- The element of the broken document is given out, though the type that it names has not been
looked up, and so is the source of that document. -/
theorem compile_exposes_broken :
    ∃ compilation, compile .standard servingBroken rootUrl = .ok compilation ∧
      (∃ id, compilation.model.Shows id ∧ (compilation.model.node id).isResolved = false) ∧
      ∃ source : SourceId, source.index < compilation.model.sources.size ∧
        ∀ document, (compilation.document document).state = .finished ->
          (compilation.document document).source ≠ some source := by
  obtain ⟨read, compiled, model, documents, failed, -, first, count, sources, element, open_⟩ :=
    resolve_broken
  refine ⟨read.resolve, compiled, ⟨⟨49⟩, ?_, by rw [model]; exact open_⟩, ⟨1⟩, ?_, ?_⟩
  · rw [model]
    exact .found .elements ⟨some "t", "e"⟩ element
  · rw [model, sources]
    exact Nat.lt_succ_self 1
  · intro document finished found
    rw [document_congr documents] at finished found
    have within := Sound.within_of_finished finished
    rw [count] at within
    obtain ⟨index⟩ := document
    rcases Nat.le_one_iff_eq_zero_or_eq_one.mp (Nat.lt_succ_iff.mp within) with rfl | rfl
    · cases first.symm.trans found
    · cases failed.symm.trans finished

theorem compile_exposes_include :
    ∃ compilation, compile .standard servingBroken rootUrl = .ok compilation ∧
      ∃ id, compilation.model.Shows id ∧ compilation.IsFailed id := by
  obtain ⟨read, compiled, model, -, -, -, -, -, -, element, open_⟩ := resolve_broken
  obtain ⟨shown, -, -, -⟩ := compile_exposes compiled
  have there : read.resolve.model.Shows ⟨49⟩ := by
    rw [model]
    exact .found .elements ⟨some "t", "e"⟩ element
  refine ⟨read.resolve, compiled, ⟨49⟩, there, (shown ⟨49⟩ there).2.resolve_left fun resolved => ?_⟩
  rw [model] at resolved
  cases open_.symm.trans resolved

end Compilation

end XmlSchema

import XmlSchema.Proofs.Resolution.Completion

set_option autoImplicit false

namespace XmlSchema

namespace Compilation

def documentIds (compilation : Compilation) : List DocumentId :=
  (List.range compilation.documents.size).map DocumentId.mk

def hasFinished (compilation : Compilation) (id : DocumentId) : Bool :=
  (compilation.document id).state = .finished

def finishedIds (compilation : Compilation) : List DocumentId :=
  compilation.documentIds.filter compilation.hasFinished

def resolvedIds (compilation : Compilation) : List DocumentId :=
  compilation.order.filter compilation.hasFinished

def readDone (compilation : Compilation) (id : DocumentId) : Milestone :=
  .firstPassDone (compilation.document id).url

def resolveStarted (compilation : Compilation) (id : DocumentId) : Milestone :=
  .secondPassStarted (compilation.document id).url

def Needs (compilation : Compilation) (asker needed : DocumentId) : Prop :=
  needed ∈ (compilation.document asker).dependencies

/-- Each finished document has been noted when it was read, and nothing else has been. -/
def Logged (compilation : Compilation) : Prop :=
  compilation.journal.toList = compilation.finishedIds.map compilation.readDone

section

variable {compilation old new : Compilation}

theorem mem_documentIds (compilation : Compilation) (id : DocumentId) :
    id ∈ compilation.documentIds ↔ id.index < compilation.documents.size := by
  obtain ⟨index⟩ := id
  simp [documentIds]

theorem nodup_documentIds (compilation : Compilation) : compilation.documentIds.Nodup :=
  List.Pairwise.map DocumentId.mk (fun _ _ apart same => apart (congrArg DocumentId.index same))
    List.nodup_range

theorem mem_finishedIds (compilation : Compilation) (id : DocumentId) :
    id ∈ compilation.finishedIds ↔ compilation.hasFinished id := by
  simp only [finishedIds, List.mem_filter, mem_documentIds, and_iff_right_iff_imp]
  exact fun finished => Sound.within_of_finished (of_decide_eq_true finished)

theorem mem_resolvedIds (compilation : Compilation) (id : DocumentId) :
    id ∈ compilation.resolvedIds ↔ compilation.hasFinished id := by
  simp only [resolvedIds, List.mem_filter, and_iff_right_iff_imp]
  exact fun finished =>
    Sound.mem_order compilation (Sound.within_of_finished (of_decide_eq_true finished))

theorem nodup_order (compilation : Compilation) : compilation.order.Nodup :=
  List.Pairwise.map DocumentId.mk (fun _ _ apart same => apart (congrArg DocumentId.index same))
    (compilation.graph.nodup_postorder _)

theorem Logged.congr (logged : old.Logged) (journal : new.journal = old.journal)
    (size : new.documents.size = old.documents.size)
    (same : ∀ id, (new.document id).state = (old.document id).state ∧
      (new.document id).url = (old.document id).url) : new.Logged := by
  have finished : new.hasFinished = old.hasFinished := by
    funext id
    simp only [hasFinished, (same id).1]
  have notes : new.readDone = old.readDone := by
    funext id
    simp only [readDone, (same id).2]
  unfold Logged
  rw [journal, finishedIds, documentIds, size, finished, notes]
  exact logged

theorem document_of_listed {document : Document}
    (documents : new.documents = old.documents.push document) {id : DocumentId}
    (member : id ∈ old.documentIds) : new.document id = old.document id := by
  rw [document_push documents, if_neg (Nat.ne_of_lt ((mem_documentIds old id).mp member))]

theorem finishedIds_push {document : Document}
    (documents : new.documents = old.documents.push document) :
    new.finishedIds = old.finishedIds ++
      if document.state = .finished then [⟨old.documents.size⟩] else [] := by
  have ids : new.documentIds = old.documentIds ++ [⟨old.documents.size⟩] := by
    simp [documentIds, documents, List.range_succ]
  have before : old.documentIds.filter new.hasFinished = old.finishedIds :=
    List.filter_congr fun id member => by
      rw [hasFinished, hasFinished, document_of_listed documents member]
  have last : new.document ⟨old.documents.size⟩ = document := by simp [document_push documents]
  rw [finishedIds, ids, List.filter_append, before]
  by_cases finished : document.state = .finished <;> simp [hasFinished, last, finished]

theorem Logged.push (logged : old.Logged) {document : Document}
    (documents : new.documents = old.documents.push document)
    (journal : new.journal.toList = old.journal.toList ++
      if document.state = .finished then [.firstPassDone document.url] else []) : new.Logged := by
  have notes : old.finishedIds.map new.readDone = old.finishedIds.map old.readDone := by
    refine List.map_congr_left fun id member => ?_
    simp only [readDone, document_of_listed documents (List.mem_of_mem_filter member)]
  have last : new.document ⟨old.documents.size⟩ = document := by simp [document_push documents]
  unfold Logged
  rw [journal, logged, finishedIds_push documents, List.map_append, notes]
  by_cases finished : document.state = .finished <;> simp [readDone, last, finished]

theorem Change.logged {options : Options} {fetch : Fetch} (change : Change options fetch old new)
    (logged : old.Logged) : new.Logged := by
  cases change with
  | link requested fetched =>
      obtain ⟨byUrl, same⟩ := old.withAlias_eq requested fetched.canonical
      rw [same]
      exact logged.congr rfl rfl fun _ => ⟨rfl, rfl⟩
  | parse requested adopted fetched found unknown plain =>
      obtain ⟨document, parses⟩ := parse_spec options old requested plain fetched
      refine logged.push parses.documents ?_
      by_cases finished : document.state = .finished
      · simp [(parses.finished finished).2.2, finished]
      · simp [(parses.failed finished).2.2.2, finished]
  | depend asker needed =>
      refine logged.congr rfl (by simp) fun id => ⟨?_, ?_⟩
      · exact keeps_changeDocument Document.state old asker id fun _ => by split <;> rfl
      · exact keeps_changeDocument Document.url old asker id fun _ => by split <;> rfl
  | noteFailure url failure => exact logged.congr rfl rfl fun _ => ⟨rfl, rfl⟩

theorem logged_empty : empty.Logged := rfl

theorem journal_foldl_resolveDocument (ids : List DocumentId) (start : Compilation) :
    (ids.foldl resolveDocument start).journal.toList =
      start.journal.toList ++
        (ids.filter start.hasFinished).map start.resolveStarted := by
  induction ids generalizing start with
  | nil => simp
  | cons id rest ih =>
      have documents := (resolveDocument_eq start id).2
      have finished : (start.resolveDocument id).hasFinished = start.hasFinished := by
        funext other
        rw [hasFinished, document_congr documents, hasFinished]
      have started : (start.resolveDocument id).resolveStarted = start.resolveStarted := by
        funext other
        rw [resolveStarted, document_congr documents, resolveStarted]
      have noted : (start.resolveDocument id).journal.toList = start.journal.toList ++
          if start.hasFinished id then [start.resolveStarted id] else [] := by
        unfold resolveDocument hasFinished
        cases state : (start.document id).state <;> simp [state, resolveStarted]
      rw [List.foldl_cons, ih, noted, List.filter_cons]
      simp only [finished, started]
      by_cases is : start.hasFinished id <;> simp [is]

theorem order_after_needed {asker needed : DocumentId}
    (within : asker.index < compilation.documents.size) (needs : compilation.Needs asker needed)
    (apart : ¬ Relation.ReflTransGen compilation.Needs needed asker) :
    [needed, asker].Sublist compilation.order := by
  have edge {vertex other : Nat} (next : other ∈ compilation.graph.successors vertex) :
      compilation.Needs ⟨vertex⟩ ⟨other⟩ := by
    unfold Graph.successors at next
    split at next
    next =>
      have member : other ∈ (compilation.graph.next vertex) := next
      simp only [graph, Array.mem_toList_iff, Array.mem_map] at member
      obtain ⟨document, there, rfl⟩ := member
      exact there
    next => cases next
  have leads {vertex other : Nat} (path : compilation.graph.LeadsTo vertex other) :
      Relation.ReflTransGen compilation.Needs ⟨vertex⟩ ⟨other⟩ := by
    induction path with
    | refl => exact .refl
    | tail _ next ih => exact ih.tail (edge next)
  have next : needed.index ∈ compilation.graph.successors asker.index := by
    have member : needed.index ∈ compilation.graph.next asker.index := by
      simp only [graph, Array.mem_toList_iff, Array.mem_map]
      exact ⟨needed, needs, rfl⟩
    rw [Graph.successors, if_pos (show asker.index < compilation.graph.size from within)]
    exact member
  have before := Graph.postorder_after_successor
    (compilation.graph.mem_postorder (List.mem_range.mpr within)) next
    fun path => apart (leads path)
  exact before.map DocumentId.mk

end

theorem Change.journal {options : Options} {fetch : Fetch} {old new : Compilation}
    (change : Change options fetch old new) : old.journal.toList <+: new.journal.toList := by
  cases change with
  | link requested fetched =>
      obtain ⟨byUrl, same⟩ := old.withAlias_eq requested fetched.canonical
      exact same ▸ List.prefix_rfl
  | parse requested adopted fetched found unknown plain =>
      obtain ⟨document, parses⟩ := parse_spec options old requested plain fetched
      by_cases finished : document.state = .finished
      · rw [(parses.finished finished).2.2, Array.toList_push]
        exact List.prefix_append _ _
      · exact ⟨[], by simp [(parses.failed finished).2.2.2]⟩
  | depend asker needed => exact List.prefix_rfl
  | noteFailure url failure => exact List.prefix_rfl

theorem Changes.journal {options : Options} {fetch : Fetch} {old new : Compilation}
    (changes : Changes options fetch old new) : old.journal.toList <+: new.journal.toList := by
  induction changes with
  | refl => exact List.prefix_rfl
  | tail _ change ih => exact ih.trans change.journal

/-- The first pass comes to its end before the second one starts. All documents are read first,
each finished one noted as it ends, and until then no deferred tag is worked on. Then the tags of
each finished document are worked on, after those of the finished documents that it asks for and
that do not lead back to it. -/
theorem compile_two_passes {options : Options} {fetch : Fetch} {url : Url}
    {compilation : Compilation} (compiled : compile options fetch url = .ok compilation) :
    ∃ (read : Compilation) (first second : List DocumentId),
      gather options fetch url = .ok read ∧ compilation = read.resolve ∧
      compilation.journal.toList =
        first.map compilation.readDone ++ second.map compilation.resolveStarted ∧
      first.Nodup ∧ (∀ id, id ∈ first ↔ compilation.hasFinished id) ∧
      second.Nodup ∧ (∀ id, id ∈ second ↔ compilation.hasFinished id) ∧
      (∀ gathering, Gathering.Arrives options fetch url gathering ->
        gathering.compilation.model.order = #[] ∧
          (∀ task, (gathering.compilation.model.queue.get task).status ≠ .running) ∧
          gathering.compilation.journal.toList <+: first.map compilation.readDone) ∧
      (∀ before after, read.order = before ++ after ->
        (before.foldl resolveDocument read).journal.toList =
          first.map compilation.readDone ++
            (before.filter compilation.hasFinished).map compilation.resolveStarted) ∧
      ∀ asker needed, compilation.hasFinished asker -> compilation.hasFinished needed ->
        compilation.Needs asker needed ->
          ¬ Relation.ReflTransGen compilation.Needs needed asker ->
            [needed, asker].Sublist second := by
  obtain ⟨read, gathered, sound, rfl⟩ := compile_ok compiled
  have documents := (resolve_eq read).2
  have same := document_congr documents
  have finished : read.resolve.hasFinished = read.hasFinished := by
    funext id
    rw [hasFinished, same, hasFinished]
  have done : read.resolve.readDone = read.readDone := by
    funext id
    rw [readDone, same, readDone]
  have started : read.resolve.resolveStarted = read.resolveStarted := by
    funext id
    rw [resolveStarted, same, resolveStarted]
  have needs : read.resolve.Needs = read.Needs := by
    funext asker needed
    rw [Needs, same, Needs]
  have logged : read.Logged :=
    (gather_arrives gathered).changes.keeps logged_empty fun change => change.logged
  -- the second pass adds to the journal and changes no document, so all is said of the first
  simp only [finished, done, started, needs]
  refine ⟨read, read.finishedIds, read.resolvedIds, gathered, rfl, ?_,
    read.nodup_documentIds.filter _, read.mem_finishedIds, read.nodup_order.filter _,
    read.mem_resolvedIds, ?_, ?_, ?_⟩
  · rw [resolve, journal_foldl_resolveDocument, logged, resolvedIds]
  · intro gathering arrives
    have along := arrives.sound
    refine ⟨along.order, fun task runs => ?_, ?_⟩
    · have idle := @Sound.done_of_not_waits _ along task (by rw [runs]; decide)
      cases idle.symm.trans runs
    · cases (gather_of_arrives arrives).symm.trans gathered
      rw [← logged]
      exact arrives.changes_run.journal
  · intro before after _
    rw [journal_foldl_resolveDocument, logged]
  · intro asker needed askerFinished neededFinished asks apart
    have ordered := order_after_needed (Sound.within_of_finished (of_decide_eq_true askerFinished)) asks apart
    have both := ordered.filter read.hasFinished
    simp only [List.filter_cons, askerFinished, neededFinished, if_true, List.filter_nil] at both
    exact both

def includingText : String :=
  "<schema xmlns='http://www.w3.org/2001/XMLSchema' targetNamespace='t'>" ++
    "<include schemaLocation='b.xsd'/></schema>"

set_option maxRecDepth 100000 in
theorem compile_two_passes_include :
    ∃ (compilation : Compilation) (first second : List DocumentId),
      compile .standard (serving includingText) rootUrl = .ok compilation ∧
      compilation.journal.toList =
        first.map compilation.readDone ++ second.map compilation.resolveStarted ∧
      [⟨1⟩, ⟨0⟩].Sublist second := by
  obtain ⟨read, gathered, finished, root, included⟩ := @gather_of_served .standard
    (serving includingText) rootUrl (fun read => (read.hasFinished ⟨0⟩ ∧ read.hasFinished ⟨1⟩) ∧
      (read.document ⟨0⟩).dependencies = #[⟨1⟩] ∧ (read.document ⟨1⟩).dependencies = #[⟨1⟩]) _ 2
    (by decide +kernel)
  have compiled : compile .standard (serving includingText) rootUrl = .ok read.resolve :=
    compile_of_gather gathered
  have same := document_congr (resolve_eq read).2
  obtain ⟨_, first, second, -, -, journal, -, -, -, -, -, -, ordered⟩ := compile_two_passes compiled
  refine ⟨read.resolve, first, second, compiled, journal, ordered ⟨0⟩ ⟨1⟩ ?_ ?_ ?_ ?_⟩
  · rw [hasFinished, same]
    exact finished.1
  · rw [hasFinished, same]
    exact finished.2
  · simp [Needs, same, root]
  · have stays {id : DocumentId} (path : Relation.ReflTransGen read.resolve.Needs ⟨1⟩ id) :
        id = ⟨1⟩ := by
      induction path with
      | refl => rfl
      | tail _ next ih =>
          rw [Needs, same, ih, included] at next
          simpa using next
    exact fun path => absurd (stays path) (by decide)

end Compilation

end XmlSchema

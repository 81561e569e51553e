import XmlSchema.Compilation.Gathering
import XmlSchema.Proofs.Reading.Steps

set_option autoImplicit false

namespace XmlSchema

namespace Builtin

theorem length_nodes : nodes.length = names.length := by
  simp [nodes]

theorem symbols_kind (localName : String) : (kind localName).symbols? = some .types := by
  unfold kind
  split <;> rfl

theorem isType_kind (localName : String) : (kind localName).isType = true := by
  unfold kind
  split <;> rfl

theorem plain_kind (localName : String) : (kind localName).isDeferred = false := by
  unfold kind
  split <;> rfl

theorem target_of_table {name : QName} {definition : Definition}
    (found : table.get? name = some definition) :
    definition.inherited = false ∧ ∃ localName, names[definition.target.index]? = some localName ∧
      name = .inNamespace schemaUri localName := by
  have entry : ∀ entries : List (String × Nat), (∀ entry ∈ entries, names[entry.2]? = some entry.1) ->
      Table.find name (entries.map fun entry =>
        (QName.inNamespace schemaUri entry.1, (⟨⟨entry.2⟩, .once, false⟩ : Definition))) =
          some definition ->
      definition.inherited = false ∧ ∃ localName, names[definition.target.index]? = some localName ∧
        name = .inNamespace schemaUri localName := by
    intro entries placed found
    induction entries with
    | nil => cases found
    | cons first rest ih =>
        simp only [List.map_cons, Table.find] at found
        split at found
        next same =>
          cases found
          exact ⟨rfl, first.1, placed first List.mem_cons_self, same.symm⟩
        next => exact ih (fun entry member => placed entry (List.mem_cons_of_mem _ member)) found
  refine entry names.zipIdx (fun entry member => ?_) found
  exact List.mem_zipIdx_iff_getElem?.mp member

end Builtin

namespace Model

theorem node_empty (id : NodeId) :
    Builtin.names[id.index]? = none ∧ empty.node id = default ∨
      ∃ localName, Builtin.names[id.index]? = some localName ∧
        empty.node id = Builtin.node localName := by
  have there : empty.node id = (Builtin.names[id.index]?.map Builtin.node).getD default := by
    simp [node, empty, Builtin.nodes]
  cases named : Builtin.names[id.index]? with
  | none => exact Or.inl ⟨rfl, by simp [there, named]⟩
  | some localName => exact Or.inr ⟨localName, rfl, by simp [there, named]⟩

theorem size_empty : empty.nodes.size = Builtin.nodes.length := by
  simp [empty]

theorem not_isTag_empty (id : NodeId) : ¬ empty.IsTag id := by
  rintro ⟨above, below⟩
  rw [size_empty] at below
  exact Nat.not_lt.mpr above below

theorem rooted_builtin : (Namespaces.empty Builtin.scope).Rooted Builtin.scopes where
  builtins := rfl
  byName _ _ found := by cases found
  byUrl _ _ found := by cases found
  inside id within := absurd within (Nat.not_lt_zero _)
  around id within := absurd within (Nat.not_lt_zero _)

theorem scopes_empty : empty.scopes = Builtin.scopes ∨
    ∃ home, empty.scopes = Builtin.scopes.create (some Builtin.scope) home :=
  rooted_builtin.scopes_register _ _ _

theorem table_empty_eq (id : ScopeId) (kind : Symbols) :
    empty.scopes.table id kind = Builtin.scopes.table id kind := by
  rcases scopes_empty with same | ⟨home, same⟩
  · rw [same]
  · rw [same, Scopes.table_create]

theorem table_empty (id : ScopeId) (kind : Symbols) :
    empty.scopes.table id kind = .empty ∨
      kind = .types ∧ empty.scopes.table id kind = Builtin.table := by
  rw [table_empty_eq]
  obtain ⟨index⟩ := id
  cases index with
  | zero => cases kind <;> first | exact Or.inl rfl | exact Or.inr ⟨rfl, rfl⟩
  | succ index => cases kind <;> exact Or.inl rfl

theorem homed_empty : empty.Homed := by
  intro scope kind name definition outer found
  rcases table_empty scope kind with none_ | ⟨rfl, -⟩
  next =>
    rw [none_] at found
    cases found
  next =>
    have apart := outer.resolve_right fun other => other rfl
    have outside : Builtin.scopes.size ≤ scope.index :=
      Nat.pos_of_ne_zero fun zero => apart (congrArg ScopeId.mk zero)
    rw [table_empty_eq, Scopes.table, Scopes.get_of_size_le _ outside] at found
    cases found

theorem shaped_empty : empty.Shaped where
  builtins := Nat.le_of_eq size_empty.symm
  primitive id primitive := by
    rcases node_empty id with ⟨missing, -⟩ | ⟨localName, -, same⟩
    · rw [Builtin.length_nodes] at primitive
      exact absurd (List.getElem?_eq_none_iff.mp missing) (Nat.not_le.mpr primitive)
    · rw [same]
      exact ⟨rfl, Builtin.isType_kind localName⟩
  registry := rooted_builtin.register ..
  floor := by
    have one : Builtin.scopes.size = 1 := rfl
    rcases scopes_empty with same | ⟨home, same⟩
    · rw [same, one]
      exact Nat.one_pos
    · rw [same, Scopes.size_create]
      exact Nat.succ_pos _
  outermost := by
    rcases scopes_empty with same | ⟨home, same⟩
    · rw [same]
      rfl
    · rw [same, Scopes.parent_create_of_lt]
      · rfl
      · exact Nat.one_pos
  root id tag := absurd tag (not_isTag_empty id)
  inside id _ tag := absurd tag (not_isTag_empty id)
  held id tag := absurd tag (not_isTag_empty id)
  apart id _ tag := absurd tag (not_isTag_empty id)

theorem gathered_empty : empty.Gathered where
  shaped := shaped_empty
  filed := by
    intro scope kind name definition found
    rcases table_empty scope kind with none_ | ⟨rfl, there⟩
    · rw [none_] at found
      cases found
    · rw [there] at found
      obtain ⟨-, localName, listed, rfl⟩ := Builtin.target_of_table found
      rcases node_empty definition.target with ⟨missing, -⟩ | ⟨other, same, node⟩
      · cases missing.symm.trans listed
      · cases same.symm.trans listed
        unfold Bears
        rw [node]
        exact ⟨rfl, Builtin.symbols_kind localName⟩
  homed := homed_empty
  tallied id kind name tag := absurd tag (not_isTag_empty id)
  queued := by
    have none_ (task : TaskId) : ¬ task.index < empty.queue.size := Nat.not_lt_zero _
    refine ⟨fun task within => absurd within (none_ task), fun task _ within => absurd within (none_ task),
      fun task _ within => absurd within (none_ task), fun owner => ?_⟩
    have nothing : empty.queue.feeding owner = [] := by
      change (Std.TreeMap.getD (∅ : Feeders) owner.index #[]).toList = []
      rw [Std.TreeMap.getD_emptyc]
    rw [nothing]
    rfl
  unworked := by
    have either (holds : Node -> Prop) (missing : holds default)
        (built : ∀ localName, holds (Builtin.node localName)) (id : NodeId) :
        holds (empty.node id) := by
      rcases node_empty id with ⟨-, same⟩ | ⟨localName, -, same⟩
      · exact same ▸ missing
      · exact same ▸ built localName
    refine ⟨either (fun node => node.referent = none) rfl fun _ => rfl,
      either (fun node => node.base = none) rfl fun _ => rfl,
      either (fun node => node.isResolved = true -> node.kind.isDeferred = false) (by decide)
        fun localName _ => Builtin.plain_kind localName, ?_⟩
    intro scope kind name definition found
    rcases table_empty scope kind with none_ | ⟨rfl, there⟩
    · rw [none_] at found
      cases found
    · rw [there] at found
      exact (Builtin.target_of_table found).1
  single id kind := by
    rcases node_empty id with ⟨-, same⟩ | ⟨localName, -, same⟩ <;> rw [same] at kind ⊢
    · cases kind
    · rfl

end Model

namespace Compilation

/-- All documents have been read that were met so far, each to its end or not. -/
structure Sound (compilation : Compilation) : Prop where
  gathered : compilation.model.Gathered
  order : compilation.model.order = #[]
  read : ∀ id : DocumentId, id.index < compilation.documents.size ->
    (compilation.document id).state = .finished ∨ (compilation.document id).state = .failed
  owner : ∀ id, compilation.model.IsTag id ->
    ∃ document : DocumentId, document.index < compilation.documents.size ∧
      (compilation.model.node id).source = (compilation.document document).source
  ranged : ∀ document : DocumentId, document.index < compilation.documents.size ->
    ∀ source, (compilation.document document).source = some source ->
      source.index < compilation.model.sources.size
  distinct : ∀ a b : DocumentId, a.index < compilation.documents.size ->
    b.index < compilation.documents.size -> ∀ source, (compilation.document a).source = some source ->
      (compilation.document b).source = some source -> a = b
  finished : ∀ document : DocumentId, document.index < compilation.documents.size ->
    (compilation.document document).state = .finished ->
      (compilation.document document).source ≠ none ∧
        ∀ id, compilation.model.IsTag id ->
          (compilation.model.node id).source = (compilation.document document).source ->
            compilation.model.Closed id
  placed : ∀ task : TaskId, task.index < compilation.model.queue.size ->
    ∃ document : DocumentId, document.index < compilation.documents.size ∧
      task ∈ (compilation.document document).tasks
  tasks : ∀ document : DocumentId, document.index < compilation.documents.size ->
    ∀ task ∈ (compilation.document document).tasks,
      task.index < compilation.model.queue.size ∧
        (compilation.model.node (compilation.model.queue.get task).node).source =
          (compilation.document document).source ∧
        (compilation.model.queue.get task).status =
          if (compilation.document document).state = .finished then .waiting else .done
  sorted : ∀ document : DocumentId, document.index < compilation.documents.size ->
    (compilation.document document).tasks.toList.Pairwise fun a b => a.index < b.index

theorem document_changeDocument (compilation : Compilation) (id other : DocumentId)
    (f : Document -> Document) :
    (compilation.changeDocument id f).document other =
      if other = id ∧ other.index < compilation.documents.size then f (compilation.document other)
      else compilation.document other := by
  obtain ⟨i⟩ := id
  obtain ⟨j⟩ := other
  simpa [document, changeDocument] using Numbered.getD_modify compilation.documents i j f

theorem keeps_changeDocument {α : Type} (look : Document -> α) (compilation : Compilation)
    (id other : DocumentId) {f : Document -> Document} (keeps : ∀ document, look (f document) = look document) :
    look ((compilation.changeDocument id f).document other) = look (compilation.document other) := by
  rw [document_changeDocument]
  split
  · exact keeps _
  · rfl

namespace Sound

variable {old new : Compilation}

theorem within_of_ended {read : Compilation} {id : DocumentId}
    (ended : (read.document id).state ≠ .reading) :
    id.index < read.documents.size := by
  refine Nat.not_le.mp fun outside => ended ?_
  have missing : read.document id = default := Numbered.getD_of_size_le read.documents outside
  rw [missing]
  rfl

theorem within_of_finished {read : Compilation} {id : DocumentId}
    (finished : (read.document id).state = .finished) :
    id.index < read.documents.size :=
  within_of_ended (by rw [finished]; decide)

theorem congr (sound : old.Sound) (model : new.model = old.model)
    (size : new.documents.size = old.documents.size)
    (same : ∀ id, (new.document id).state = (old.document id).state ∧
      (new.document id).source = (old.document id).source ∧
        (new.document id).tasks = (old.document id).tasks) : new.Sound where
  gathered := model ▸ sound.gathered
  order := model ▸ sound.order
  read id within := by
    rw [(same id).1]
    exact sound.read id (size ▸ within)
  owner id tag := by
    rw [model] at tag ⊢
    obtain ⟨document, within, source⟩ := sound.owner id tag
    exact ⟨document, size ▸ within, source.trans (same document).2.1.symm⟩
  ranged document within source found := by
    rw [(same document).2.1] at found
    rw [model]
    exact sound.ranged document (size ▸ within) source found
  distinct a b withinA withinB source foundA foundB := by
    rw [(same a).2.1] at foundA
    rw [(same b).2.1] at foundB
    exact sound.distinct a b (size ▸ withinA) (size ▸ withinB) source foundA foundB
  finished document within state := by
    rw [(same document).1] at state
    rw [(same document).2.1, model]
    exact sound.finished document (size ▸ within) state
  placed task within := by
    rw [model] at within
    obtain ⟨document, there, member⟩ := sound.placed task within
    exact ⟨document, size ▸ there, (same document).2.2 ▸ member⟩
  tasks document within task member := by
    rw [(same document).2.2] at member
    rw [model, (same document).1, (same document).2.1]
    exact sound.tasks document (size ▸ within) task member
  sorted document within := by
    rw [(same document).2.2]
    exact sound.sorted document (size ▸ within)

theorem depend (sound : old.Sound) (asker needed : DocumentId) : (old.depend asker needed).Sound := by
  have keeps {α : Type} (look : Document -> α)
      (same : ∀ document : Document, ∀ dependencies,
        look { document with dependencies := dependencies } = look document) (id : DocumentId) :
      look ((old.depend asker needed).document id) = look (old.document id) := by
    refine keeps_changeDocument look old asker id fun document => ?_
    split
    · rfl
    · exact same document _
  exact sound.congr rfl (size_depend old asker needed) fun id =>
    ⟨keeps Document.state (fun _ _ => rfl) id, keeps Document.source (fun _ _ => rfl) id,
      keeps Document.tasks (fun _ _ => rfl) id⟩

theorem noteFailure (sound : old.Sound) (url : Url) (failure : Failure) :
    (old.noteFailure url failure).Sound :=
  sound.congr rfl rfl fun _ => ⟨rfl, rfl, rfl⟩

theorem withAlias (sound : old.Sound) (url canonical : Url) :
    (old.withAlias url canonical).Sound := by
  obtain ⟨byUrl, same⟩ := old.withAlias_eq url canonical
  rw [same]
  exact sound.congr rfl rfl fun _ => ⟨rfl, rfl, rfl⟩

end Sound

theorem sound_empty : empty.Sound where
  gathered := Model.gathered_empty
  order := rfl
  read _ within := absurd within (Nat.not_lt_zero _)
  owner id tag := absurd tag (Model.not_isTag_empty id)
  ranged _ within := absurd within (Nat.not_lt_zero _)
  distinct _ _ within := absurd within (Nat.not_lt_zero _)
  finished _ within := absurd within (Nat.not_lt_zero _)
  placed _ within := absurd within (Nat.not_lt_zero _)
  tasks _ within := absurd within (Nat.not_lt_zero _)
  sorted _ within := absurd within (Nat.not_lt_zero _)

theorem get_marks (queue : Queue) (tasks : List TaskId) (task : TaskId) :
    (tasks.foldl (fun queue task => queue.mark .done task) queue).size = queue.size ∧
      (tasks.foldl (fun queue task => queue.mark .done task) queue).get task =
        if task ∈ tasks ∧ task.index < queue.size then { queue.get task with status := .done }
        else queue.get task := by
  induction tasks generalizing queue with
  | nil => exact ⟨rfl, by simp⟩
  | cons first rest ih =>
      obtain ⟨size, get⟩ := ih (queue.mark .done first)
      rw [List.foldl_cons]
      refine ⟨size.trans (Queue.size_mark ..), get.trans ?_⟩
      rw [Queue.get_mark, Queue.size_mark]
      by_cases within : task.index < queue.size
      · by_cases same : task = first
        · simp [same, same ▸ within]
        · simp [same, within]
      · simp [within]

theorem feeding_marks (queue : Queue) (tasks : List TaskId) (owner : NodeId) :
    (tasks.foldl (fun queue task => queue.mark .done task) queue).feeding owner =
      queue.feeding owner := by
  induction tasks generalizing queue with
  | nil => rfl
  | cons first rest ih => exact (ih _).trans (Queue.feeding_mark ..)

theorem queue_abandon (model : Model) (tasks : Array TaskId) :
    (abandon model tasks).queue =
      tasks.toList.foldl (fun queue task => queue.mark .done task) model.queue := by
  simp [abandon, Array.foldl_toList]

theorem gathered_abandon {model : Model} (gathered : model.Gathered) (tasks : Array TaskId) :
    (abandon model tasks).Gathered where
  shaped := gathered.shaped.congr rfl (fun _ => rfl) gathered.shaped.registry (Nat.le_refl _)
    fun _ _ => rfl
  filed := gathered.filed
  homed := gathered.homed
  tallied := gathered.tallied
  queued := by
    refine gathered.queued.congr rfl (fun _ => rfl) (fun _ => rfl) ?_ ?_ ?_
    · rw [queue_abandon]
      exact (get_marks model.queue tasks.toList ⟨0⟩).1
    · intro task
      rw [queue_abandon, (get_marks model.queue tasks.toList task).2]
      split <;> rfl
    · intro owner
      rw [queue_abandon, feeding_marks]
  unworked := ⟨gathered.unworked.referent, gathered.unworked.base, gathered.unworked.waiting,
    gathered.unworked.declared⟩
  single := gathered.single

structure Joined (old new : Compilation) (draft : Draft) (document : Document) : Prop where
  documents : new.documents = old.documents.push document
  source : document.source = draft.document.source
  tasks : document.tasks = draft.document.tasks
  gathered : new.model.Gathered
  nodes : new.model.nodes = draft.model.nodes
  sources : new.model.sources = draft.model.sources
  order : new.model.order = draft.model.order
  size : new.model.queue.size = draft.model.queue.size
  taskNodes : ∀ task, (new.model.queue.get task).node = (draft.model.queue.get task).node
  earlier : ∀ task : TaskId, task.index < old.model.queue.size ->
    (new.model.queue.get task).status = (draft.model.queue.get task).status
  state : document.state = .finished ∧ draft.Complete old.model ∧
      (∀ task ∈ document.tasks, (new.model.queue.get task).status = .waiting) ∨
    document.state = .failed ∧ ∀ task ∈ document.tasks, (new.model.queue.get task).status = .done

namespace Joined

variable {old new : Compilation} {draft : Draft} {document : Document}

theorem size_documents (joined : Joined old new draft document) :
    new.documents.size = old.documents.size + 1 := by
  simp [joined.documents]

theorem get (joined : Joined old new draft document) (id : DocumentId) :
    new.document id = if id.index = old.documents.size then document else old.document id := by
  unfold Compilation.document
  rw [joined.documents]
  exact Numbered.getD_push ..

theorem last (joined : Joined old new draft document) :
    new.document ⟨old.documents.size⟩ = document := by
  rw [joined.get, if_pos rfl]

theorem before (joined : Joined old new draft document) {id : DocumentId}
    (within : id.index < old.documents.size) : new.document id = old.document id := by
  rw [joined.get, if_neg (Nat.ne_of_lt within)]

theorem either (joined : Joined old new draft document) {id : DocumentId}
    (within : id.index < new.documents.size) :
    id.index < old.documents.size ∨ id = ⟨old.documents.size⟩ := by
  rw [joined.size_documents] at within
  by_cases same : id.index = old.documents.size
  · exact Or.inr (congrArg DocumentId.mk same)
  · exact Or.inl (by omega)

theorem node (joined : Joined old new draft document) (id : NodeId) :
    new.model.node id = draft.model.node id := Draft.node_congr joined.nodes id

theorem isTag (joined : Joined old new draft document) {id : NodeId} (tag : new.model.IsTag id) :
    draft.model.IsTag id := ⟨tag.1, joined.nodes ▸ tag.2⟩

theorem core (joined : Joined old new draft document) (read : draft.Sound old.model) {id : NodeId}
    (inside : id.index < old.model.nodes.size) :
    (new.model.node id).core = (old.model.node id).core := by
  rw [joined.node]
  exact read.kept.core id inside

theorem oldSource (joined : Joined old new draft document) (read : draft.Sound old.model)
    {id : NodeId} (inside : id.index < old.model.nodes.size) :
    (new.model.node id).source = (old.model.node id).source :=
  Node.source_of_standing (Node.standing_of_core (joined.core read inside))

theorem newSource (joined : Joined old new draft document) (read : draft.Sound old.model)
    {id : NodeId} (tag : new.model.IsTag id) (above : old.model.nodes.size ≤ id.index) :
    (new.model.node id).source = document.source := by
  rw [joined.node, joined.source]
  exact read.source id ⟨joined.isTag tag, above⟩

theorem apart (joined : Joined old new draft document) (read : draft.Sound old.model)
    (sound : old.Sound) {there : DocumentId} (within : there.index < old.documents.size)
    {shared : SourceId} (one : (old.document there).source = some shared)
    (two : document.source = some shared) : False := by
  have below := sound.ranged there within shared one
  have above := (read.ranged shared (joined.source ▸ two)).1
  omega

theorem oldTask (joined : Joined old new draft document) (read : draft.Sound old.model)
    {task : TaskId} (within : task.index < old.model.queue.size) :
    new.model.queue.get task = old.model.queue.get task := by
  have statuses := joined.earlier task within
  have nodesOf := joined.taskNodes task
  rw [← read.kept.tasks task within]
  cases h : new.model.queue.get task
  cases h' : draft.model.queue.get task
  simp_all

theorem newTask (joined : Joined old new draft document) (read : draft.Sound old.model)
    (task : TaskId) : task ∈ document.tasks ↔
      old.model.queue.size ≤ task.index ∧ task.index < new.model.queue.size := by
  have more := read.kept.queue
  rw [joined.tasks, ← Array.mem_toList_iff, read.tasks, joined.size]
  obtain ⟨index⟩ := task
  simp only [List.mem_map, List.mem_range'_1, TaskId.mk.injEq, exists_eq_right]
  omega

theorem closed_old (joined : Joined old new draft document) (read : draft.Sound old.model)
    (sound : old.Sound) {id : DocumentId} (below : id.index < old.documents.size)
    (finished : (old.document id).state = .finished) {tag : NodeId} (isTag : new.model.IsTag tag)
    (same : (new.model.node tag).source = (old.document id).source) : new.model.Closed tag := by
  obtain ⟨begun, closed⟩ := sound.finished id below finished
  obtain ⟨shared, found⟩ := Option.ne_none_iff_exists'.mp begun
  have inside : tag.index < old.model.nodes.size := by
    refine Nat.not_le.mp fun above => ?_
    rw [joined.newSource read isTag above] at same
    exact joined.apart read sound below found (same.trans found)
  have core := joined.core read inside
  rw [joined.oldSource read inside] at same
  refine (closed tag ⟨isTag.1, inside⟩ same).mono
    (Node.kind_of_standing (Node.standing_of_core core)) ?_ ?_ ?_
  · exact fun resolved => (congrArg Node.isResolved core :).trans resolved
  · exact joined.size ▸ read.kept.queue
  · exact fun task within => congrArg Task.node (joined.oldTask read within)

theorem closed_new (joined : Joined old new draft document) (read : draft.Sound old.model)
    (sound : old.Sound) (complete : draft.Complete old.model) {tag : NodeId}
    (isTag : new.model.IsTag tag) (same : (new.model.node tag).source = document.source) :
    new.model.Closed tag := by
  have above : old.model.nodes.size ≤ tag.index := by
    refine Nat.not_lt.mp fun inside => ?_
    obtain ⟨owner, within, owned⟩ := sound.owner tag ⟨isTag.1, inside⟩
    obtain ⟨shared, found⟩ := Option.ne_none_iff_exists'.mp (joined.source ▸ complete.source)
    rw [joined.oldSource read inside, found] at same
    exact joined.apart read sound within (owned.symm.trans same) found
  refine (complete.closed tag ⟨joined.isTag isTag, above⟩).mono ?_ ?_ (Nat.le_of_eq joined.size.symm)
    fun task _ => joined.taskNodes task
  · rw [joined.node]
  · rw [joined.node]
    exact fun resolved => resolved

theorem task_new (joined : Joined old new draft document) (read : draft.Sound old.model)
    {task : TaskId} (member : task ∈ document.tasks) :
    task.index < new.model.queue.size ∧
      (new.model.node (new.model.queue.get task).node).source = document.source ∧
        (new.model.queue.get task).status =
          if document.state = .finished then .waiting else .done := by
  obtain ⟨above, inside⟩ := (joined.newTask read task).mp member
  refine ⟨inside, ?_, ?_⟩
  · have tag := (joined.gathered.queued.deferred task inside).1
    refine joined.newSource read tag ?_
    rw [joined.taskNodes]
    exact (read.waiting task above (joined.size ▸ inside)).1
  · rcases joined.state with ⟨finished, -, waiting⟩ | ⟨failed, done⟩
    · rw [if_pos finished]
      exact waiting task member
    · rw [failed, if_neg (by decide)]
      exact done task member

theorem sound (joined : Joined old new draft document) (read : draft.Sound old.model)
    (before_ : old.Sound) : new.Sound := by
  have kept := read.kept
  have count := joined.size_documents
  constructor
  case gathered => exact joined.gathered
  case order => exact (joined.order.trans kept.order).trans before_.order
  case read =>
    intro id within
    rcases joined.either within with below | rfl
    · rw [joined.before below]
      exact before_.read id below
    · rw [joined.last]
      exact joined.state.imp And.left And.left
  case owner =>
    intro id tag
    -- a tag is one of an earlier document, or new and then of the last one
    by_cases inside : id.index < old.model.nodes.size
    · obtain ⟨owner, within, same⟩ := before_.owner id ⟨tag.1, inside⟩
      refine ⟨owner, by omega, ?_⟩
      rw [joined.before within, joined.oldSource read inside]
      exact same
    · refine ⟨⟨old.documents.size⟩, by simp [count], ?_⟩
      rw [joined.last]
      exact joined.newSource read tag (Nat.not_lt.mp inside)
  case ranged =>
    intro id within there found
    rw [joined.sources]
    rcases joined.either within with below | rfl
    · rw [joined.before below] at found
      exact Nat.lt_of_lt_of_le (before_.ranged id below there found) kept.sources
    · rw [joined.last, joined.source] at found
      exact (read.ranged there found).2
  case distinct =>
    intro a b withinA withinB shared foundA foundB
    rcases joined.either withinA with belowA | rfl <;>
      rcases joined.either withinB with belowB | rfl
    · rw [joined.before belowA] at foundA
      rw [joined.before belowB] at foundB
      exact before_.distinct a b belowA belowB shared foundA foundB
    · rw [joined.before belowA] at foundA
      rw [joined.last] at foundB
      -- the source of the last document is new, so no earlier one has it
      exact (joined.apart read before_ belowA foundA foundB).elim
    · rw [joined.last] at foundA
      rw [joined.before belowB] at foundB
      exact (joined.apart read before_ belowB foundB foundA).elim
    · rfl
  case finished =>
    intro id within finished
    rcases joined.either within with below | rfl
    · rw [joined.before below] at finished ⊢
      exact ⟨(before_.finished id below finished).1, fun tag isTag same =>
        joined.closed_old read before_ below finished isTag same⟩
    · rw [joined.last] at finished ⊢
      rcases joined.state with ⟨-, complete, -⟩ | ⟨failed, -⟩
      · exact ⟨joined.source ▸ complete.source, fun tag isTag same =>
          joined.closed_new read before_ complete isTag same⟩
      · rw [failed] at finished
        cases finished
  case placed =>
    intro task within
    by_cases inside : task.index < old.model.queue.size
    · obtain ⟨owner, there, member⟩ := before_.placed task inside
      exact ⟨owner, by omega, by rw [joined.before there]; exact member⟩
    · refine ⟨⟨old.documents.size⟩, by simp [count], ?_⟩
      rw [joined.last]
      exact (joined.newTask read task).mpr ⟨Nat.not_lt.mp inside, within⟩
  case tasks =>
    intro id within task member
    rcases joined.either within with below | rfl
    · rw [joined.before below] at member ⊢
      obtain ⟨inside, same, status⟩ := before_.tasks id below task member
      have tag := (before_.gathered.queued.deferred task inside).1
      rw [joined.oldTask read inside, joined.oldSource read tag.2]
      exact ⟨Nat.lt_of_lt_of_le inside (joined.size ▸ kept.queue), same, status⟩
    · rw [joined.last] at member ⊢
      exact joined.task_new read member
  case sorted =>
    intro id within
    rcases joined.either within with below | rfl
    · rw [joined.before below]
      exact before_.sorted id below
    · rw [joined.last, joined.tasks, read.tasks]
      exact List.Pairwise.map _ (fun _ _ lower => lower) List.pairwise_lt_range'

end Joined

namespace Sound

variable {compilation : Compilation}

theorem joined (sound : compilation.Sound) (options : Options) (requested : Url)
    (adopted : Option String) (fetched : Fetched) {attempt : Attempt Draft}
    (read : Draft.read options.limits ⟨compilation.model, .fresh fetched.canonical requested adopted⟩
      fetched.bytes = attempt) :
    attempt.state.Sound compilation.model ∧ ∃ state,
      Joined compilation (compilation.parse options requested adopted fetched).compilation
        attempt.state { attempt.state.document with state := state } ∧
      (state = .finished -> attempt.failure = none) := by
  obtain ⟨draft, complete⟩ := @Draft.read_sound compilation.model sound.gathered
    (.fresh fetched.canonical requested adopted) rfl rfl options.limits fetched.bytes
  rw [read] at draft complete
  -- the tasks of the document are the new ones, so to give it up takes no other off the queue
  have own : ∀ task ∈ attempt.state.document.tasks,
      compilation.model.queue.size ≤ task.index ∧ task.index < attempt.state.model.queue.size := by
    intro task member
    have more := draft.kept.queue
    rw [← Array.mem_toList_iff, draft.tasks] at member
    obtain ⟨index, within, rfl⟩ := List.mem_map.mp member
    have bounds := List.mem_range'_1.mp within
    dsimp only
    omega
  unfold Compilation.parse
  dsimp only
  rw [read]
  refine ⟨draft, ?_⟩
  split
  next ended =>
    refine ⟨.finished, ⟨rfl, rfl, rfl, draft.gathered, rfl, rfl, rfl, rfl, fun _ => rfl,
      fun _ _ => rfl, Or.inl ⟨rfl, complete ended, fun task member => ?_⟩⟩, fun _ => ended⟩
    exact (draft.waiting task (own task member).1 (own task member).2).2
  next failure stopped =>
    refine ⟨.failed, ⟨rfl, rfl, rfl, gathered_abandon draft.gathered _, rfl, rfl, rfl, ?_, ?_, ?_,
      Or.inr ⟨rfl, fun task member => ?_⟩⟩, fun finished => by cases finished⟩
    · rw [queue_abandon]
      exact (get_marks _ _ ⟨0⟩).1
    · intro task
      rw [queue_abandon, (get_marks _ _ task).2]
      split <;> rfl
    · intro task within
      rw [queue_abandon, (get_marks _ _ task).2, if_neg]
      rintro ⟨member, -⟩
      have above := (own task (Array.mem_toList_iff.mp member)).1
      omega
    · dsimp only
      rw [queue_abandon, (get_marks _ _ task).2,
        if_pos ⟨Array.mem_toList_iff.mpr member, (own task member).2⟩]

theorem parse (sound : compilation.Sound) (options : Options) (requested : Url)
    (adopted : Option String) (fetched : Fetched) :
    (compilation.parse options requested adopted fetched).compilation.Sound := by
  obtain ⟨read, _, joined, -⟩ := sound.joined options requested adopted fetched rfl
  exact joined.sound read sound

theorem load (sound : compilation.Sound) (options : Options) (fetch : Fetch) (url : Url)
    (adopted : Option String) : (compilation.load options fetch url adopted).compilation.Sound := by
  have course := compilation.load_course options fetch url adopted
  generalize compilation.load options fetch url adopted = loaded at course ⊢
  cases course with
  | known | refused | missing => exact sound
  | elsewhere | large => exact sound.withAlias ..
  | taken => exact (sound.withAlias ..).parse ..

theorem serve (sound : compilation.Sound) (options : Options) (fetch : Fetch) (request : Request)
    (rest : List Request) :
    (Gathering.serve options fetch compilation request rest).compilation.Sound := by
  have loaded := sound.load options fetch request.url request.adopted
  unfold Gathering.serve
  dsimp only
  split
  · exact loaded.noteFailure ..
  · exact loaded.depend ..
  · exact loaded.depend ..

theorem run (sound : compilation.Sound) (options : Options) (fetch : Fetch)
    (requests : List Request) : (Gathering.run options fetch compilation requests).Sound := by
  fun_induction Gathering.run options fetch compilation requests with
  | case1 => exact sound
  | case2 compilation request rest next ih => exact ih (sound.serve options fetch request rest)

end Sound

def gather (options : Options) (fetch : Fetch) (url : Url) : Except Failure Compilation :=
  (Gathering.start options fetch url).map fun gathering =>
    Gathering.run options fetch gathering.compilation gathering.requests

theorem sound_gather {options : Options} {fetch : Fetch} {url : Url} {compilation : Compilation}
    (gathered : gather options fetch url = .ok compilation) : compilation.Sound := by
  have loaded := sound_empty.load options fetch url none
  unfold gather Gathering.start at gathered
  dsimp only at gathered
  split at gathered
  · cases gathered
  · cases gathered
    exact loaded.run ..
  · cases gathered
    exact loaded.run ..

theorem compile_eq (options : Options) (fetch : Fetch) (url : Url) :
    compile options fetch url = (gather options fetch url).map resolve := by
  unfold compile gather
  cases Gathering.start options fetch url <;> rfl

theorem compile_of_gather {options : Options} {fetch : Fetch} {url : Url} {read : Compilation}
    (gathered : gather options fetch url = .ok read) :
    compile options fetch url = .ok read.resolve := by
  rw [compile_eq, gathered]
  rfl

theorem compile_ok {options : Options} {fetch : Fetch} {url : Url} {compilation : Compilation}
    (compiled : compile options fetch url = .ok compilation) :
    ∃ read, gather options fetch url = .ok read ∧ read.Sound ∧ compilation = read.resolve := by
  rw [compile_eq] at compiled
  cases gathered : gather options fetch url with
  | error failure =>
      rw [gathered] at compiled
      cases compiled
  | ok read =>
      rw [gathered] at compiled
      cases compiled
      exact ⟨read, rfl, sound_gather gathered, rfl⟩

end Compilation

end XmlSchema

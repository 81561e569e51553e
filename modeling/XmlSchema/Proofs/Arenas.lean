import XmlSchema.Proofs.Climbing
import XmlSchema.Proofs.Documents.Exposure
import XmlSchema.Proofs.Documents.States
import XmlSchema.Proofs.Resolution.Completion
import XmlSchema.Proofs.Resolution.Founded
import XmlSchema.Proofs.Resolution.Settlement

set_option autoImplicit false

namespace XmlSchema

structure Node.Ranged (model : Model) (id : NodeId) (node : Node) : Prop where
  source : ∀ source, node.source = some source -> source.index < model.sources.size
  body : node.scope.index < model.scopes.size
  parent : ∀ outer, node.parent = some outer -> outer.index < id.index ∧
    (model.scopes.get node.scope).parent = some (model.node outer).scope
  targets : ∀ target ∈ node.targets, target.index < model.nodes.size

structure Scope.Ranged (model : Model) (id : ScopeId) (scope : Scope) : Prop where
  parent : ∀ outer, scope.parent = some outer -> outer.index < id.index
  home : ∀ home, scope.home = some home -> home.index < model.namespaces.size
  entries : ∀ kind, ∀ entry ∈ (scope.tables.get kind).entries,
    entry.2.target.index < model.nodes.size
  typeMarker : ∀ target, scope.typeMarker = some target -> target.index < model.nodes.size

structure Namespace.Ranged (model : Model) (entry : Namespace) : Prop where
  root : entry.root.index < model.scopes.size
  sources : ∀ source ∈ entry.sources, source.index < model.sources.size
  references : ∀ used ∈ entry.references, used.index < model.namespaces.size

structure Source.Ranged (model : Model) (source : Source) : Prop where
  target : source.target.index < model.namespaces.size
  defaultNamespace : ∀ id, source.defaultNamespace = some id -> id.index < model.namespaces.size

structure Queue.Ranged (nodes : Nat) (queue : Queue) : Prop where
  tasks : ∀ task : TaskId, task.index < queue.size -> (queue.get task).node.index < nodes
  feeders : ∀ owner tasks, queue.feeders[owner]? = some tasks ->
    owner < nodes ∧ ∀ task ∈ tasks, task.index < queue.size

/-- Every number that is stored in a model is the number of something that is there. -/
structure Model.Ranged (model : Model) : Prop where
  nodes : ∀ id : NodeId, id.index < model.nodes.size -> (model.node id).Ranged model id
  scopes : ∀ id : ScopeId, id.index < model.scopes.size -> (model.scopes.get id).Ranged model id
  namespaces : ∀ id : NamespaceId, id.index < model.namespaces.size ->
    (model.namespaces.get id).Ranged model
  byName : ∀ name id, model.namespaces.byName.get? name = some id ->
    id.index < model.namespaces.size
  byUrl : ∀ url id, model.namespaces.byUrl.get? url = some id -> id.index < model.namespaces.size
  builtins : model.namespaces.builtins.index < model.scopes.size
  sources : ∀ source : SourceId, source.index < model.sources.size ->
    (model.source source).Ranged model
  queue : model.queue.Ranged model.nodes.size
  order : ∀ id ∈ model.order, id.index < model.nodes.size

structure Document.Ranged (compilation : Compilation) (document : Document) : Prop where
  source : ∀ source, document.source = some source ->
    source.index < compilation.model.sources.size
  tasks : ∀ task ∈ document.tasks, task.index < compilation.model.queue.size

structure Compilation.Ranged (compilation : Compilation) : Prop where
  model : compilation.model.Ranged
  documents : ∀ id : DocumentId, id.index < compilation.documents.size ->
    (compilation.document id).Ranged compilation
  linked : compilation.Linked

structure Call.Ranged (model : Model) (call : Call) : Prop where
  task : call.task.index < model.queue.size
  node : call.node.index < model.nodes.size
  awaited : ∀ target, call.remainder.awaited = some target -> target.index < model.nodes.size
  base : ∀ target, call.remainder.target? = some target -> target.index < model.nodes.size
  rest : ∀ task ∈ call.rest, task.index < model.queue.size

/-- A state of a compilation, with all that is kept beside it: the documents still to be loaded, the
open tags of the one that is read, and the work that is under way. -/
structure Stage where
  compilation : Compilation
  requests : List Request
  frames : List Frame
  todo : List TaskId
  calls : List Call

namespace Stage

def model (stage : Stage) : Model := stage.compilation.model

def settled (compilation : Compilation) (requests : List Request) : Stage :=
  ⟨compilation, requests, [], [], []⟩

def working (read : Compilation) (pass : Pass) : Stage :=
  ⟨{ read with model := pass.model }, [], [], pass.todo, pass.calls⟩

structure Ranged (stage : Stage) : Prop where
  compilation : stage.compilation.Ranged
  requests : ∀ request ∈ stage.requests,
    request.asker.index < stage.compilation.documents.size
  frames : ∀ frame ∈ stage.frames, frame.Held stage.model
  todo : ∀ task ∈ stage.todo, task.index < stage.model.queue.size
  calls : ∀ call ∈ stage.calls, call.Ranged stage.model

end Stage

namespace Compilation

def during (compilation : Compilation) (requested canonical : Url) (reading : Reading) :
    Compilation :=
  { compilation with
    model := reading.model
    documents := compilation.documents.push reading.draft.document
    byUrl := compilation.enterUrls ⟨compilation.documents.size⟩ canonical requested }

end Compilation

namespace Stage

inductive Loads (options : Options) (fetch : Fetch) (old : Compilation) (requests : List Request)
    (url : Url) (adopted : Option String) : Stage -> Prop where
  | before : Loads options fetch old requests url adopted (settled old requests)
  | reading {fetched : Fetched} (count : Nat) {reading : Reading}
      (takes : old.Takes options fetch url (options.grants adopted) fetched)
      (reads : reading = old.reading options url (options.grants adopted) fetched.canonical
        ((Markup.scan fetched.bytes).items.take count)) :
      Loads options fetch old requests url adopted
        ⟨(old.withAlias url fetched.canonical).during url fetched.canonical reading, requests,
          reading.frames, [], []⟩
  | after : Loads options fetch old requests url adopted
      (settled (old.load options fetch url adopted).compilation requests)

/-- The stages of a compilation of the schema at a URL, whether it comes to anything or not. -/
inductive Arises (options : Options) (fetch : Fetch) (url : Url) : Stage -> Prop where
  | root {stage : Stage} (loads : Loads options fetch .empty [] url none stage) :
      Arises options fetch url stage
  | settled {gathering : Gathering} (arrives : Gathering.Arrives options fetch url gathering) :
      Arises options fetch url (settled gathering.compilation gathering.requests)
  | request {compilation : Compilation} {request : Request} {rest : List Request} {stage : Stage}
      (arrives : Gathering.Arrives options fetch url ⟨compilation, request :: rest⟩)
      (loads : Loads options fetch compilation (request :: rest) request.url request.adopted
        stage) : Arises options fetch url stage
  | work {read : Compilation} {pass : Pass}
      (gathered : Compilation.gather options fetch url = .ok read)
      (reaches : Pass.Reaches read.outset pass) :
      Arises options fetch url (working read pass)

end Stage

namespace Model

variable {model : Model}

theorem Ranged.lower (ranged : model.Ranged) (id outer : NodeId)
    (around : (model.node id).parent = some outer) : outer.index < id.index := by
  refine ((ranged.nodes id (Nat.not_le.mp fun outside => ?_)).parent outer around).1
  rw [node_of_size_le model outside] at around
  cases around

theorem Ranged.lowerScope (ranged : model.Ranged) (id outer : ScopeId)
    (around : (model.scopes.get id).parent = some outer) : outer.index < id.index := by
  refine (ranged.scopes id (Nat.not_le.mp fun outside => ?_)).parent outer around
  rw [Scopes.get_of_size_le _ outside] at around
  cases around

theorem Alike.ranged {start : Model} (alike : start.Alike model) (queued : start.Queued)
    (manned : model.Manned) : model.queue.Ranged model.nodes.size where
  tasks task within := by
    rw [alike.tasks] at within
    rw [alike.task, alike.size]
    exact (queued.deferred task within).1.2
  feeders owner tasks found := by
    have there : owner ∈ model.queue.feeders :=
      Std.TreeMap.mem_iff_isSome_getElem?.mpr (by rw [found]; rfl)
    refine ⟨manned owner there, fun task member => ?_⟩
    -- an entry that is there is what the body is fed by, which the work does not change
    have feeds : task ∈ model.queue.feeding ⟨owner⟩ := by
      simp [Queue.feeding, Std.TreeMap.getD_eq_getD_getElem?, found, member]
    rw [alike.feeding] at feeds
    rw [alike.tasks]
    exact ((queued.mem_feeding ⟨owner⟩ task).mp feeds).1

theorem Fits.awaited {id target : NodeId} {remainder : Remainder}
    (fits : model.Fits id remainder) (contained : model.Contained)
    (base : ∀ target, remainder.target? = some target -> target.index < model.nodes.size)
    (awaits : remainder.awaited = some target) : target.index < model.nodes.size := by
  cases remainder with
  | nothing => cases awaits
  | own => cases awaits
  | derivation => cases awaits
  | body name group members =>
      cases awaits
      -- the group is the referent of the tag that waits
      refine contained.targets id target (List.mem_append_left _ (List.mem_append_left _ ?_))
      exact Option.mem_toList.mpr fits.1
  | inheritance how type written =>
      cases awaits
      exact base target rfl

theorem ranged (shaped : model.Shaped) (filed : model.Filed) (contained : model.Contained) (allotted : model.Allotted) (founded : model.Founded)
    (queue : model.queue.Ranged model.nodes.size)
    (order : ∀ id ∈ model.order, id.index < model.nodes.size) : model.Ranged where
  nodes id _ :=
    ⟨allotted.sources id, founded.grounded.bodies id, fun _ around =>
      ⟨(shaped.standsIn around).lower, (shaped.standsIn around).scope⟩, contained.targets id⟩
  scopes id _ :=
    ⟨founded.grounded.scopes.lower id, founded.grounded.scopes.homes id, fun _ _ =>
      within_of_entry filed, contained.markers id⟩
  namespaces id within :=
    ⟨founded.grounded.scopes.rooted.inside id within, fun source listed =>
      ((allotted.listed id source).mp listed).1, founded.grounded.scopes.uses id⟩
  byName := founded.grounded.scopes.rooted.byName
  byUrl := founded.grounded.scopes.rooted.byUrl
  builtins := founded.grounded.scopes.rooted.builtins ▸ founded.grounded.scopes.floor
  sources source within := ⟨allotted.targets source within, founded.grounded.defaults source⟩
  queue := queue
  order := order

theorem Gathered.ranged (gathered : model.Gathered) (contained : model.Contained)
    (allotted : model.Allotted) (founded : model.Founded) (order : model.order = #[]) :
    model.Ranged := by
  refine Model.ranged gathered.shaped gathered.filed contained allotted founded
    ((Alike.refl model).ranged gathered.queued founded.manned) fun id done => ?_
  rw [order] at done
  exact absurd done (Array.not_mem_empty _)

end Model

theorem Pass.Scheduled.ranged {start : Model} {pass : Pass} (scheduled : Scheduled start pass)
    (gathered : start.Gathered) (contained : pass.Contained) {call : Call}
    (opened : call ∈ pass.calls)
    (rest : ∀ task ∈ call.rest, task.index < pass.model.queue.size) : call.Ranged pass.model where
  task := Queue.within_of_running ((scheduled.running call.task).mpr ⟨call, opened, rfl⟩)
  node := Nat.lt_of_lt_of_eq (scheduled.deferred_call gathered opened).1.2
    scheduled.alike.size.symm
  awaited _ := (scheduled.fits call opened).awaited contained.model (contained.calls call opened)
  base := contained.calls call opened
  rest := rest

theorem Draft.Sound.within_of_listed {start : Model} {draft : Draft} (sound : draft.Sound start)
    {task : TaskId} (listed : task ∈ draft.document.tasks) :
    task.index < draft.model.queue.size := by
  rw [← Array.mem_toList_iff, sound.tasks] at listed
  obtain ⟨index, inside, rfl⟩ := List.mem_map.mp listed
  have upper := (List.mem_range'_1.mp inside).2
  rwa [Nat.add_sub_cancel' sound.kept.queue] at upper

namespace Compilation

variable {options : Options} {fetch : Fetch} {url canonical requested : Url}
  {adopted : Option String} {old read : Compilation}

theorem Changes.ranged (changes : Changes options fetch .empty read) (linked : read.Linked) :
    read.Ranged where
  model := changes.sound.gathered.ranged changes.contained changes.allotted changes.founded
    changes.sound.order
  documents id within :=
    ⟨changes.sound.ranged id within, fun task listed =>
      (changes.sound.tasks id within task listed).1⟩
  linked := linked

theorem Changes.ranged_reading (changes : Changes options fetch .empty old) (options : Options)
    (requested : Url) (adopted : Option String) (canonical : Url) (items : List Markup.Item) :
    (old.reading options requested adopted canonical items).model.Ranged := by
  have drafted := sound_reading changes.sound options requested adopted canonical items
  have founded := (founded_reading changes.sound changes.founded options requested adopted
    canonical items).2
  have moves := (moves_steps options old.model (.fresh canonical requested adopted) rfl items).1
  exact drafted.gathered.ranged (moves.keeps changes.contained fun move => move.contained)
    (Draft.allotted_moves changes.allotted rfl moves) founded
    (drafted.kept.order.trans changes.sound.order)

theorem dependencies_reading (options : Options) (requested : Url) (adopted : Option String)
    (canonical : Url) (items : List Markup.Item) :
    (old.reading options requested adopted canonical items).draft.document.dependencies = #[] :=
  (congrArg Document.dependencies (moves_steps options old.model
    (.fresh canonical requested adopted) rfl items).2 :).trans (dependencies_titled ..)

theorem Changes.ranged_reaches (changes : Changes options fetch .empty read) {pass : Pass}
    (reaches : Pass.Reaches read.outset pass) : pass.model.Ranged := by
  have sound := changes.sound
  have poised := sound.poised
  have gathered := sound.gathered
  have scheduled := reaches.scheduled poised sound.scheduled
  have alike := scheduled.alike
  have contained := reaches.contained poised sound.scheduled ⟨changes.contained, nofun⟩
  have founded := reaches.founded poised sound.scheduled changes.founded
  refine Model.ranged (alike.shaped gathered.shaped) scheduled.filed
    contained.model
    (changes.allotted.carried (alike.carries (reaches.grows poised sound.scheduled))) founded
    (alike.ranged gathered.queued founded.manned) fun id done => ?_
  obtain ⟨task, worked, rfl⟩ := (scheduled.order id).mp (Array.mem_toList_iff.mpr done)
  rw [alike.size]
  exact (gathered.queued.deferred task (Model.within_of_waits worked.1)).1.2

section

variable (old) (reading : Reading)

theorem size_during : ((old.withAlias requested canonical).during requested canonical
    reading).documents.size = old.documents.size + 1 := by
  have documents := old.documents_withAlias requested canonical
  exact (Array.size_push _).trans (by rw [documents])

theorem document_during (id : DocumentId) :
    ((old.withAlias requested canonical).during requested canonical reading).document id =
      if id.index = old.documents.size then reading.draft.document else old.document id := by
  refine document_push ?_ id
  rw [during, documents_withAlias]

end

theorem Changes.during (changes : Changes options fetch .empty old) (linked : old.Linked)
    (options : Options) (requested : Url) (adopted : Option String) (canonical : Url)
    (items : List Markup.Item) :
    ((old.withAlias requested canonical).during requested canonical
      (old.reading options requested adopted canonical items)).Ranged := by
  have sound := changes.sound
  have drafted := sound_reading sound options requested adopted canonical items
  refine ⟨changes.ranged_reading options requested adopted canonical items, fun id within => ?_, ?_⟩
  · -- the document that is read comes last, and those before it are in range of what only grows
    rw [document_during]
    split
    next =>
      refine ⟨fun source there => (drafted.ranged source there).2, fun task listed => ?_⟩
      exact drafted.within_of_listed listed
    next apart =>
      rw [size_during] at within
      have older := Nat.lt_of_le_of_ne (Nat.le_of_lt_succ within) apart
      exact ⟨fun source there => Nat.lt_of_lt_of_le (sound.ranged id older source there)
          drafted.kept.sources, fun task listed =>
        Nat.lt_of_lt_of_le (sound.tasks id older task listed).1 drafted.kept.queue⟩
  · exact (linked.withAlias requested canonical).push
      (dependencies_reading options requested adopted canonical items) rfl rfl fun _ _ => .inr

end Compilation

namespace Stage

variable {options : Options} {fetch : Fetch} {url : Url} {adopted : Option String}
  {old : Compilation} {requests : List Request} {stage : Stage}

theorem ranged_settled {compilation : Compilation} (ranged : compilation.Ranged)
    (askers : ∀ request ∈ requests, request.asker.index < compilation.documents.size) :
    (settled compilation requests).Ranged :=
  ⟨ranged, askers, nofun, nofun, nofun⟩

theorem Loads.ranged (loads : Loads options fetch old requests url adopted stage)
    (changes : Compilation.Changes options fetch .empty old) (linked : old.Linked)
    (plain : adopted ≠ some "")
    (askers : ∀ request ∈ requests, request.asker.index < old.documents.size) : stage.Ranged := by
  cases loads with
  | before => exact ranged_settled (Compilation.Changes.ranged changes linked) askers
  | @reading fetched count reading takes reads =>
      have held := (Compilation.founded_reading changes.sound changes.founded options url
        (options.grants adopted) fetched.canonical
        ((Markup.scan fetched.bytes).items.take count)).1.frames
      have during := changes.during linked options url (options.grants adopted) fetched.canonical
        ((Markup.scan fetched.bytes).items.take count)
      rw [← reads] at held during
      refine ⟨during, fun request waits => ?_, held, nofun, nofun⟩
      exact Nat.lt_of_lt_of_eq (Nat.lt_succ_of_lt (askers request waits))
        (old.size_during reading).symm
  | after =>
      have loaded := changes.trans (Compilation.changes_load options fetch old url plain)
      exact ranged_settled (Compilation.Changes.ranged loaded
        (linked.load options fetch url adopted).1) fun request waits =>
          Nat.lt_of_lt_of_le (askers request waits) (old.size_load_le ..)

theorem ranged_working {read : Compilation} {pass : Pass}
    (changes : Compilation.Changes options fetch .empty read) (linked : read.Linked)
    (reaches : Pass.Reaches read.outset pass) : (working read pass).Ranged := by
  have sound := changes.sound
  have before := Compilation.Changes.ranged changes linked
  have scheduled := reaches.scheduled sound.poised sound.scheduled
  have contained := reaches.contained sound.poised sound.scheduled ⟨changes.contained, nofun⟩
  have listed := reaches.listed sound.poised sound.scheduled sound.listed
  have tasks : read.model.queue.size = pass.model.queue.size := scheduled.alike.tasks.symm
  have sources : read.model.sources = pass.model.sources := scheduled.alike.sources.symm
  refine ⟨⟨changes.ranged_reaches reaches, fun id within => ?_,
    ⟨linked.byUrl, linked.variants, linked.dependencies⟩⟩, nofun, nofun, fun task waits => ?_,
    fun call opened => ?_⟩
  · obtain ⟨source, there⟩ := before.documents id within
    exact ⟨fun number own => Nat.lt_of_lt_of_eq (source number own) (congrArg Array.size sources),
      fun task own => Nat.lt_of_lt_of_eq (there task own) tasks⟩
  · exact Nat.lt_of_lt_of_eq (listed.todo task waits) tasks
  · exact scheduled.ranged sound.gathered contained opened fun task waits =>
      Nat.lt_of_lt_of_eq (listed.rest call opened task waits) tasks

theorem Arises.ranged (arises : Arises options fetch url stage) : stage.Ranged := by
  cases arises with
  | root loads =>
      exact loads.ranged .refl Compilation.linked_empty nofun nofun
  | settled arrives =>
      have linked := arrives.linked
      exact ranged_settled (Compilation.Changes.ranged arrives.changes linked.compilation)
        linked.askers
  | request arrives loads =>
      have linked := arrives.linked
      have asked := arrives.changes_requests.2 _ List.mem_cons_self
      exact loads.ranged arrives.changes linked.compilation (asked.adopted_ne arrives.reads)
        linked.askers
  | work gathered reaches =>
      have arrives := Compilation.gather_arrives gathered
      exact ranged_working arrives.changes arrives.linked.compilation reaches

theorem reached_arises {model : Model} (reached : Compilation.Reached options fetch url model) :
    ∃ stage, Arises options fetch url stage ∧ stage.model = model := by
  have stages {old : Compilation} {adopted : Option String} {url : Url} {model : Model}
      (requests : List Request) (loading : old.Loading options fetch url adopted model) :
      ∃ stage, Loads options fetch old requests url adopted stage ∧ stage.model = model := by
    cases loading with
    | before => exact ⟨_, .before, rfl⟩
    | reading count takes => exact ⟨_, .reading count takes rfl, rfl⟩
    | after => exact ⟨_, .after, rfl⟩
  cases reached with
  | root loading =>
      obtain ⟨stage, loads, same⟩ := stages [] loading
      exact ⟨stage, .root loads, same⟩
  | request arrives loading =>
      obtain ⟨stage, loads, same⟩ := stages _ loading
      exact ⟨stage, .request arrives loads, same⟩
  | work gathered reaches => exact ⟨_, .work gathered reaches, rfl⟩

/-- The arenas stay well formed. In every state of a compilation, while documents are read, after some
have failed and while deferred tags are worked on, all that is stored as the number of something is the
number of something that is there; what stands around a node or a scope has a lower number, and the
scope around a node's body is the body of the node around it. So the loops that go outwards look at
nothing that is not there, and come to an end. -/
theorem arises_ranged (arises : Arises options fetch url stage) :
    stage.Ranged ∧
      (∀ id : NodeId, id.index < stage.model.nodes.size ->
        (∀ accepts, Loops (stage.model.climb accepts) (stage.model.node id).parent
          (stage.model.enclosing id accepts)) ∧
        Loops stage.model.feed ([id], (stage.model.node id).parent) (stage.model.fed id)) ∧
      ∀ id : ScopeId, id.index < stage.model.scopes.size ->
        (∀ kind name, Loops (stage.model.scopes.seek kind name) (some id)
          (stage.model.scopes.findLocal id kind name)) ∧
        ∀ outer, Loops (stage.model.scopes.meets outer) (some id)
          (stage.model.scopes.isWithin id outer) := by
  have ranged := arises.ranged
  have nodes := ranged.compilation.model.lower
  have scopes := ranged.compilation.model.lowerScope
  exact ⟨ranged, fun id within => ⟨fun accepts => Model.loops_climb nodes accepts within,
    Model.loops_feed nodes [id] within⟩, fun id within => ⟨fun kind name =>
      Scopes.loops_seek scopes kind name within, fun outer =>
        Scopes.loops_meets scopes outer within⟩⟩

def awaitingText : String :=
  "<x:schema xmlns:x='http://www.w3.org/2001/XMLSchema'>" ++
    "<x:complexType name='t'><x:group ref='g'/></x:complexType><x:group name='g'><x:sequence>" ++
      "<x:element name='a'/></x:sequence></x:group></x:schema>"

set_option maxRecDepth 100000 in
theorem arises_ranged_awaiting :
    ∃ stage, Arises .standard (Compilation.serving awaitingText) Compilation.someUrl stage ∧
      stage.calls.map (fun call => call.remainder.awaited) = [some ⟨49⟩] ∧
      stage.todo = [⟨1⟩, ⟨2⟩, ⟨3⟩] ∧
      ∀ result, Loops (stage.model.climb Kind.ownsWildcards) (stage.model.node ⟨51⟩).parent result ↔
        result = some ⟨49⟩ := by
  obtain ⟨read, gathered, size, alone, duties, waits, within, awaited, todo, around⟩ :=
    @Compilation.gather_of_served .standard (Compilation.serving awaitingText)
      Compilation.someUrl (fun read =>
      read.documents.size = 1 ∧
        (∀ index < read.documents.size, (read.document ⟨index⟩).dependencies = #[]) ∧
        read.duties ⟨0⟩ = [⟨0⟩, ⟨1⟩, ⟨2⟩, ⟨3⟩] ∧
        (read.model.queue.get ⟨0⟩).status = .waiting ∧
        51 < (read.entered [⟨1⟩, ⟨2⟩, ⟨3⟩]).model.nodes.size ∧
        (read.entered [⟨1⟩, ⟨2⟩, ⟨3⟩]).calls.map
          (fun call => call.remainder.awaited) = [some ⟨49⟩] ∧
        (read.entered [⟨1⟩, ⟨2⟩, ⟨3⟩]).todo = [⟨1⟩, ⟨2⟩, ⟨3⟩] ∧
        (read.entered [⟨1⟩, ⟨2⟩, ⟨3⟩]).model.enclosing ⟨51⟩
          Kind.ownsWildcards = some ⟨49⟩) _ 0 (by
            rw [Compilation.serving_eq]
            decide +kernel)
  have agenda : read.agenda = [⟨0⟩, ⟨1⟩, ⟨2⟩, ⟨3⟩] := by
    rw [Compilation.agenda_of_edgeless alone, size]
    simp [duties]
  have arises := Arises.work gathered (Compilation.reaches_entered agenda waits)
  obtain ⟨-, walks, -⟩ := arises_ranged arises
  have climbs := (walks ⟨51⟩ within).1 Kind.ownsWildcards
  exact ⟨_, arises, awaited, todo, fun result =>
    ⟨fun other => (other.unique climbs).trans around, fun same => same.trans around.symm ▸ climbs⟩⟩

end Stage

end XmlSchema

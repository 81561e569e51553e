import XmlSchema.Proofs.Arenas
import XmlSchema.Proofs.Reading.Sources
import XmlSchema.Proofs.Resolution.Scanning

set_option autoImplicit false

namespace XmlSchema

namespace Queue

theorem sorted_ext {one other : List TaskId} (sortedOne : one.Pairwise fun a b => a.index < b.index)
    (sortedOther : other.Pairwise fun a b => a.index < b.index)
    (same : ∀ task, task ∈ one ↔ task ∈ other) : one = other := by
  have once {tasks : List TaskId} (sorted : tasks.Pairwise fun a b => a.index < b.index) :
      tasks.Nodup := by
    apply sorted.imp
    rintro a b lower rfl
    exact Nat.lt_irrefl _ lower
  have perm := (List.perm_ext_iff_of_nodup (once sortedOne) (once sortedOther)).mpr same
  apply perm.eq_of_pairwise _ sortedOne sortedOther
  intro a b _ _ lower higher
  exact absurd higher (Nat.lt_asymm lower)

end Queue

def Model.origin (model : Model) (task : TaskId) : Option SourceId :=
  (model.node (model.queue.get task).node).source

namespace Compilation

/-- Every task stands in the list of one document, which is the one that its tag was read from, and
the lists are in queue order. -/
structure Apportioned (compilation : Compilation) : Prop where
  listed : ∀ document : DocumentId, document.index < compilation.documents.size ->
    ∀ task ∈ (compilation.document document).tasks, task.index < compilation.model.queue.size ∧
      compilation.model.origin task = (compilation.document document).source
  placed : ∀ task : TaskId, task.index < compilation.model.queue.size ->
    ∃ document : DocumentId, document.index < compilation.documents.size ∧
      task ∈ (compilation.document document).tasks
  sourced : ∀ task : TaskId, task.index < compilation.model.queue.size ->
    compilation.model.origin task ≠ none
  distinct : ∀ a b : DocumentId, a.index < compilation.documents.size ->
    b.index < compilation.documents.size -> ∀ source, (compilation.document a).source = some source ->
      (compilation.document b).source = some source -> a = b
  sorted : ∀ document : DocumentId, document.index < compilation.documents.size ->
    (compilation.document document).tasks.toList.Pairwise fun a b => a.index < b.index

namespace Apportioned

variable {compilation : Compilation} {document : DocumentId} {task : TaskId}

theorem mem_tasks (apportioned : compilation.Apportioned)
    (within : document.index < compilation.documents.size) :
    task ∈ (compilation.document document).tasks ↔ task.index < compilation.model.queue.size ∧
      compilation.model.origin task = (compilation.document document).source := by
  refine ⟨apportioned.listed document within task, ?_⟩
  rintro ⟨inside, same⟩
  obtain ⟨other, there, member⟩ := apportioned.placed task inside
  obtain ⟨source, found⟩ := Option.ne_none_iff_exists'.mp (apportioned.sourced task inside)
  have listed := (apportioned.listed other there task member).2
  obtain rfl := apportioned.distinct document other within there source (same.symm.trans found)
    (listed.symm.trans found)
  exact member

theorem tasks_eq (apportioned : compilation.Apportioned)
    (within : document.index < compilation.documents.size) :
    (compilation.document document).tasks.toList = compilation.model.queue.all.filter fun task =>
      decide (compilation.model.origin task = (compilation.document document).source) := by
  apply Queue.sorted_ext (apportioned.sorted document within)
  · exact compilation.model.queue.sorted_all.filter _
  · intro task
    rw [Array.mem_toList_iff, apportioned.mem_tasks within, List.mem_filter, Queue.mem_all,
      decide_eq_true_eq]

theorem existsUnique (apportioned : compilation.Apportioned)
    (inside : task.index < compilation.model.queue.size) :
    ∃! document : DocumentId, document.index < compilation.documents.size ∧
      task ∈ (compilation.document document).tasks := by
  obtain ⟨document, within, member⟩ := apportioned.placed task inside
  refine ⟨document, ⟨within, member⟩, ?_⟩
  rintro other ⟨there, again⟩
  obtain ⟨source, found⟩ := Option.ne_none_iff_exists'.mp (apportioned.sourced task inside)
  have one := (apportioned.listed document within task member).2
  have two := (apportioned.listed other there task again).2
  exact apportioned.distinct other document there within source (two.symm.trans found)
    (one.symm.trans found)

theorem lasts {model : Model} (apportioned : compilation.Apportioned)
    (alike : compilation.model.Alike model) : { compilation with model := model }.Apportioned := by
  have origin (task : TaskId) : model.origin task = compilation.model.origin task := by
    simp only [Model.origin, alike.task, alike.source]
  refine ⟨fun document within task member => ?_, fun task inside => ?_, fun task inside => ?_,
    apportioned.distinct, apportioned.sorted⟩
  · obtain ⟨inside, same⟩ := apportioned.listed document within task member
    exact ⟨alike.tasks.symm ▸ inside, (origin task).trans same⟩
  · exact apportioned.placed task (alike.tasks ▸ inside)
  · rw [origin]
    exact apportioned.sourced task (alike.tasks ▸ inside)

end Apportioned

variable {options : Options} {fetch : Fetch} {old : Compilation}

theorem Sound.apportioned (sound : old.Sound) (owned : old.Owned) : old.Apportioned where
  listed document within task member :=
    ⟨(sound.tasks document within task member).1, (sound.tasks document within task member).2.1⟩
  placed := sound.placed
  sourced task inside := owned.tags _ (sound.gathered.queued.deferred task inside).1
  distinct := sound.distinct
  sorted := sound.sorted

theorem Apportioned.push {new : Compilation} (apportioned : old.Apportioned) {document : Document}
    (documents : new.documents.size = old.documents.size + 1)
    (get : ∀ id : DocumentId, new.document id =
      if id.index = old.documents.size then document else old.document id)
    (more : old.model.queue.size ≤ new.model.queue.size)
    (earlier : ∀ task : TaskId, task.index < old.model.queue.size ->
      new.model.origin task = old.model.origin task)
    (later : ∀ task : TaskId, old.model.queue.size ≤ task.index ->
      task.index < new.model.queue.size -> new.model.origin task = document.source)
    (sourced : ∀ task : TaskId, task.index < new.model.queue.size -> new.model.origin task ≠ none)
    (apart : ∀ id : DocumentId, id.index < old.documents.size -> ∀ source,
      (old.document id).source = some source -> document.source ≠ some source)
    (tasks : document.tasks.toList = (List.range' old.model.queue.size
      (new.model.queue.size - old.model.queue.size)).map TaskId.mk) : new.Apportioned := by
  have either {id : DocumentId} (within : id.index < new.documents.size) :
      id.index < old.documents.size ∨ id = ⟨old.documents.size⟩ := by
    obtain ⟨index⟩ := id
    simp only [DocumentId.mk.injEq] at within ⊢
    omega
  have before {id : DocumentId} (below : id.index < old.documents.size) :
      new.document id = old.document id := by
    rw [get, if_neg (Nat.ne_of_lt below)]
  have last : new.document ⟨old.documents.size⟩ = document := by
    rw [get, if_pos rfl]
  -- the list of the new document is what has been put off since
  have mem (task : TaskId) : task ∈ document.tasks ↔
      old.model.queue.size ≤ task.index ∧ task.index < new.model.queue.size := by
    obtain ⟨index⟩ := task
    rw [← Array.mem_toList_iff, tasks]
    simp only [List.mem_map, List.mem_range'_1, TaskId.mk.injEq, exists_eq_right]
    omega
  refine ⟨fun id within task member => ?listed, fun task inside => ?placed, sourced,
    fun a b withinA withinB source ownA ownB => ?distinct, fun id within => ?sorted⟩
  case listed =>
    rcases either within with below | rfl
    · rw [before below] at member ⊢
      obtain ⟨inside, same⟩ := apportioned.listed id below task member
      exact ⟨Nat.lt_of_lt_of_le inside more, (earlier task inside).trans same⟩
    · rw [last] at member ⊢
      obtain ⟨above, inside⟩ := (mem task).mp member
      exact ⟨inside, later task above inside⟩
  case placed =>
    by_cases older : task.index < old.model.queue.size
    · obtain ⟨id, within, member⟩ := apportioned.placed task older
      exact ⟨id, by omega, by rwa [before within]⟩
    · refine ⟨⟨old.documents.size⟩, by simp [documents], ?_⟩
      rw [last]
      exact (mem task).mpr ⟨Nat.not_lt.mp older, inside⟩
  case distinct =>
    rcases either withinA with belowA | rfl <;> rcases either withinB with belowB | rfl
    · rw [before belowA] at ownA
      rw [before belowB] at ownB
      exact apportioned.distinct a b belowA belowB source ownA ownB
    · rw [before belowA] at ownA
      -- two documents of one source: the new one has a source of its own
      exact absurd (last ▸ ownB) (apart a belowA source ownA)
    · rw [before belowB] at ownB
      exact absurd (last ▸ ownA) (apart b belowB source ownB)
    · rfl
  case sorted =>
    rcases either within with below | rfl
    · rw [before below]
      exact apportioned.sorted id below
    · rw [last, tasks]
      exact List.Pairwise.map _ (fun _ _ lower => lower) List.pairwise_lt_range'

theorem Changes.apportioned_during (changes : Changes options fetch .empty old) (options : Options)
    (requested : Url) (adopted : Option String) (canonical : Url) (items : List Markup.Item) :
    ((old.withAlias requested canonical).during requested canonical
      (old.reading options requested adopted canonical items)).Apportioned := by
  have sound := changes.sound
  have drafted := sound_reading sound options requested adopted canonical items
  have moves := (moves_steps options old.model (.fresh canonical requested adopted) rfl items).1
  have sourced : Draft.Sourced old.model.sources.size
      (old.reading options requested adopted canonical items).draft :=
    moves.keeps ⟨.inl ⟨rfl, rfl⟩, changes.owned.tags⟩ fun move => move.sourced
  have tag {task : TaskId} (inside : task.index <
      (old.reading options requested adopted canonical items).draft.model.queue.size) :=
    (drafted.gathered.queued.deferred task inside).1
  refine (sound.apportioned changes.owned).push (size_during old _) (document_during old _)
    drafted.kept.queue (fun task inside => ?earlier) (fun task above inside => ?later)
    (fun task inside => sourced.tags _ (tag inside)) (fun id within source own again => ?apart)
    drafted.tasks
  case earlier =>
    have there := (sound.gathered.queued.deferred task inside).1.2
    have same := drafted.kept.tasks task inside
    exact (congrArg (fun task => (Model.node _ task.node).source) same).trans
      (Node.source_of_standing (Node.standing_of_core (drafted.kept.core _ there)))
  case later =>
    exact drafted.source _ ⟨tag inside, (drafted.waiting task above inside).1⟩
  case apart =>
    have below := sound.ranged id within source own
    have above := (drafted.ranged source again).1
    omega

end Compilation

namespace Stage

structure Indexed (stage : Stage) : Prop where
  feeders : stage.model.Indexed
  lists : stage.compilation.Apportioned

variable {options : Options} {fetch : Fetch} {url : Url} {adopted : Option String}
  {old : Compilation} {requests : List Request} {stage : Stage}

theorem indexed_settled {compilation : Compilation}
    (changes : Compilation.Changes options fetch .empty compilation) (requests : List Request) :
    (settled compilation requests).Indexed :=
  ⟨changes.sound.gathered.queued.indexed, changes.sound.apportioned changes.owned⟩

theorem Loads.indexed (loads : Loads options fetch old requests url adopted stage)
    (changes : Compilation.Changes options fetch .empty old) (plain : adopted ≠ some "") :
    stage.Indexed := by
  cases loads with
  | before => exact indexed_settled changes requests
  | @reading fetched count reading takes reads =>
      have drafted := Compilation.sound_reading changes.sound options url (options.grants adopted)
        fetched.canonical ((Markup.scan fetched.bytes).items.take count)
      have during := changes.apportioned_during options url (options.grants adopted)
        fetched.canonical ((Markup.scan fetched.bytes).items.take count)
      rw [← reads] at drafted during
      exact ⟨drafted.gathered.queued.indexed, during⟩
  | after =>
      have loaded := changes.trans (Compilation.changes_load options fetch old url plain)
      exact indexed_settled loaded requests

theorem Arises.indexed (arises : Arises options fetch url stage) : stage.Indexed := by
  cases arises with
  | root loads => exact loads.indexed .refl nofun
  | settled arrives => exact indexed_settled arrives.changes _
  | request arrives loads =>
      have asked := arrives.changes_requests.2 _ List.mem_cons_self
      exact loads.indexed arrives.changes (asked.adopted_ne arrives.reads)
  | @work read pass gathered reaches =>
      have sound := Compilation.sound_gather gathered
      have alike := (reaches.scheduled sound.poised sound.scheduled).alike
      have before := indexed_settled (Compilation.gather_arrives gathered).changes []
      exact ⟨alike.indexed before.feeders, before.lists.lasts alike⟩

/-- In every state of a compilation, while documents are read, after some have failed and while
deferred tags are worked on, the table of feeders and the lists of the documents are what going
through the queue finds. So to drain what feeds a body is to go through the whole queue from its
start, asking of each task whether its tag adds to the body: it ends in the same state, with the
same answer, and has run the same tasks in the same order, also where those that it runs look for
what they need in the queue themselves. -/
theorem arises_indexed (arises : Arises options fetch url stage) :
    (∀ owner : NodeId,
      stage.model.queue.feeding owner = stage.model.queue.all.filter (fun task =>
        decide (stage.model.Feeds (stage.model.queue.get task).node owner)) ∧
      (stage.model.queue.feeding owner).Pairwise fun a b => a.index < b.index) ∧
    (∀ document : DocumentId, document.index < stage.compilation.documents.size ->
      (stage.compilation.document document).tasks.toList =
        stage.model.queue.all.filter (fun task =>
          decide (stage.model.origin task = (stage.compilation.document document).source)) ∧
      (stage.compilation.document document).tasks.toList.Pairwise fun a b => a.index < b.index) ∧
    (∀ task : TaskId, task.index < stage.model.queue.size ->
      ∃! document : DocumentId, document.index < stage.compilation.documents.size ∧
        task ∈ (stage.compilation.document document).tasks) ∧
    ∀ fuel, (∀ task, stage.model.runWith fuel task = stage.model.scanWith fuel task) ∧
      ∀ owner : NodeId,
        let drained := stage.model.sweep (Model.runWith fuel) (fun _ _ => true)
          (stage.model.queue.feeding owner)
        stage.model.drain (Model.runWith fuel) (stage.model.queue.feeding owner) =
          (drained.model, drained.complete) ∧
        drained = stage.model.scan (Model.runWith fuel) owner ∧
        drained = stage.model.scan (Model.scanWith fuel) owner := by
  have indexed := arises.indexed
  refine ⟨fun owner => ⟨indexed.feeders owner, ?ordered⟩, ?lists, ?single, fun fuel =>
    ⟨Model.runWith_eq_scanWith fuel indexed.feeders,
      fun owner => ⟨Model.drain_eq_sweep .., ?_, ?_⟩⟩⟩
  case ordered =>
    rw [indexed.feeders owner]
    exact stage.model.queue.sorted_all.filter _
  case lists =>
    intro document within
    exact ⟨indexed.lists.tasks_eq within, indexed.lists.sorted document within⟩
  case single =>
    intro task inside
    exact indexed.lists.existsUnique inside
  · exact Model.sweep_feeding (Model.alike_runWith fuel) indexed.feeders owner
  · exact Model.drain_feeding indexed.feeders fuel owner

def shelteringText : String :=
  "<x:schema xmlns:x='http://www.w3.org/2001/XMLSchema'>" ++
    "<x:complexType name='t'><x:group ref='g'/></x:complexType><x:group name='g'><x:sequence>" ++
      "<x:element name='a'><x:complexType><x:sequence/></x:complexType></x:element></x:sequence>" ++
        "</x:group></x:schema>"

set_option maxRecDepth 100000 in
theorem arises_indexed_sheltering :
    ∃ stage, Arises .standard (Compilation.serving shelteringText) Compilation.someUrl stage ∧
      stage.model.queue.size = 5 ∧ stage.model.queue.feeding ⟨49⟩ = [⟨2⟩, ⟨3⟩, ⟨4⟩] ∧
      (stage.model.scan (Model.scanWith 6) ⟨49⟩).ran = [⟨2⟩, ⟨3⟩, ⟨4⟩] ∧
      (stage.model.drain (Model.runWith 6) [⟨2⟩, ⟨3⟩, ⟨4⟩]).2 =
        (stage.model.scan (Model.scanWith 6) ⟨49⟩).complete := by
  obtain ⟨read, gathered, size, alone, duties, waits, tasks, feeding, ran⟩ :=
    @Compilation.gather_of_served .standard (Compilation.serving shelteringText)
      Compilation.someUrl (fun read =>
      read.documents.size = 1 ∧
        (∀ index < read.documents.size, (read.document ⟨index⟩).dependencies = #[]) ∧
        read.duties ⟨0⟩ = [⟨0⟩, ⟨1⟩, ⟨2⟩, ⟨3⟩, ⟨4⟩] ∧
        (read.model.queue.get ⟨0⟩).status = .waiting ∧
        (read.entered [⟨1⟩, ⟨2⟩, ⟨3⟩, ⟨4⟩]).model.queue.size = 5 ∧
        (read.entered [⟨1⟩, ⟨2⟩, ⟨3⟩, ⟨4⟩]).model.queue.feeding ⟨49⟩ =
          [⟨2⟩, ⟨3⟩, ⟨4⟩] ∧
        ((read.entered [⟨1⟩, ⟨2⟩, ⟨3⟩, ⟨4⟩]).model.sweep (Model.runWith 6)
          (fun _ _ => true) [⟨2⟩, ⟨3⟩, ⟨4⟩]).ran = [⟨2⟩, ⟨3⟩, ⟨4⟩]) _ 0 (by
            rw [Compilation.serving_eq]
            decide +kernel)
  have agenda : read.agenda = [⟨0⟩, ⟨1⟩, ⟨2⟩, ⟨3⟩, ⟨4⟩] := by
    rw [Compilation.agenda_of_edgeless alone, size]
    simp [duties]
  have arises := Arises.work gathered (Compilation.reaches_entered agenda waits)
  obtain ⟨-, -, -, runs⟩ := arises_indexed arises
  obtain ⟨drained, -, scanned⟩ := (runs 6).2 ⟨49⟩
  have found :
      (working read (read.entered [⟨1⟩, ⟨2⟩, ⟨3⟩, ⟨4⟩])).model.queue.feeding ⟨49⟩ =
        [⟨2⟩, ⟨3⟩, ⟨4⟩] := feeding
  rw [found] at drained scanned
  refine ⟨_, arises, tasks, feeding, ?_, ?_⟩
  · exact (congrArg Sweep.ran scanned).symm.trans ran
  · rw [drained, scanned]

end Stage

end XmlSchema

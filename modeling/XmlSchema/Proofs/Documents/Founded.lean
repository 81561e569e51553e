import XmlSchema.Proofs.Documents.Labels
import XmlSchema.Proofs.Documents.Service
import XmlSchema.Proofs.Reading.Grounded

set_option autoImplicit false

namespace XmlSchema

theorem Queue.mem_foldl_enter {feeders : Feeders} {id : TaskId} {owners : List NodeId} {key : Nat}
    (there : key ∈ owners.foldl (fun feeders owner => enter feeders id owner) feeders) :
    key ∈ feeders ∨ ∃ owner ∈ owners, owner.index = key := by
  induction owners generalizing feeders with
  | nil => exact .inl there
  | cons owner rest ih =>
      rcases ih there with entered | ⟨other, member, same⟩
      next =>
        simp only [Queue.enter, Std.TreeMap.mem_alter] at entered
        split at entered
        next same => exact .inr ⟨owner, List.mem_cons_self, Nat.compare_eq_eq.mp same⟩
        next => exact .inl entered
      next => exact .inr ⟨other, List.mem_cons_of_mem _ member, same⟩

namespace Model

def Manned (model : Model) : Prop := ∀ owner ∈ model.queue.feeders, owner < model.nodes.size

structure Founded (model : Model) : Prop where
  grounded : model.Grounded
  manned : model.Manned

variable {model : Model}

theorem Manned.defer (manned : model.Manned) (shaped : model.Shaped) {id : NodeId}
    (inside : id.index < model.nodes.size) : (model.defer id).Manned := by
  intro owner there
  rcases Queue.mem_foldl_enter there with before | ⟨fed, member, rfl⟩
  next => exact manned owner before
  next =>
    rcases (mem_fed model id fed).mp member with rfl | ⟨around, -⟩
    · exact inside
    · exact (shaped.of_mem_ancestors around).1.2

theorem founded_empty : empty.Founded where
  grounded := grounded_empty
  manned _ there := absurd there Std.TreeMap.not_mem_emptyc

end Model

namespace Draft

variable {first : Nat} {old new : Draft}

theorem Edit.manned {declaring : Option NodeId} (edit : Edit first declaring old new)
    (shaped : old.model.Shaped) (manned : old.model.Manned) : new.model.Manned := by
  have kept {model : Model} (size : old.model.nodes.size ≤ model.nodes.size)
      (queue : model.queue = old.model.queue) : model.Manned := fun owner there =>
    Nat.lt_of_lt_of_le (manned owner (queue ▸ there)) size
  cases edit with
  | deferred _ id owned => exact manned.defer shaped owned.1.2
  | tag => exact kept (by simp) rfl
  | noted => exact kept (by simp) rfl
  | bounded => exact kept (by simp [Model.setOccurs]) rfl
  | named => exact kept (Nat.le_of_eq Model.size_enter.symm) rfl
  | sourced => exact kept (by simp) rfl
  | resolved => exact kept (by simp) rfl
  | document => exact manned
  | registered => exact manned
  | marked => exact manned
  | body => exact manned

theorem Sound.manned {start : Model} {draft : Draft} (sound : draft.Sound start)
    (base : start.Gathered) (manned : start.Manned) : draft.model.Manned := by
  obtain ⟨document, edits⟩ := sound.edited
  suffices both : draft.model.Gathered ∧ draft.model.Manned from both.2
  clear sound
  induction edits with
  | refl => exact ⟨base, manned⟩
  | tail _ edit ih =>
      obtain ⟨_, edit⟩ := edit
      exact ⟨edit.gathered ih.1, edit.manned ih.1.shaped ih.2⟩

end Draft

namespace Compilation

def reading (compilation : Compilation) (options : Options) (requested : Url)
    (adopted : Option String) (canonical : Url) (items : List Markup.Item) : Reading :=
  ((Reading.start compilation.model (.fresh canonical requested adopted)).steps options.limits
    items).state

structure Linked (compilation : Compilation) : Prop where
  byUrl : ∀ key id, compilation.byUrl.get? key = some id ->
    id.index < compilation.documents.size
  variants : ∀ key id, compilation.variants.get? key = some id ->
    id.index < compilation.documents.size
  dependencies : ∀ id, ∀ needed ∈ (compilation.document id).dependencies,
    needed.index < compilation.documents.size

section

variable {options : Options} {fetch : Fetch} {url canonical requested : Url}
  {adopted : Option String} {old new compilation : Compilation}

theorem sound_reading (sound : compilation.Sound) (options : Options) (requested : Url)
    (adopted : Option String) (canonical : Url) (items : List Markup.Item) :
    (compilation.reading options requested adopted canonical items).draft.Sound
      compilation.model :=
  ((Draft.sound_start sound.gathered rfl rfl).steps sound.gathered options.limits items).1

theorem founded_reading (sound : compilation.Sound) (founded : compilation.model.Founded)
    (options : Options) (requested : Url) (adopted : Option String) (canonical : Url)
    (items : List Markup.Item) :
    (compilation.reading options requested adopted canonical items).Grounded ∧
      (compilation.reading options requested adopted canonical items).model.Founded := by
  have grounded := (Reading.Grounded.start founded.grounded
    (.fresh canonical requested adopted)).steps options.limits items
  exact ⟨grounded, grounded.model, (sound_reading sound options requested adopted canonical
    items).manned sound.gathered founded.manned⟩

theorem founded_abandon {model : Model} (founded : model.Founded) (tasks : Array TaskId) :
    (abandon model tasks).Founded where
  grounded := founded.grounded.still ⟨rfl, fun _ => rfl, rfl, rfl, rfl⟩
  manned owner there := by
    refine founded.manned owner ?_
    have same (queue : Queue) (tasks : List TaskId) :
        (tasks.foldl (fun queue task => queue.mark .done task) queue).feeders = queue.feeders := by
      induction tasks generalizing queue with
      | nil => rfl
      | cons task rest ih => exact ih _
    rwa [queue_abandon, same] at there

theorem Change.founded (change : Change options fetch old new) (sound : old.Sound)
    (founded : old.model.Founded) : new.model.Founded := by
  refine change.keeps_model founded (fun requested adopted fetched => ?_)
    fun _ tasks read => founded_abandon read tasks
  rw [Draft.state_read]
  exact (founded_reading sound founded ..).2

theorem Changes.founded (changes : Changes options fetch .empty new) : new.model.Founded := by
  induction changes with
  | refl => exact Model.founded_empty
  | tail before change ih => exact change.founded (Changes.sound before) ih

theorem linked_empty : empty.Linked where
  byUrl _ _ found := by cases found
  variants _ _ found := by cases found
  dependencies _ _ member := absurd member (Array.not_mem_empty _)

theorem Linked.withAlias (linked : old.Linked) (requested canonical : Url) :
    (old.withAlias requested canonical).Linked := by
  unfold Compilation.withAlias
  split
  next id there =>
    refine ⟨fun key other found => ?_, linked.variants, linked.dependencies⟩
    rcases Table.of_get?_insertNew found with rfl | before
    · exact linked.byUrl _ _ there
    · exact linked.byUrl key other before
  next => exact linked

theorem Linked.known (linked : old.Linked) {id : DocumentId}
    (known : old.known url adopted = some id) : id.index < old.documents.size := by
  obtain ⟨first, there, form⟩ := Option.bind_eq_some_iff.mp known
  unfold variant at form
  dsimp only at form
  split at form
  · cases form
    exact linked.byUrl _ _ there
  · exact linked.variants _ _ form

theorem Linked.push (linked : old.Linked) {document : Document}
    (alone : document.dependencies = #[]) (documents : new.documents = old.documents.push document)
    (byUrl : new.byUrl = old.enterUrls ⟨old.documents.size⟩ canonical requested)
    (variants : ∀ key id, new.variants.get? key = some id ->
      id = ⟨old.documents.size⟩ ∨ old.variants.get? key = some id) : new.Linked := by
  have size : new.documents.size = old.documents.size + 1 := by rw [documents, Array.size_push]
  refine ⟨fun key id found => ?_, fun key id found => ?_, fun id needed member => ?_⟩ <;> rw [size]
  · -- a URL that leads somewhere goes on leading there
    rw [byUrl, get?_enterUrls] at found
    cases before : old.byUrl.get? key with
    | none =>
        rw [before] at found
        split at found
        · cases found
          exact Nat.lt_succ_self _
        · cases found
    | some first =>
        rw [before, Option.getD_some, ite_self] at found
        cases found
        exact Nat.lt_succ_of_lt (linked.byUrl key _ before)
  · rcases variants key id found with rfl | before
    · exact Nat.lt_succ_self _
    · exact Nat.lt_succ_of_lt (linked.variants key id before)
  · rw [document_push documents] at member
    split at member
    · rw [alone] at member
      exact absurd member (Array.not_mem_empty _)
    · exact Nat.lt_succ_of_lt (linked.dependencies id needed member)

theorem Linked.parse (linked : old.Linked) (options : Options) (requested : Url)
    (adopted : Option String) (fetched : Fetched) :
    (old.parse options requested adopted fetched).compilation.Linked := by
  have alone (state : Document.State) :=
    (dependencies_read ⟨old.model, .fresh fetched.canonical requested adopted⟩ rfl
      options.limits fetched.bytes :
      ({ (Draft.read options.limits ⟨old.model, .fresh fetched.canonical requested adopted⟩
        fetched.bytes).state.document with state := state }).dependencies = #[])
  unfold Compilation.parse
  dsimp only
  split
  · refine linked.push (alone .finished) rfl rfl fun key id found => ?_
    unfold enterVariant at found
    dsimp only at found
    split at found
    · exact Table.of_get?_insertNew found
    · exact .inr found
  · exact linked.push (alone .failed) rfl rfl fun _ _ => .inr

theorem Linked.load (linked : old.Linked) (options : Options) (fetch : Fetch) (url : Url)
    (adopted : Option String) :
    (old.load options fetch url adopted).compilation.Linked ∧
      ∀ id, (old.load options fetch url adopted).outcome.document? = some id ->
        id.index < (old.load options fetch url adopted).compilation.documents.size := by
  have parsed (before : Compilation) (linked : before.Linked) (adopted : Option String)
      (fetched : Fetched) (id : DocumentId)
      (led : (before.parse options url adopted fetched).outcome.document? = some id) :
      id.index < (before.parse options url adopted fetched).compilation.documents.size := by
    rw [size_parse]
    unfold Compilation.parse at led
    dsimp only at led
    split at led
    · cases led
      exact Nat.lt_succ_self _
    · cases led
  have course := old.load_course options fetch url adopted
  generalize old.load options fetch url adopted = loaded at course ⊢
  cases course with
  | known there =>
      refine ⟨linked, fun other led => ?_⟩
      cases led
      exact linked.known there
  | refused | missing => exact ⟨linked, nofun⟩
  | @elsewhere fetched _ _ there =>
      have aliased := linked.withAlias url fetched.canonical
      refine ⟨aliased, fun other led => ?_⟩
      cases led
      exact aliased.known there
  | large => exact ⟨linked.withAlias .., nofun⟩
  | @taken fetched =>
      have aliased := linked.withAlias url fetched.canonical
      exact ⟨aliased.parse .., parsed _ aliased _ fetched⟩

theorem Linked.depend (linked : old.Linked) (asker : DocumentId) {needed : DocumentId}
    (within : needed.index < old.documents.size) : (old.depend asker needed).Linked := by
  refine ⟨fun key id found => ?_, fun key id found => ?_, fun id other member => ?_⟩ <;>
    rw [size_depend]
  · exact linked.byUrl key id found
  · exact linked.variants key id found
  · rw [Compilation.depend, document_changeDocument] at member
    split at member
    · split at member
      · exact linked.dependencies id other member
      · rcases Array.mem_push.mp member with before | rfl
        · exact linked.dependencies id other before
        · exact within
    · exact linked.dependencies id other member

end

end Compilation

namespace Gathering

variable {options : Options} {fetch : Fetch} {url : Url} {gathering : Gathering}

structure Linked (gathering : Gathering) : Prop where
  compilation : gathering.compilation.Linked
  askers : ∀ request ∈ gathering.requests,
    request.asker.index < gathering.compilation.documents.size

theorem Linked.serve {compilation : Compilation} {request : Request} {rest : List Request}
    (linked : Linked ⟨compilation, request :: rest⟩) (options : Options) (fetch : Fetch) :
    (serve options fetch compilation request rest).Linked := by
  obtain ⟨loaded, leads⟩ := linked.compilation.load options fetch request.url request.adopted
  have grows := compilation.size_load_le options fetch request.url request.adopted
  have waiting : ∀ other ∈ rest, other.asker.index <
      (compilation.load options fetch request.url request.adopted).compilation.documents.size :=
    fun other member =>
      Nat.lt_of_lt_of_le (linked.askers other (List.mem_cons_of_mem _ member)) grows
  unfold Gathering.serve
  dsimp only
  split
  next => exact ⟨⟨loaded.byUrl, loaded.variants, loaded.dependencies⟩, waiting⟩
  next id known =>
    refine ⟨loaded.depend _ (leads id (by rw [known]; rfl)), fun other member => ?_⟩
    rw [Compilation.size_depend]
    exact waiting other member
  next id parsed =>
    have within := leads id (by rw [parsed]; rfl)
    refine ⟨loaded.depend _ within, fun other member => ?_⟩
    rw [Compilation.size_depend]
    rcases List.mem_append.mp member with old | new
    · exact waiting other old
    · obtain ⟨asked, -, rfl⟩ := List.mem_map.mp new
      exact within

theorem Arrives.linked (arrives : Arrives options fetch url gathering) : gathering.Linked := by
  induction arrives with
  | start started =>
      obtain ⟨loaded, leads⟩ := Compilation.linked_empty.load options fetch url none
      have asked (id : DocumentId)
          (led : (Compilation.load options fetch .empty url none).outcome.document? = some id) :
          Linked ⟨(Compilation.load options fetch .empty url none).compilation,
            (Compilation.load options fetch .empty url none).compilation.requests id⟩ := by
        refine ⟨loaded, fun request member => ?_⟩
        obtain ⟨_, -, rfl⟩ := List.mem_map.mp member
        exact leads id led
      unfold Gathering.start at started
      dsimp only at started
      split at started
      next => cases started
      next id known =>
        cases started
        exact asked id (by rw [known]; rfl)
      next id parsed =>
        cases started
        exact asked id (by rw [parsed]; rfl)
  | serve _ ih => exact ih.serve options fetch

end Gathering

end XmlSchema

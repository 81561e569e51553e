import XmlSchema.Proofs.Documents.Milestones
import XmlSchema.Proofs.Reading.Imports

set_option autoImplicit false

namespace XmlSchema

namespace Compilation.Outcome

def document? : Outcome -> Option DocumentId
  | .failed _ => none
  | .known id => some id
  | .parsed id => some id

def failure? : Outcome -> Option Failure
  | .failed failure => some failure
  | .known _ => none
  | .parsed _ => none

end Compilation.Outcome

structure Service where
  request : Request
  outcome : Compilation.Outcome
  deriving DecidableEq, Repr

namespace Service

def failure? (service : Service) : Option DocumentFailure :=
  service.outcome.failure?.map fun failure => ⟨service.request.url, failure⟩

end Service

namespace Compilation

def asking (compilation : Compilation) (id : DocumentId) : List NodeId :=
  ((List.range compilation.model.nodes.size).map NodeId.mk).filter fun tag =>
    (compilation.model.node tag).source = (compilation.document id).source &&
      (compilation.model.node tag).asks

def Listed (compilation : Compilation) : Prop :=
  ∀ id, compilation.hasFinished id ->
    List.Forall₂ (fun asked tag =>
        asked.MadeBy (compilation.document id).url (compilation.model.node tag))
      (compilation.document id).imports.toList (compilation.asking id)

/-- Some requests have been served and the others wait. Together they are those of the documents
that were read to their end, and what came of the former has been noted. -/
structure Accounts (compilation : Compilation) (services : List Service) (waiting : List Request) :
    Prop where
  asked : services.map Service.request ++ waiting =
    compilation.finishedIds.flatMap compilation.requests
  failures : compilation.failures.toList = services.filterMap Service.failure?
  needs : ∀ asker needed, compilation.Needs asker needed ↔
    ∃ service ∈ services, service.request.asker = asker ∧
      service.outcome.document? = some needed

inductive Receipt (limit : Nat) (old new : Compilation) : Outcome -> Prop where
  | missing (failure : Failure) (documents : new.documents = old.documents) :
      Receipt limit old new (.failed failure)
  | broken (failure : Failure) (document : Document) (state : document.state = .failed)
      (dependencies : document.dependencies = #[])
      (documents : new.documents = old.documents.push document)
      (within : old.documents.size + 1 ≤ limit) : Receipt limit old new (.failed failure)
  | known (id : DocumentId) (documents : new.documents = old.documents) :
      Receipt limit old new (.known id)
  | parsed (document : Document) (state : document.state = .finished)
      (dependencies : document.dependencies = #[])
      (documents : new.documents = old.documents.push document)
      (within : old.documents.size + 1 ≤ limit) :
      Receipt limit old new (.parsed ⟨old.documents.size⟩)

section

variable {options : Options} {fetch : Fetch} {old new : Compilation}

theorem dependencies_titled (document : Document) (root : Option (List (String × String))) :
    (Reading.titled document root).dependencies = document.dependencies := by
  unfold Reading.titled
  cases root with
  | none => rfl
  | some attributes =>
      change (document.withRoot attributes).dependencies = _
      unfold Document.withRoot
      split <;> rfl

theorem dependencies_read (draft : Draft) (unread : draft.document.prefixes = none)
    (limits : Limits) (bytes : List UInt8) :
    (draft.read limits bytes).state.document.dependencies = draft.document.dependencies :=
  (congrArg Document.dependencies (Draft.header_read unread limits bytes) :).trans
    (dependencies_titled ..)

theorem receipt_parse (options : Options) (old : Compilation) (requested : Url)
    (adopted : Option String) (fetched : Fetched)
    (within : old.documents.size + 1 ≤ options.limits.documents) :
    Receipt options.limits.documents old
        (old.parse options requested adopted fetched).compilation
        (old.parse options requested adopted fetched).outcome ∧
      (old.parse options requested adopted fetched).compilation.failures = old.failures := by
  let draft : Draft := ⟨old.model, .fresh fetched.canonical requested adopted⟩
  let read := (draft.read options.limits fetched.bytes).state.document
  have dependencies : read.dependencies = #[] :=
    dependencies_read draft rfl options.limits fetched.bytes
  unfold Compilation.parse
  dsimp only
  split
  next =>
    exact ⟨.parsed { read with state := .finished } rfl dependencies rfl within, rfl⟩
  next failure _ =>
    exact ⟨.broken failure { read with state := .failed } rfl dependencies rfl within, rfl⟩

theorem Receipt.congr {limit : Nat} {other : Compilation} {outcome : Outcome}
    (receipt : Receipt limit other new outcome) (documents : other.documents = old.documents) :
    Receipt limit old new outcome := by
  cases receipt with
  | missing failure unchanged => exact .missing failure (unchanged.trans documents)
  | broken failure document state dependencies pushed within =>
      rw [documents] at pushed within
      exact .broken failure document state dependencies pushed within
  | known id unchanged => exact .known id (unchanged.trans documents)
  | parsed document state dependencies pushed within =>
      rw [documents] at pushed within ⊢
      exact .parsed document state dependencies pushed within

theorem failures_withAlias (old : Compilation) (url canonical : Url) :
    (old.withAlias url canonical).failures = old.failures := by
  obtain ⟨byUrl, same⟩ := old.withAlias_eq url canonical
  rw [same]

theorem receipt_load (options : Options) (fetch : Fetch) (old : Compilation) (url : Url)
    (adopted : Option String) :
    Receipt options.limits.documents old (old.load options fetch url adopted).compilation
        (old.load options fetch url adopted).outcome ∧
      (old.load options fetch url adopted).compilation.failures = old.failures := by
  have course := old.load_course options fetch url adopted
  generalize old.load options fetch url adopted = loaded at course ⊢
  cases course with
  | known => exact ⟨.known _ rfl, rfl⟩
  | refused | missing => exact ⟨.missing _ rfl, rfl⟩
  | elsewhere => exact ⟨.known _ (old.documents_withAlias ..), old.failures_withAlias ..⟩
  | large => exact ⟨.missing _ (old.documents_withAlias ..), old.failures_withAlias ..⟩
  | @taken fetched fetches =>
      have documents := old.documents_withAlias url fetched.canonical
      obtain ⟨receipt, same⟩ := receipt_parse options (old.withAlias url fetched.canonical) url _
        fetched (documents ▸ size_of_permits fetches.permitted)
      exact ⟨receipt.congr documents, same.trans (old.failures_withAlias ..)⟩

theorem Receipt.size {limit : Nat} {outcome : Outcome} (receipt : Receipt limit old new outcome)
    (within : old.documents.size ≤ limit) : new.documents.size ≤ limit := by
  cases receipt with
  | missing failure documents => exact documents ▸ within
  | broken failure document state dependencies documents room => simpa [documents] using room
  | known id documents => exact documents ▸ within
  | parsed document state dependencies documents room => simpa [documents] using room

theorem finishedIds_congr (size : new.documents.size = old.documents.size)
    (state : ∀ id, (new.document id).state = (old.document id).state) :
    new.finishedIds = old.finishedIds := by
  have finished : new.hasFinished = old.hasFinished := by
    funext id
    rw [hasFinished, state, hasFinished]
  rw [finishedIds, finishedIds, documentIds, documentIds, size, finished]

theorem flatMap_requests_congr (size : new.documents.size = old.documents.size)
    (core : ∀ id, (new.document id).core = (old.document id).core) :
    new.finishedIds.flatMap new.requests = old.finishedIds.flatMap old.requests := by
  have state (id : DocumentId) : (new.document id).state = (old.document id).state :=
    (congrArg Document.state (core id) :)
  have imports (id : DocumentId) : (new.document id).imports = (old.document id).imports :=
    (congrArg Document.imports (core id) :)
  rw [finishedIds_congr size state]
  refine congrArg old.finishedIds.flatMap (funext fun id => ?_)
  rw [requests, imports, requests]

theorem flatMap_requests_push {document : Document}
    (documents : new.documents = old.documents.push document) :
    new.finishedIds.flatMap new.requests = old.finishedIds.flatMap old.requests ++
      if document.state = .finished then new.requests ⟨old.documents.size⟩ else [] := by
  have before : old.finishedIds.flatMap new.requests = old.finishedIds.flatMap old.requests := by
    refine List.flatMap_congr fun id member => ?_
    rw [requests, document_of_listed documents (List.mem_of_mem_filter member), requests]
  rw [finishedIds_push documents, List.flatMap_append, before]
  split <;> simp

theorem core_depend (old : Compilation) (asker needed id : DocumentId) :
    ((old.depend asker needed).document id).core = (old.document id).core :=
  keeps_changeDocument Document.core old asker id fun _ => by split <;> rfl

theorem needs_depend {asker : DocumentId} (within : asker.index < old.documents.size)
    (needed some_ other : DocumentId) :
    (old.depend asker needed).Needs some_ other ↔
      old.Needs some_ other ∨ some_ = asker ∧ other = needed := by
  unfold Needs depend
  rw [document_changeDocument]
  by_cases same : some_ = asker
  next =>
    subst same
    rw [if_pos ⟨rfl, within⟩]
    by_cases there : (old.document some_).dependencies.contains needed = true
    next =>
      rw [if_pos there]
      rw [Array.contains_iff_mem] at there
      constructor
      · exact Or.inl
      · rintro (before | ⟨-, rfl⟩)
        · exact before
        · exact there
    next =>
      rw [if_neg there]
      simp
  next => simp [same]

theorem needs_congr (documents : new.documents = old.documents) (asker needed : DocumentId) :
    new.Needs asker needed ↔ old.Needs asker needed := by
  rw [Needs, Needs, document_congr documents]

theorem needs_push {document : Document} (documents : new.documents = old.documents.push document)
    (dependencies : document.dependencies = #[]) (asker needed : DocumentId) :
    new.Needs asker needed ↔ old.Needs asker needed := by
  unfold Needs
  rw [document_push documents]
  split
  next last =>
    have outside : old.document asker = default :=
      Numbered.getD_of_size_le old.documents (Nat.le_of_eq last.symm)
    rw [dependencies, outside]
    rfl
  next => rfl

theorem Accounts.add {services : List Service} {request : Request} {waiting : List Request}
    (accounts : old.Accounts services (request :: waiting)) (outcome : Outcome)
    (more : List Request) (asked : new.finishedIds.flatMap new.requests =
      old.finishedIds.flatMap old.requests ++ more)
    (failures : new.failures.toList =
      old.failures.toList ++ (Service.failure? ⟨request, outcome⟩).toList)
    (needs : ∀ asker needed, new.Needs asker needed ↔
      old.Needs asker needed ∨ asker = request.asker ∧ outcome.document? = some needed) :
    new.Accounts (services ++ [⟨request, outcome⟩]) (waiting ++ more) where
  asked := by
    rw [asked, ← accounts.asked]
    simp
  failures := by
    rw [failures, accounts.failures, List.filterMap_append]
    cases failed : Service.failure? ⟨request, outcome⟩ <;> simp [failed]
  needs asker needed := by
    rw [needs, accounts.needs]
    constructor
    · rintro (⟨service, member, rest⟩ | ⟨rfl, led⟩)
      · exact ⟨service, List.mem_append_left _ member, rest⟩
      · exact ⟨⟨request, outcome⟩, by simp, rfl, led⟩
    · rintro ⟨service, member, same, led⟩
      rcases List.mem_append.mp member with before | last
      · exact Or.inl ⟨service, before, same, led⟩
      · rw [List.mem_singleton.mp last] at same led
        exact Or.inr ⟨same.symm, led⟩

theorem Listed.congr (listed : old.Listed) (model : new.model = old.model)
    (core : ∀ id, (new.document id).core = (old.document id).core) : new.Listed := by
  intro id finished
  have state : (new.document id).state = (old.document id).state :=
    (congrArg Document.state (core id) :)
  have imports : (new.document id).imports = (old.document id).imports :=
    (congrArg Document.imports (core id) :)
  have url : (new.document id).url = (old.document id).url := (congrArg Document.url (core id) :)
  have source : (new.document id).source = (old.document id).source :=
    (congrArg Document.source (core id) :)
  rw [hasFinished, state] at finished
  rw [imports, url, asking, model, source]
  exact listed id finished

theorem asking_eq (compilation : Compilation) (id : DocumentId) {first : Nat}
    (below : first ≤ compilation.model.nodes.size) :
    compilation.asking id =
      (((List.range first).map NodeId.mk).filter fun tag =>
        (compilation.model.node tag).source = (compilation.document id).source &&
          (compilation.model.node tag).asks) ++
      ((compilation.model.asking first).filter fun tag =>
        (compilation.model.node tag).source = (compilation.document id).source) := by
  have split : List.range compilation.model.nodes.size =
      List.range first ++ List.range' first (compilation.model.nodes.size - first) := by
    have whole := @List.range'_append_1 0 first (compilation.model.nodes.size - first)
    rw [Nat.zero_add, Nat.add_sub_cancel' below] at whole
    rw [List.range_eq_range', List.range_eq_range', whole]
  unfold asking Model.asking
  rw [split, List.map_append, List.filter_append, List.filter_filter]

theorem mem_asking {model : Model} {first : Nat} {id : NodeId} (member : id ∈ model.asking first) :
    first ≤ id.index ∧ id.index < model.nodes.size := by
  obtain ⟨index, within, rfl⟩ := List.mem_map.mp (List.mem_of_mem_filter member)
  have bounds := List.mem_range'_1.mp within
  dsimp only
  omega

theorem isTag_of_asks {model : Model} (shaped : model.Shaped) {id : NodeId}
    (asks : (model.node id).asks = true) : model.IsTag id := by
  simp only [Node.asks, Bool.and_eq_true, decide_eq_true_eq] at asks
  rcases asks.1 with kind | kind <;>
    exact shaped.tag_of_not_isType (by rw [kind]; rfl) (by rw [kind]; decide)

section

variable {draft : Draft} {document : Document}

theorem Joined.asking_before (joined : Joined old new draft document) (read : draft.Sound old.model)
    (sound : old.Sound) {id : DocumentId} (within : id.index < old.documents.size)
    (finished : old.hasFinished id) : new.asking id = old.asking id := by
  obtain ⟨begun, -⟩ := sound.finished id within (of_decide_eq_true finished)
  obtain ⟨shared, found⟩ := Option.ne_none_iff_exists'.mp begun
  have nodes := read.kept.nodes
  have more : old.model.nodes.size ≤ new.model.nodes.size := by
    rw [joined.nodes]
    exact nodes
  rw [new.asking_eq id more, joined.before within]
  have none_ : ((new.model.asking old.model.nodes.size).filter fun tag =>
      (new.model.node tag).source = (old.document id).source) = [] := by
    refine List.filter_eq_nil_iff.mpr fun tag member same => ?_
    obtain ⟨above, below⟩ := mem_asking member
    have isTag : new.model.IsTag tag :=
      ⟨Nat.le_trans sound.gathered.shaped.builtins above, below⟩
    have source := (joined.newSource read isTag above).symm.trans (of_decide_eq_true same)
    exact joined.apart read sound within found (source.trans found)
  rw [none_, List.append_nil]
  refine List.filter_congr fun tag member => ?_
  obtain ⟨index, inside, rfl⟩ := List.mem_map.mp member
  have inside := List.mem_range.mp inside
  rw [joined.oldSource read inside,
    Node.asks_of_label (Node.label_of_core (joined.core read inside))]

theorem Joined.asking_last (joined : Joined old new draft document) (read : draft.Sound old.model)
    (sound : old.Sound) (begun : document.source ≠ none) :
    new.asking ⟨old.documents.size⟩ = draft.model.asking old.model.nodes.size := by
  obtain ⟨shared, found⟩ := Option.ne_none_iff_exists'.mp begun
  have nodes := read.kept.nodes
  have more : old.model.nodes.size ≤ new.model.nodes.size := by
    rw [joined.nodes]
    exact nodes
  have none_ : (((List.range old.model.nodes.size).map NodeId.mk).filter fun tag =>
      (new.model.node tag).source = document.source && (new.model.node tag).asks) = [] := by
    refine List.filter_eq_nil_iff.mpr fun tag member same => ?_
    obtain ⟨index, inside, rfl⟩ := List.mem_map.mp member
    have inside := List.mem_range.mp inside
    obtain ⟨source, asks⟩ := Bool.and_eq_true_iff.mp same
    rw [joined.oldSource read inside] at source
    rw [Node.asks_of_label (Node.label_of_core (joined.core read inside))] at asks
    obtain ⟨owner, within, owned⟩ :=
      sound.owner _ (isTag_of_asks sound.gathered.shaped asks)
    exact joined.apart read sound within
      (owned.symm.trans ((of_decide_eq_true source).trans found)) found
  have same : new.model.asking old.model.nodes.size = draft.model.asking old.model.nodes.size :=
    Model.asking_congr (congrArg Array.size joined.nodes)
      (fun id => congrArg Node.label (joined.node id)) _
  rw [new.asking_eq _ more, joined.last, none_, List.nil_append, ← same]
  refine List.filter_eq_self.mpr fun tag member => ?_
  obtain ⟨above, below⟩ := mem_asking member
  exact decide_eq_true (joined.newSource read
    ⟨Nat.le_trans sound.gathered.shaped.builtins above, below⟩ above)

end

theorem Change.listed (change : Change options fetch old new) (sound : old.Sound)
    (listed : old.Listed) : new.Listed := by
  cases change with
  | link requested fetched =>
      obtain ⟨byUrl, same⟩ := old.withAlias_eq requested fetched.canonical
      rw [same]
      exact listed.congr rfl fun _ => rfl
  | parse requested adopted fetched found unknown plain =>
      generalize ends : Draft.read options.limits
        ⟨old.model, .fresh fetched.canonical requested adopted⟩ fetched.bytes = attempt
      obtain ⟨read, state, joined, ended⟩ := sound.joined options requested adopted fetched ends
      intro id finished
      rcases joined.either (Sound.within_of_finished (of_decide_eq_true finished)) with within | rfl
      next =>
        rw [hasFinished, joined.before within] at finished
        rw [joined.asking_before read sound within finished, joined.before within]
        exact (listed id finished).imp fun asked tag made =>
          made.congr (Node.label_of_core (joined.core read made.within))
      next =>
        rw [hasFinished, joined.last] at finished
        have going := ended (of_decide_eq_true finished)
        have begun : attempt.state.document.source ≠ none := by
          rcases joined.state with ⟨-, complete, -⟩ | ⟨failed, -⟩
          · exact complete.source
          · cases failed.symm.trans (of_decide_eq_true finished)
        rw [joined.asking_last read sound begun, joined.last]
        have lists := @Draft.lists_read ⟨old.model, .fresh fetched.canonical requested adopted⟩ rfl
          options.limits fetched.bytes
        rw [ends] at lists
        refine (lists going).listed.imp fun asked tag made => ?_
        rw [joined.node]
        exact made
  | depend asker needed => exact listed.congr rfl fun id => core_depend old asker needed id
  | noteFailure url failure => exact listed.congr rfl fun _ => rfl

theorem Accounts.congr {services : List Service} {waiting : List Request}
    (accounts : old.Accounts services waiting) (documents : new.documents = old.documents)
    (failures : new.failures = old.failures) : new.Accounts services waiting where
  asked := accounts.asked.trans (flatMap_requests_congr (congrArg Array.size documents)
    fun id => congrArg Document.core (document_congr documents id)).symm
  failures := failures ▸ accounts.failures
  needs asker needed := (needs_congr documents asker needed).trans (accounts.needs asker needed)

theorem failures_resolve (read : Compilation) : read.resolve.failures = read.failures := by
  have each (ids : List DocumentId) (start : Compilation) :
      (ids.foldl resolveDocument start).failures = start.failures := by
    induction ids generalizing start with
    | nil => rfl
    | cons id rest ih =>
        refine (ih (start.resolveDocument id)).trans ?_
        unfold resolveDocument
        dsimp only
        cases (start.document id).state <;> rfl
  exact each read.order read

theorem Listed.resolve (listed : old.Listed) (sound : old.Sound) : old.resolve.Listed := by
  have alike := sound.ended.alike
  have documents := document_congr (resolve_eq old).2
  have label (tag : NodeId) : (old.resolve.model.node tag).label = (old.model.node tag).label :=
    Node.label_of_declared (alike.declared tag)
  have asking (id : DocumentId) : old.resolve.asking id = old.asking id := by
    unfold Compilation.asking
    rw [alike.size, documents]
    refine List.filter_congr fun tag _ => ?_
    rw [alike.source, Node.asks_of_label (label tag)]
  intro id finished
  rw [hasFinished, documents] at finished
  rw [asking, documents]
  exact (listed id finished).imp fun asked tag made => made.congr (label tag)

theorem listed_empty : empty.Listed := fun _ finished =>
  absurd (Sound.within_of_finished (of_decide_eq_true finished)) (Nat.not_lt_zero _)

theorem Changes.listed (changes : Changes options fetch .empty new) : new.Listed :=
  (@Changes.keeps _ _ _ _ (fun compilation => compilation.Sound ∧ compilation.Listed) changes
    ⟨sound_empty, listed_empty⟩ fun change holds =>
      ⟨change.sound holds.1, change.listed holds.1 holds.2⟩).2

end

end Compilation

namespace Gathering

open Compilation

/-- The requests that were served between two points, with what loading came to. -/
inductive Serves (options : Options) (fetch : Fetch) (start : Gathering) :
    List Service -> Gathering -> Prop where
  | none : Serves options fetch start [] start
  | next {services : List Service} {compilation : Compilation} {request : Request}
      {rest : List Request} (before : Serves options fetch start services ⟨compilation, request :: rest⟩) :
      Serves options fetch start
        (services ++
          [⟨request, (compilation.load options fetch request.url request.adopted).outcome⟩])
        (serve options fetch compilation request rest)

section

variable {options : Options} {fetch : Fetch} {url : Url} {compilation : Compilation}
  {services : List Service} {request : Request} {rest : List Request}

theorem accounts_serve (accounts : compilation.Accounts services (request :: rest))
    (within : request.asker.index < compilation.documents.size) :
    (serve options fetch compilation request rest).compilation.Accounts
      (services ++
        [⟨request, (compilation.load options fetch request.url request.adopted).outcome⟩])
      (serve options fetch compilation request rest).requests := by
  obtain ⟨receipt, failures⟩ :=
    receipt_load options fetch compilation request.url request.adopted
  unfold Gathering.serve
  dsimp only
  generalize compilation.load options fetch request.url request.adopted = loaded
    at receipt failures ⊢
  obtain ⟨loaded, outcome⟩ := loaded
  have noted (failure : Failure) : (loaded.noteFailure request.url failure).failures.toList =
      compilation.failures.toList ++ [⟨request.url, failure⟩] := by
    simp [noteFailure, show loaded.failures = compilation.failures from failures]
  have silent {id : DocumentId} : (loaded.depend request.asker id).failures.toList =
      compilation.failures.toList ++ [] := by
    rw [List.append_nil]
    exact congrArg Array.toList failures
  -- what loading came to decides whether a failure, a dependency or more requests are noted
  cases receipt with
  | missing failure documents =>
      have same := fun id => congrArg Document.core (document_congr documents id)
      have added : (loaded.noteFailure request.url failure).Accounts _ _ :=
        accounts.add (.failed failure) []
          ((flatMap_requests_congr (congrArg Array.size documents) same).trans
            (List.append_nil _).symm) (noted failure) fun asker needed => by
          rw [needs_congr (show (loaded.noteFailure _ _).documents = _ from documents)]
          simp [Outcome.document?]
      rwa [List.append_nil] at added
  | broken failure document state dependencies documents room =>
      have added : (loaded.noteFailure request.url failure).Accounts _ _ :=
        accounts.add (.failed failure) []
          (by rw [flatMap_requests_push (show (loaded.noteFailure request.url failure).documents = _
                from documents), state, if_neg (by decide)]) (noted failure) fun asker needed => by
          rw [needs_push (show (loaded.noteFailure _ _).documents = _ from documents) dependencies]
          simp [Outcome.document?]
      rwa [List.append_nil] at added
  | known id documents =>
      have here : request.asker.index < loaded.documents.size := documents ▸ within
      have same := fun other => congrArg Document.core (document_congr documents other)
      have added : (loaded.depend request.asker id).Accounts _ _ :=
        accounts.add (.known id) []
          (((flatMap_requests_congr (size_depend ..) fun other => core_depend loaded _ id other).trans
            (flatMap_requests_congr (congrArg Array.size documents) same)).trans
            (List.append_nil _).symm) silent fun asker needed => by
          rw [needs_depend here, needs_congr documents]
          simp [Outcome.document?, eq_comm]
      rwa [List.append_nil] at added
  | parsed document state dependencies documents room =>
      -- the one that was read is noted as a dependency, and its requests come last
      have here : request.asker.index < loaded.documents.size := by
        rw [documents, Array.size_push]
        exact Nat.lt_succ_of_lt within
      refine accounts.add (.parsed _) _ ?_ silent fun asker needed => ?_
      · rw [flatMap_requests_congr (size_depend ..) fun other => core_depend loaded _ _ other,
          flatMap_requests_push documents, state, if_pos rfl]
        refine congrArg _ ?_
        have imports := congrArg Document.imports
          (core_depend loaded request.asker ⟨compilation.documents.size⟩
            ⟨compilation.documents.size⟩)
        exact congrArg (fun imports : Array Import => imports.toList.map fun asked =>
          (⟨asked.location, asked.adopted, ⟨compilation.documents.size⟩⟩ : Request)) imports.symm
      · rw [needs_depend here, needs_push documents dependencies]
        simp [Outcome.document?, eq_comm]

theorem accounts_start {gathering : Gathering} (started : start options fetch url = .ok gathering) :
    gathering.compilation.Accounts [] gathering.requests := by
  obtain ⟨receipt, failures⟩ := receipt_load options fetch .empty url none
  unfold start at started
  dsimp only at started
  generalize Compilation.empty.load options fetch url none = loaded
    at receipt failures started
  obtain ⟨loaded, outcome⟩ := loaded
  have none_ (asker needed : DocumentId) : ¬ Compilation.empty.Needs asker needed :=
    Array.not_mem_empty needed
  cases receipt with
  | missing failure documents => cases started
  | broken failure document state dependencies documents room => cases started
  | known id documents =>
      cases started
      refine ⟨?_, congrArg Array.toList failures, fun asker needed => ?_⟩
      · have imports := congrArg Document.imports (document_congr documents id)
        rw [flatMap_requests_congr (congrArg Array.size documents)
          fun other => congrArg Document.core (document_congr documents other)]
        exact congrArg (fun imports : Array Import => imports.toList.map fun asked =>
          (⟨asked.location, asked.adopted, id⟩ : Request)) imports
      · rw [needs_congr documents]
        simp [none_]
  | parsed document state dependencies documents room =>
      cases started
      refine ⟨?_, congrArg Array.toList failures, fun asker needed => ?_⟩
      · rw [flatMap_requests_push documents, state, if_pos rfl]
        rfl
      · rw [needs_push documents dependencies]
        simp [none_]

/-- However many requests have been served, they have been accounted for. -/
theorem Serves.accounts {first last : Gathering} (serves : Serves options fetch first services last)
    (started : Gathering.start options fetch url = .ok first) :
    Arrives options fetch url last ∧ last.compilation.Accounts services last.requests := by
  induction serves with
  | none => exact ⟨.start started, accounts_start started⟩
  | next before ih =>
      obtain ⟨arrives, accounts⟩ := ih
      have asked := arrives.changes_requests.2 _ List.mem_cons_self
      exact ⟨arrives.serve, accounts_serve accounts (Sound.within_of_finished asked.1)⟩

theorem Arrives.serves {gathering : Gathering} (arrives : Arrives options fetch url gathering) :
    ∃ first services, Gathering.start options fetch url = .ok first ∧
      Serves options fetch first services gathering := by
  induction arrives with
  | start started => exact ⟨_, _, started, .none⟩
  | serve before ih =>
      obtain ⟨first, services, started, serves⟩ := ih
      exact ⟨first, _, started, serves.next⟩

theorem Arrives.size {gathering : Gathering} (arrives : Arrives options fetch url gathering) :
    gathering.compilation.documents.size ≤ options.limits.documents := by
  induction arrives with
  | start started =>
      have loaded := (receipt_load options fetch .empty url none).1.size (Nat.zero_le _)
      unfold Gathering.start at started
      dsimp only at started
      split at started
      · cases started
      · cases started
        exact loaded
      · cases started
        exact loaded
  | @serve compilation request rest before ih =>
      have loaded :=
        (receipt_load options fetch compilation request.url request.adopted).1.size ih
      unfold Gathering.serve
      dsimp only
      split
      · exact loaded
      · simpa using loaded
      · simpa using loaded

theorem exists_served (options : Options) (fetch : Fetch) (gathering : Gathering) :
    ∃ count, ((advance options fetch)^[count] gathering).requests = [] := by
  obtain ⟨compilation, requests⟩ := gathering
  fun_induction Gathering.run options fetch compilation requests with
  | case1 compilation => exact ⟨0, rfl⟩
  | case2 compilation request rest next ih =>
      obtain ⟨count, served⟩ := ih
      exact ⟨count + 1, by rw [Function.iterate_succ_apply]; exact served⟩

theorem start_eq_error_iff (failure : Failure) :
    start options fetch url = .error failure ↔
      (Compilation.empty.load options fetch url none).outcome = .failed failure := by
  unfold start
  dsimp only
  split
  next other outcome => simp [outcome]
  next outcome => simp [outcome]
  next outcome => simp [outcome]

end

end Gathering

namespace Compilation

theorem compile_eq_error_iff (options : Options) (fetch : Fetch) (url : Url) (failure : Failure) :
    compile options fetch url = .error failure ↔
      (empty.load options fetch url none).outcome = .failed failure := by
  rw [← Gathering.start_eq_error_iff, compile]
  cases Gathering.start options fetch url <;> simp [Except.map]

/-- However documents ask for each other, gathering them ends, and never are there more than the
limit allows. It fails only with the root document. Otherwise each request of each finished document
has been served once, and nothing else has been: what it led to is a dependency of the document that
asked, or a failure with the location that was asked for. The requests of a finished document are
those of its imports and includes that give a location. -/
theorem compile_serves (options : Options) (fetch : Fetch) (url : Url) :
    (empty.load options fetch url none).compilation.documents.size ≤ options.limits.documents ∧
    (∀ gathering, Gathering.Arrives options fetch url gathering ->
      gathering.compilation.documents.size ≤ options.limits.documents ∧
        ∃ count, ((Gathering.advance options fetch)^[count] gathering).requests = []) ∧
    (∀ failure, compile options fetch url = .error failure ↔
      (empty.load options fetch url none).outcome = .failed failure) ∧
    ∀ compilation, compile options fetch url = .ok compilation ->
      ∃ (first last : Gathering) (services : List Service),
        Gathering.start options fetch url = .ok first ∧
        Gathering.Serves options fetch first services last ∧ last.requests = [] ∧
        compilation = last.compilation.resolve ∧
        compilation.Accounts services [] ∧ compilation.Listed := by
  refine ⟨(receipt_load options fetch empty url none).1.size (Nat.zero_le _), fun gathering arrives =>
    ⟨arrives.size, Gathering.exists_served options fetch gathering⟩,
    compile_eq_error_iff options fetch url, fun compilation compiled => ?_⟩
  obtain ⟨read, gathered, sound, rfl⟩ := compile_ok compiled
  have arrives := gather_arrives gathered
  obtain ⟨first, services, started, serves⟩ := arrives.serves
  have accounts := (serves.accounts started).2
  exact ⟨first, _, services, started, serves, rfl, rfl,
    accounts.congr (resolve_eq read).2 (failures_resolve read),
    arrives.changes.listed.resolve sound⟩

def servingAlone : Fetch := fun url =>
  if url.text = rootUrl.text then .ok ⟨includingText.toUTF8.toList, rootUrl⟩
  else .error (.notFound url.text)

set_option maxRecDepth 100000 in
theorem compile_serves_missing :
    ∃ (compilation : Compilation) (service : Service),
      compile .standard servingAlone rootUrl = .ok compilation ∧
      compilation.Accounts [service] [] ∧ service.outcome.document? = none ∧
      compilation.failures.size = 1 := by
  obtain ⟨read, gathered, length, failures⟩ := @gather_of_served .standard servingAlone rootUrl
    (fun read => (read.finishedIds.flatMap read.requests).length = 1 ∧ read.failures.size = 1) _ 1
    (by decide +kernel)
  have compiled : compile .standard servingAlone rootUrl = .ok read.resolve :=
    compile_of_gather gathered
  obtain ⟨-, -, -, serves⟩ := compile_serves .standard servingAlone rootUrl
  obtain ⟨-, -, services, -, -, -, -, accounts, -⟩ := serves read.resolve compiled
  have documents := (resolve_eq read).2
  have one : services.length = 1 := by
    have asked := congrArg List.length (accounts.asked.trans (flatMap_requests_congr
      (congrArg Array.size documents) fun id => congrArg Document.core (document_congr documents id)))
    rw [length] at asked
    simpa using asked
  obtain ⟨service, rfl⟩ := List.length_eq_one_iff.mp one
  have failed := congrArg List.length accounts.failures
  rw [failures_resolve, Array.length_toList, failures] at failed
  refine ⟨read.resolve, service, compiled, accounts, ?_, by rw [failures_resolve, failures]⟩
  obtain ⟨request, outcome⟩ := service
  cases outcome with
  | failed failure => rfl
  | known id => cases failed
  | parsed id => cases failed

end Compilation

end XmlSchema

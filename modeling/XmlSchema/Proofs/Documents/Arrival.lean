import XmlSchema.Proofs.Reading.Documents
import XmlSchema.Proofs.Reading.Requests

set_option autoImplicit false

namespace XmlSchema

namespace Document

/-- A document without what is noted about it once it has been read. -/
def core (document : Document) : Document := { document with dependencies := #[] }

structure ReadFrom (limits : Limits) (fetched : Fetched) (document : Document) : Prop where
  url : document.url = fetched.canonical
  prefixes : document.prefixes =
    (Reading.rootOf limits (Markup.scan fetched.bytes).items).map (rootPrefixes document.adopted)
  isChameleon : document.isChameleon =
    (Reading.rootOf limits (Markup.scan fetched.bytes).items).any fun attributes =>
      !declaresTarget attributes
  asked : document.state = .finished -> ∀ asked ∈ document.imports, asked.kind = .includeTag ->
    asked.uri = document.targetUri
  plain : document.adopted ≠ some ""

namespace ReadFrom

variable {limits : Limits} {fetched : Fetched} {document : Document}

theorem congr {other : Document} (read : document.ReadFrom limits fetched)
    (same : other.core = document.core) : other.ReadFrom limits fetched where
  url := (congrArg Document.url same :).trans read.url
  prefixes := by
    have adopted : other.adopted = document.adopted := (congrArg Document.adopted same :)
    rw [adopted]
    exact (congrArg Document.prefixes same :).trans read.prefixes
  isChameleon := (congrArg Document.isChameleon same :).trans read.isChameleon
  asked finished asked member include_ := by
    have state : other.state = document.state := (congrArg Document.state same :)
    have imports : other.imports = document.imports := (congrArg Document.imports same :)
    have target : other.targetUri = document.targetUri := (congrArg Document.targetUri same :)
    rw [target]
    exact read.asked (state ▸ finished) asked (imports ▸ member) include_
  plain := by
    have adopted : other.adopted = document.adopted := (congrArg Document.adopted same :)
    rw [adopted]
    exact read.plain

theorem targetUri_ne (read : document.ReadFrom limits fetched) : document.targetUri ≠ some "" := by
  unfold targetUri
  rw [read.prefixes]
  cases Reading.rootOf limits (Markup.scan fetched.bytes).items with
  | none => exact fun none_ => by cases none_
  | some attributes => exact targetUri_rootPrefixes_ne _ _

theorem targetUri (read : document.ReadFrom limits fetched)
    (chameleon : document.isChameleon = true) : document.targetUri = document.adopted := by
  have silent := read.isChameleon.symm.trans chameleon
  have plain := read.plain
  unfold Document.targetUri
  rw [read.prefixes]
  cases root : Reading.rootOf limits (Markup.scan fetched.bytes).items with
  | none => simp [root] at silent
  | some attributes =>
      rw [root, Option.any_some, Bool.not_eq_true'] at silent
      refine (targetUri_rootPrefixes document.adopted silent).trans ?_
      cases adopted : document.adopted with
      | none => rfl
      | some uri =>
          refine Option.filter_eq_some_iff.mpr ⟨rfl, decide_eq_true fun empty => plain ?_⟩
          rw [adopted, empty]

theorem adopted_ne (read : document.ReadFrom limits fetched) (finished : document.state = .finished)
    {asked : Import} (member : asked ∈ document.imports) : asked.adopted ≠ some "" := by
  unfold Import.adopted
  split
  next include_ =>
    rw [read.asked finished asked member include_]
    exact read.targetUri_ne
  next => exact fun none_ => by cases none_

end ReadFrom

end Document

namespace Compilation

/-- A change that loading documents makes. -/
inductive Change (options : Options) (fetch : Fetch) : Compilation -> Compilation -> Prop where
  | link (old : Compilation) (requested : Url) (fetched : Fetched)
      (found : fetch requested = .ok fetched) :
      Change options fetch old (old.withAlias requested fetched.canonical)
  | parse (old : Compilation) (requested : Url) (adopted : Option String) (fetched : Fetched)
      (found : fetch requested = .ok fetched)
      (unknown : old.known fetched.canonical adopted = none) (plain : adopted ≠ some "") :
      Change options fetch old (old.parse options requested adopted fetched).compilation
  | depend (old : Compilation) (asker needed : DocumentId) :
      Change options fetch old (old.depend asker needed)
  | noteFailure (old : Compilation) (url : Url) (failure : Failure) :
      Change options fetch old (old.noteFailure url failure)

abbrev Changes (options : Options) (fetch : Fetch) : Compilation -> Compilation -> Prop :=
  Relation.ReflTransGen (Change options fetch)

structure Parses (limits : Limits) (old : Compilation) (requested : Url) (adopted : Option String)
    (fetched : Fetched) (document : Document) (loaded : Loaded) : Prop where
  documents : loaded.compilation.documents = old.documents.push document
  read : document.ReadFrom limits fetched
  adopted : document.adopted = adopted
  byUrl : loaded.compilation.byUrl =
    old.enterUrls ⟨old.documents.size⟩ fetched.canonical requested
  finished : document.state = .finished -> loaded.outcome = .parsed ⟨old.documents.size⟩ ∧
    loaded.compilation.variants = old.enterVariant ⟨old.documents.size⟩ document ∧
      loaded.compilation.journal = old.journal.push (.firstPassDone document.url)
  failed : document.state ≠ .finished -> document.state = .failed ∧
    (∃ failure, loaded.outcome = .failed failure) ∧
      loaded.compilation.variants = old.variants ∧ loaded.compilation.journal = old.journal

theorem parse_spec (options : Options) (old : Compilation) (requested : Url)
    {adopted : Option String} (plain : adopted ≠ some "") (fetched : Fetched) :
    ∃ document, Parses options.limits old requested adopted fetched document
      (old.parse options requested adopted fetched) := by
  let draft : Draft := ⟨old.model, .fresh fetched.canonical requested adopted⟩
  have header := @Draft.header_read draft rfl options.limits fetched.bytes
  have asks := @Draft.asks_read draft rfl rfl options.limits fetched.bytes
  have adopts : (draft.read options.limits fetched.bytes).state.document.adopted = adopted := by
    refine (congrArg Document.adopted header :).trans ?_
    cases Reading.rootOf options.limits (Markup.scan fetched.bytes).items <;> rfl
  have read (state : Document.State) : Document.ReadFrom options.limits fetched
        { (draft.read options.limits fetched.bytes).state.document with state := state } := by
    refine ⟨?_, ?_, ?_, fun _ => asks.asked, ?_⟩
    · refine (congrArg Document.url header :).trans ?_
      cases Reading.rootOf options.limits (Markup.scan fetched.bytes).items <;> rfl
    · dsimp only
      rw [adopts]
      refine (congrArg Document.prefixes header :).trans ?_
      cases Reading.rootOf options.limits (Markup.scan fetched.bytes).items <;> rfl
    · refine (congrArg Document.isChameleon header :).trans ?_
      cases Reading.rootOf options.limits (Markup.scan fetched.bytes).items <;> rfl
    · dsimp only
      rw [adopts]
      exact plain
  unfold parse
  dsimp only
  split
  next ended =>
    exact ⟨_, rfl, read .finished, adopts, rfl, fun _ => ⟨rfl, rfl, rfl⟩,
      fun other => absurd rfl other⟩
  next failure stopped =>
    exact ⟨_, rfl, read .failed, adopts, rfl,
      (fun other => by cases other), fun _ => ⟨rfl, ⟨failure, rfl⟩, rfl, rfl⟩⟩

theorem document_push {old new : Compilation} {document : Document}
    (documents : new.documents = old.documents.push document) (id : DocumentId) :
    new.document id = if id.index = old.documents.size then document else old.document id := by
  unfold Compilation.document
  rw [documents]
  exact Numbered.getD_push old.documents document id.index

section

variable {options : Options} {fetch : Fetch} {old new : Compilation}

theorem Change.sound (change : Change options fetch old new) (sound : old.Sound) : new.Sound := by
  cases change with
  | link requested fetched => exact sound.withAlias requested fetched.canonical
  | parse requested adopted fetched => exact sound.parse options requested adopted fetched
  | depend asker needed => exact sound.depend asker needed
  | noteFailure url failure => exact sound.noteFailure url failure

theorem Change.core (change : Change options fetch old new) {id : DocumentId}
    (within : id.index < old.documents.size) :
    id.index < new.documents.size ∧ (new.document id).core = (old.document id).core := by
  cases change with
  | link requested fetched =>
      obtain ⟨byUrl, same⟩ := old.withAlias_eq requested fetched.canonical
      rw [same]
      exact ⟨within, rfl⟩
  | parse requested adopted fetched found unknown plain =>
      obtain ⟨document, parses⟩ := parse_spec options old requested plain fetched
      rw [document_push parses.documents, if_neg (Nat.ne_of_lt within), parses.documents,
        Array.size_push]
      exact ⟨Nat.lt_succ_of_lt within, rfl⟩
  | depend asker needed =>
      refine ⟨by simpa using within, ?_⟩
      exact keeps_changeDocument Document.core old asker id fun _ => by split <;> rfl
  | noteFailure url failure => exact ⟨within, rfl⟩

def Reads (options : Options) (fetch : Fetch) (compilation : Compilation) : Prop :=
  ∀ id : DocumentId, id.index < compilation.documents.size ->
    ∃ requested fetched, fetch requested = .ok fetched ∧
      (compilation.document id).ReadFrom options.limits fetched

theorem Change.reads (change : Change options fetch old new) (reads : old.Reads options fetch) :
    new.Reads options fetch := by
  have kept (size : new.documents.size = old.documents.size) : new.Reads options fetch := by
    intro id within
    rw [size] at within
    obtain ⟨requested, fetched, found, read⟩ := reads id within
    exact ⟨requested, fetched, found, read.congr (change.core within).2⟩
  cases change with
  | link requested fetched => exact kept (by simp)
  | parse requested adopted fetched found unknown plain =>
      obtain ⟨document, parses⟩ := parse_spec options old requested plain fetched
      intro id within
      rw [document_push parses.documents]
      by_cases last : id.index = old.documents.size
      next =>
        rw [if_pos last]
        exact ⟨requested, fetched, found, parses.read⟩
      next =>
        rw [parses.documents, Array.size_push] at within
        rw [if_neg last]
        exact reads id (by omega)
  | depend asker needed => exact kept (by simp)
  | noteFailure url failure => exact kept rfl

theorem Change.keeps_model {holds : Model -> Prop} (change : Change options fetch old new)
    (before : holds old.model)
    (read : ∀ (requested : Url) (adopted : Option String) (fetched : Fetched),
      holds (Draft.read options.limits ⟨old.model, .fresh fetched.canonical requested adopted⟩
        fetched.bytes).state.model)
    (givenUp : ∀ (model : Model) (tasks : Array TaskId), holds model ->
      holds (abandon model tasks)) : holds new.model := by
  cases change with
  | link requested fetched =>
      rw [model_withAlias]
      exact before
  | parse requested adopted fetched =>
      unfold Compilation.parse
      dsimp only
      split
      · exact read ..
      · exact givenUp _ _ (read ..)
  | depend | noteFailure => exact before

theorem Changes.keeps {holds : Compilation -> Prop} (changes : Changes options fetch old new)
    (start : holds old)
    (step : ∀ {before after : Compilation}, Change options fetch before after ->
      holds before -> holds after) : holds new := by
  induction changes with
  | refl => exact start
  | tail _ change ih => exact step change ih

theorem Changes.sound (changes : Changes options fetch .empty new) : new.Sound :=
  changes.keeps sound_empty fun change => change.sound

theorem reads_empty (options : Options) (fetch : Fetch) : empty.Reads options fetch :=
  fun _ within => absurd within (Nat.not_lt_zero _)

theorem Changes.core (changes : Changes options fetch old new) {id : DocumentId}
    (within : id.index < old.documents.size) :
    id.index < new.documents.size ∧ (new.document id).core = (old.document id).core := by
  induction changes with
  | refl => exact ⟨within, rfl⟩
  | tail _ change ih =>
      obtain ⟨inside, same⟩ := change.core ih.1
      exact ⟨inside, same.trans ih.2⟩

theorem granted_plain {adopted : Option String} (plain : adopted ≠ some "") (options : Options) :
    (if options.adoptNamespaces then adopted else none) ≠ some "" := by
  split
  · exact plain
  · exact nofun

theorem changes_load (options : Options) (fetch : Fetch) (old : Compilation) (url : Url)
    {adopted : Option String} (plain : adopted ≠ some "") :
    Changes options fetch old (old.load options fetch url adopted).compilation := by
  have course := old.load_course options fetch url adopted
  generalize old.load options fetch url adopted = loaded at course ⊢
  cases course with
  | known | refused | missing => exact .refl
  | elsewhere fetches | large fetches => exact .single (.link _ _ _ fetches.found)
  | taken fetches fresh =>
      have aliased : Changes options fetch old _ := .single (.link _ _ _ fetches.found)
      exact aliased.tail (.parse _ url _ _ fetches.found fresh (granted_plain plain options))

theorem load_known {url : Url} {adopted : Option String} {id : DocumentId}
    (known : (old.load options fetch url adopted).outcome = .known id) :
    (old.load options fetch url adopted).compilation.documents = old.documents ∧
      ∃ other, (old.load options fetch url adopted).compilation.known other
        (if options.adoptNamespaces then adopted else none) = some id := by
  have course := old.load_course options fetch url adopted
  generalize old.load options fetch url adopted = loaded at course known ⊢
  cases course with
  | known there =>
      cases known
      exact ⟨rfl, url, there⟩
  | @elsewhere fetched _ fetches there =>
      cases known
      exact ⟨by simp, fetched.canonical, there⟩
  | taken =>
      unfold parse at known
      dsimp only at known
      split at known <;> cases known
  | refused | missing | large => cases known

theorem load_parsed {url : Url} {adopted : Option String} (plain : adopted ≠ some "")
    {id : DocumentId} (parsed : (old.load options fetch url adopted).outcome = .parsed id) :
    ∃ base fetched document, Parses options.limits base url
        (if options.adoptNamespaces then adopted else none) fetched document
        (old.load options fetch url adopted) ∧
      document.state = .finished ∧ id = ⟨base.documents.size⟩ := by
  have course := old.load_course options fetch url adopted
  generalize old.load options fetch url adopted = loaded at course parsed ⊢
  cases course with
  | @taken fetched fetches fresh =>
      obtain ⟨document, parses⟩ := parse_spec options (old.withAlias url fetched.canonical) url
        (granted_plain plain options) fetched
      refine ⟨_, fetched, document, parses, ?_⟩
      by_cases finished : document.state = .finished
      next =>
        have outcome := (parses.finished finished).1
        refine ⟨finished, ?_⟩
        cases parsed.symm.trans outcome
        rfl
      next =>
        obtain ⟨-, ⟨failure, outcome⟩, -⟩ := parses.failed finished
        cases parsed.symm.trans outcome
  | known | refused | missing | elsewhere | large => cases parsed

theorem finished_of_parsed {url : Url} {adopted : Option String} (plain : adopted ≠ some "")
    {id : DocumentId} (parsed : (old.load options fetch url adopted).outcome = .parsed id) :
    ((old.load options fetch url adopted).compilation.document id).state = .finished := by
  obtain ⟨base, fetched, document, parses, finished, rfl⟩ := load_parsed plain parsed
  rw [document_push parses.documents, if_pos rfl]
  exact finished

end

end Compilation

namespace Gathering

/-- The points at which the next request is served, from the root document on. -/
inductive Arrives (options : Options) (fetch : Fetch) (url : Url) : Gathering -> Prop where
  | start {gathering : Gathering} (started : start options fetch url = .ok gathering) :
      Arrives options fetch url gathering
  | serve {compilation : Compilation} {request : Request} {rest : List Request}
      (before : Arrives options fetch url ⟨compilation, request :: rest⟩) :
      Arrives options fetch url (serve options fetch compilation request rest)

def Asked (compilation : Compilation) (request : Request) : Prop :=
  (compilation.document request.asker).state = .finished ∧
    ∃ asked ∈ (compilation.document request.asker).imports,
      request.url = asked.location ∧ request.adopted = asked.adopted

section

variable {options : Options} {fetch : Fetch} {url : Url}

theorem Asked.congr {old new : Compilation} {request : Request} (asked : Asked old request)
    (changes : Compilation.Changes options fetch old new) : Asked new request := by
  obtain ⟨finished, import_, member, rest⟩ := asked
  obtain ⟨-, core⟩ := changes.core (Compilation.Sound.within_of_finished finished)
  have state : (new.document request.asker).state = _ := (congrArg Document.state core :)
  have imports : (new.document request.asker).imports = _ := (congrArg Document.imports core :)
  exact ⟨state.trans finished, import_, imports ▸ member, rest⟩

theorem Asked.adopted_ne {compilation : Compilation} {request : Request}
    (asked : Asked compilation request) (reads : compilation.Reads options fetch) :
    request.adopted ≠ some "" := by
  obtain ⟨finished, import_, member, -, same⟩ := asked
  obtain ⟨_, _, -, read⟩ := reads request.asker (Compilation.Sound.within_of_finished finished)
  rw [same]
  exact read.adopted_ne finished member

theorem asked_requests {compilation : Compilation} {id : DocumentId}
    (finished : (compilation.document id).state = .finished) {request : Request}
    (member : request ∈ compilation.requests id) : Asked compilation request := by
  obtain ⟨asked, there, rfl⟩ := List.mem_map.mp member
  exact ⟨finished, asked, Array.mem_toList_iff.mp there, rfl, rfl⟩

theorem changes_serve {compilation : Compilation} {request : Request} {rest : List Request}
    (plain : request.adopted ≠ some "") :
    Compilation.Changes options fetch compilation
      (serve options fetch compilation request rest).compilation := by
  have loaded := Compilation.changes_load options fetch compilation request.url plain
  unfold serve
  dsimp only
  split
  · exact loaded.tail (.noteFailure ..)
  · exact loaded.tail (.depend ..)
  · exact loaded.tail (.depend ..)

theorem requests_serve {compilation : Compilation} {request : Request} {rest : List Request}
    (plain : request.adopted ≠ some "")
    (asked : ∀ other ∈ rest, Asked compilation other) :
    ∀ other ∈ (serve options fetch compilation request rest).requests,
      Asked (serve options fetch compilation request rest).compilation other := by
  have changes := @changes_serve options fetch compilation request rest plain
  intro other member
  by_cases before : other ∈ rest
  next => exact (asked other before).congr changes
  next =>
    unfold serve at member ⊢
    dsimp only at member ⊢
    split at member
    next => exact absurd member before
    next => exact absurd member before
    next id parsed =>
      rcases List.mem_append.mp member with old | new
      · exact absurd old before
      · refine asked_requests ?_ new
        refine (Compilation.keeps_changeDocument Document.state _ request.asker id fun document =>
          ?_).trans (Compilation.finished_of_parsed plain parsed)
        split <;> rfl

theorem changes_start {gathering : Gathering} (started : start options fetch url = .ok gathering) :
    Compilation.Changes options fetch .empty gathering.compilation ∧
      ∀ request ∈ gathering.requests, Asked gathering.compilation request := by
  have plain : (none : Option String) ≠ some "" := fun none_ => by cases none_
  have loaded := Compilation.changes_load options fetch .empty url plain
  unfold start at started
  dsimp only at started
  split at started
  next => cases started
  next id known =>
    -- there is no document at the start, and so none that could ask for another
    obtain ⟨documents, -⟩ := Compilation.load_known known
    cases started
    refine ⟨loaded, fun request member => ?_⟩
    obtain ⟨asked, there, -⟩ := List.mem_map.mp member
    unfold Compilation.document at there
    rw [documents] at there
    cases there
  next id parsed =>
    cases started
    refine ⟨loaded, fun request member => asked_requests ?_ member⟩
    exact Compilation.finished_of_parsed plain parsed

theorem Arrives.changes_requests {gathering : Gathering}
    (arrives : Arrives options fetch url gathering) :
    Compilation.Changes options fetch .empty gathering.compilation ∧
      ∀ request ∈ gathering.requests, Asked gathering.compilation request := by
  induction arrives with
  | start started => exact changes_start started
  | serve before ih =>
      obtain ⟨changes, asked⟩ := ih
      have reads := changes.keeps (Compilation.reads_empty options fetch) fun change => change.reads
      have plain := (asked _ List.mem_cons_self).adopted_ne reads
      exact ⟨changes.trans (changes_serve plain),
        requests_serve plain fun other member => asked other (List.mem_cons_of_mem _ member)⟩

theorem Arrives.changes {gathering : Gathering} (arrives : Arrives options fetch url gathering) :
    Compilation.Changes options fetch .empty gathering.compilation := arrives.changes_requests.1

theorem Arrives.reads {gathering : Gathering} (arrives : Arrives options fetch url gathering) :
    gathering.compilation.Reads options fetch :=
  arrives.changes.keeps (Compilation.reads_empty options fetch) fun change => change.reads

theorem Arrives.sound {gathering : Gathering} (arrives : Arrives options fetch url gathering) :
    gathering.compilation.Sound :=
  arrives.changes.sound

theorem Arrives.run {compilation : Compilation} {requests : List Request}
    (arrives : Arrives options fetch url ⟨compilation, requests⟩) :
    Arrives options fetch url ⟨run options fetch compilation requests, []⟩ := by
  fun_induction Gathering.run options fetch compilation requests with
  | case1 compilation => exact arrives
  | case2 compilation request rest next ih => exact ih arrives.serve

theorem Arrives.changes_run {compilation : Compilation} {requests : List Request}
    (arrives : Arrives options fetch url ⟨compilation, requests⟩) :
    Compilation.Changes options fetch compilation
      (Gathering.run options fetch compilation requests) := by
  fun_induction Gathering.run options fetch compilation requests with
  | case1 compilation => exact .refl
  | case2 compilation request rest next ih =>
      have asked := arrives.changes_requests.2 request List.mem_cons_self
      exact (changes_serve (asked.adopted_ne arrives.reads)).trans (ih arrives.serve)

theorem run_advance (options : Options) (fetch : Fetch) (gathering : Gathering) :
    run options fetch (advance options fetch gathering).compilation
        (advance options fetch gathering).requests =
      run options fetch gathering.compilation gathering.requests := by
  obtain ⟨compilation, requests⟩ := gathering
  cases requests with
  | nil => rfl
  | cons request rest =>
      conv => rhs; rw [run]
      rfl

theorem run_iterate {options : Options} {fetch : Fetch} (count : Nat) (gathering : Gathering)
    (served : ((advance options fetch)^[count] gathering).requests = []) :
    run options fetch gathering.compilation gathering.requests =
      ((advance options fetch)^[count] gathering).compilation := by
  induction count generalizing gathering with
  | zero =>
      have none_ : gathering.requests = [] := served
      rw [none_, run]
      rfl
  | succ count ih =>
      rw [Function.iterate_succ_apply] at served ⊢
      rw [← run_advance, ih _ served]

end

end Gathering

namespace Compilation

theorem gather_arrives {options : Options} {fetch : Fetch} {url : Url} {read : Compilation}
    (gathered : gather options fetch url = .ok read) :
    Gathering.Arrives options fetch url ⟨read, []⟩ := by
  unfold gather at gathered
  cases started : Gathering.start options fetch url with
  | error failure =>
      rw [started] at gathered
      cases gathered
  | ok gathering =>
      rw [started] at gathered
      cases gathered
      exact (Gathering.Arrives.start started).run

/-- Every point on the way leads to the same documents in the end. -/
theorem gather_of_arrives {options : Options} {fetch : Fetch} {url : Url} {gathering : Gathering}
    (arrives : Gathering.Arrives options fetch url gathering) :
    gather options fetch url =
      .ok (Gathering.run options fetch gathering.compilation gathering.requests) := by
  induction arrives with
  | start started =>
      unfold gather
      rw [started]
      rfl
  | serve before ih =>
      rw [ih, Gathering.run]

theorem gather_of_served {options : Options} {fetch : Fetch} {url : Url}
    {holds : Compilation -> Prop} [DecidablePred holds] (count : Nat)
    (checked : (Gathering.start options fetch url).toOption.any (fun gathering =>
      ((Gathering.advance options fetch)^[count] gathering).requests = [] ∧
        holds ((Gathering.advance options fetch)^[count] gathering).compilation) = true) :
    ∃ read, gather options fetch url = .ok read ∧ holds read := by
  cases started : Gathering.start options fetch url with
  | error failure =>
      rw [started] at checked
      cases checked
  | ok gathering =>
      rw [started] at checked
      obtain ⟨served, there⟩ := of_decide_eq_true checked
      have read := gather_of_arrives (.start started)
      rw [Gathering.run_iterate count gathering served] at read
      exact ⟨_, read, there⟩

end Compilation

end XmlSchema

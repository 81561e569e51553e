import XmlSchema.Proofs.Documents.Memory
import XmlSchema.Proofs.Documents.States
import XmlSchema.Proofs.Reading.Labels

set_option autoImplicit false

namespace XmlSchema

namespace Reading

theorem rootOf_take (limits : Limits) (items : List Markup.Item) (count : Nat) :
    rootOf limits (items.take count) = none ∨
      rootOf limits (items.take count) = rootOf limits items := by
  induction items generalizing count with
  | nil => exact .inr (congrArg _ List.take_nil)
  | cons item rest ih =>
      cases count with
      | zero => exact .inl rfl
      | succ count =>
          rw [List.take_succ_cons]
          unfold rootOf
          split
          next => exact ih count
          next => exact .inr rfl
          next => exact .inr rfl

end Reading

namespace Compilation

structure Lends (compilation : Compilation) (adopted : Option String) : Prop where
  plain : adopted ≠ some ""
  located : ∀ name, adopted = some name -> compilation.model.namespaces.Located name

structure Labelled (compilation : Compilation) : Prop where
  model : compilation.model.Labelled
  finished : ∀ id, compilation.hasFinished id ->
    compilation.model.namespaces.Located ((compilation.document id).targetUri.getD "")
  urls : ∀ url id, compilation.model.namespaces.findByUrl url = some id ->
    ∃ document : DocumentId, document.index < compilation.documents.size ∧
      (compilation.document document).url.text = url ∧
      (compilation.model.namespaces.get id).name =
        some ((compilation.document document).targetUri.getD "") ∧
      ¬ (compilation.document document).Adopts

section

variable {options : Options} {fetch : Fetch} {old new : Compilation} {requested : Url}
  {adopted : Option String} {fetched : Fetched}

theorem parse_read (options : Options) (old : Compilation) (requested : Url)
    (adopted : Option String) (fetched : Fetched) {attempt : Attempt Draft}
    (read : Draft.read options.limits ⟨old.model, .fresh fetched.canonical requested adopted⟩
      fetched.bytes = attempt) :
    ∃ state, (old.parse options requested adopted fetched).compilation.documents =
        old.documents.push { attempt.state.document with state := state } ∧
      (state = .finished -> attempt.failure = none) ∧
      (old.parse options requested adopted fetched).compilation.model.namespaces =
        attempt.state.model.namespaces ∧
      (old.parse options requested adopted fetched).compilation.model.sources =
        attempt.state.model.sources := by
  subst read
  unfold parse
  dsimp only
  split
  next ended => exact ⟨_, rfl, fun _ => ended, rfl, rfl⟩
  next => exact ⟨_, rfl, nofun, rfl, rfl⟩

theorem Labelled.congr (labelled : old.Labelled) (model : new.model = old.model)
    (size : new.documents.size = old.documents.size)
    (core : ∀ id, (new.document id).core = (old.document id).core) : new.Labelled := by
  have state (id) : (new.document id).state = (old.document id).state :=
    (congrArg Document.state (core id) :)
  have target (id) : (new.document id).targetUri = (old.document id).targetUri :=
    (congrArg Document.targetUri (core id) :)
  have url (id) : (new.document id).url = (old.document id).url := (congrArg Document.url (core id) :)
  have adopts (id) : (new.document id).Adopts ↔ (old.document id).Adopts := by
    have same : (new.document id).core.Adopts ↔ (old.document id).core.Adopts := by rw [core]
    exact same
  constructor
  case model => exact model ▸ labelled.model
  case finished =>
    intro id finished
    rw [hasFinished, state] at finished
    rw [target, model]
    exact labelled.finished id finished
  case urls =>
    simp only [model, size, url, target, adopts]
    exact labelled.urls

theorem Labelled.ready (labelled : old.Labelled) (memoized : old.Memoized options fetch)
    (stable : fetch.Stable) (found : fetch requested = .ok fetched)
    (unknown : old.known fetched.canonical adopted = none) (lends : old.Lends adopted)
    {document : Document} (url : document.url = fetched.canonical) (prefixes : document.prefixes =
      (Reading.rootOf options.limits (Markup.scan fetched.bytes).items).map
        (Document.rootPrefixes adopted)) : document.Ready old.model.namespaces := by
  intro read
  rw [url]
  cases there : old.model.namespaces.findByUrl fetched.canonical.text with
  | none => exact .inr rfl
  | some id =>
      obtain ⟨first, within, same, name, own⟩ := labelled.urls _ id there
      have chameleon := (memoized.unknown stable found unknown within same).1
      have earlier := memoized.fetched stable found within same
      have silent := earlier.isChameleon.symm.trans chameleon
      -- a URL leads nowhere on account of a document that was adopted, so this one was not
      have known : old.model.namespaces.find "" = some id := by
        have unadopted : (old.document first).adopted = none :=
          Decidable.byContradiction fun adopts => own ⟨chameleon, adopts⟩
        rw [earlier.targetUri chameleon, unadopted] at name
        exact (labelled.model.namespaces.find _ _).mpr name
      refine .inl ?_
      unfold Document.targetUri
      rw [prefixes] at read ⊢
      cases root : Reading.rootOf options.limits (Markup.scan fetched.bytes).items with
      | none => rw [root] at read; exact absurd rfl read
      | some attributes =>
          rw [root, Option.any_some, Bool.not_eq_true'] at silent
          have target := Document.targetUri_rootPrefixes adopted silent
          rw [Option.map_some, Option.bind_some, target]
          cases adopted with
          | none => exact known.trans_ne (Option.some_ne_none _)
          | some uri =>
              obtain ⟨home, located, -⟩ := lends.located uri rfl
              have kept : (some uri).filter (· ≠ "") = some uri :=
                Option.filter_eq_some_iff.mpr ⟨rfl, decide_eq_true fun empty =>
                  lends.plain (by rw [empty])⟩
              rw [kept]
              exact located.trans_ne (Option.some_ne_none _)

theorem Labelled.reading (labelled : old.Labelled) (memoized : old.Memoized options fetch)
    (stable : fetch.Stable) (found : fetch requested = .ok fetched)
    (unknown : old.known fetched.canonical adopted = none) (lends : old.Lends adopted)
    {attempt : Attempt Draft}
    (moves : Draft.Moves ⟨old.model, .fresh fetched.canonical requested adopted⟩ attempt)
    {root : Option (List (String × String))} (opened : root = none ∨
      root = Reading.rootOf options.limits (Markup.scan fetched.bytes).items)
    (header : attempt.state.document.header =
      (Reading.titled (.fresh fetched.canonical requested adopted) root).header) :
    attempt.state.Labelled old.model.namespaces := by
  have start : Draft.Labelled old.model.namespaces
      ⟨old.model, .fresh fetched.canonical requested adopted⟩ :=
    ⟨labelled.model, .refl _, fun _ => rfl, fun _ => rfl, absurd rfl, fun _ _ => .inl, absurd rfl,
      lends.plain, lends.located⟩
  refine Draft.labelled_moves start moves ?_
  have url : attempt.state.document.url = fetched.canonical := by
    refine (congrArg Document.url header :).trans ?_
    cases root <;> rfl
  have prefixes : attempt.state.document.prefixes = root.map (Document.rootPrefixes adopted) := by
    refine (Document.prefixes_of_header header).trans ?_
    cases root <;> rfl
  rcases opened with rfl | rfl
  · exact absurd prefixes
  · exact labelled.ready memoized stable found unknown lends url prefixes

theorem Labelled.parse (labelled : old.Labelled) (memoized : old.Memoized options fetch)
    (stable : fetch.Stable) (found : fetch requested = .ok fetched)
    (unknown : old.known fetched.canonical adopted = none) (lends : old.Lends adopted) :
    (old.parse options requested adopted fetched).compilation.Labelled := by
  let draft : Draft := ⟨old.model, .fresh fetched.canonical requested adopted⟩
  obtain ⟨moves, sourced⟩ := Draft.moves_read draft options.limits fetched.bytes
  have read := labelled.reading memoized stable found unknown lends moves (.inr rfl)
    (@Draft.header_read draft rfl options.limits fetched.bytes)
  generalize ended : draft.read options.limits fetched.bytes = attempt at read sourced
  obtain ⟨state, documents, finished, namespaces, sources⟩ :=
    parse_read options old requested adopted fetched ended
  have size : (old.parse options requested adopted fetched).compilation.documents.size =
      old.documents.size + 1 := size_parse ..
  generalize (old.parse options requested adopted fetched).compilation = new at *
  have earlier {id : DocumentId} (within : id.index < old.documents.size) :
      new.document id = old.document id := by
    rw [document_push documents, if_neg (Nat.ne_of_lt within)]
  have last : new.document ⟨old.documents.size⟩ = { attempt.state.document with state := state } := by
    rw [document_push documents, if_pos rfl]
  refine ⟨read.model.learn ?_, fun id done => ?_, fun url id there => ?_⟩
  · exact .of_same sources namespaces
  · rw [namespaces]
    have within := Sound.within_of_finished (of_decide_eq_true done)
    rw [size] at within
    rcases Nat.lt_succ_iff_lt_or_eq.mp within with before | same
    next =>
      rw [hasFinished, earlier before] at done
      rw [earlier before]
      exact read.extends_.located (labelled.finished id done)
    next =>
      obtain rfl : id = ⟨old.documents.size⟩ := congrArg DocumentId.mk same
      rw [hasFinished, last] at done
      rw [last]
      exact read.told (sourced (finished (of_decide_eq_true done)))
  · rw [namespaces] at there ⊢
    -- a URL led somewhere before, or it is that of the document that was read last
    rcases read.urls url id there with before | ⟨same, name, own⟩
    next =>
      obtain ⟨document, within, text, name, own⟩ := labelled.urls url id before
      refine ⟨document, ?_, ?_⟩
      · rw [size]
        exact Nat.lt_succ_of_lt within
      · rw [earlier within]
        exact ⟨text, read.extends_.name _ _ name, own⟩
    next =>
      refine ⟨⟨old.documents.size⟩, ?_, ?_⟩
      · rw [size]
        exact Nat.lt_succ_self _
      · rw [last]
        exact ⟨same.symm, name, own⟩

theorem Labelled.withAlias (labelled : old.Labelled) (url canonical : Url) :
    (old.withAlias url canonical).Labelled := by
  obtain ⟨byUrl, same⟩ := old.withAlias_eq url canonical
  rw [same]
  exact labelled.congr rfl rfl fun _ => rfl

theorem lends_none (old : Compilation) : old.Lends none := ⟨nofun, nofun⟩

theorem Lends.congr (lends : old.Lends adopted) (model : new.model = old.model) :
    new.Lends adopted :=
  ⟨lends.plain, model ▸ lends.located⟩

theorem Lends.grants (lends : old.Lends adopted) (options : Options) :
    old.Lends (options.grants adopted) := by
  unfold Options.grants
  split
  · exact lends
  · exact lends_none old

theorem Labelled.lends (labelled : old.Labelled) (reads : old.Reads options fetch)
    {request : Request} (asked : Gathering.Asked old request) : old.Lends request.adopted := by
  refine ⟨asked.adopted_ne reads, fun name adopted => ?_⟩
  obtain ⟨finished, import_, member, -, same⟩ := asked
  obtain ⟨_, _, -, read⟩ := reads request.asker (Sound.within_of_finished finished)
  rw [same] at adopted
  unfold Import.adopted at adopted
  split at adopted
  next include_ =>
    have target := (read.asked finished import_ member include_).symm.trans adopted
    have located := labelled.finished request.asker (decide_eq_true finished)
    rw [target] at located
    exact located
  next => cases adopted

theorem Labelled.load (labelled : old.Labelled) (memoized : old.Memoized options fetch)
    (stable : fetch.Stable) (url : Url) (lends : old.Lends adopted) :
    (old.load options fetch url adopted).compilation.Labelled := by
  rcases load_cases options fetch old url adopted with ⟨fetched, takes, same⟩ | same | aliased
  · rw [same]
    refine (labelled.withAlias ..).parse (memoized.link stable takes.found) stable takes.found
      takes.fresh ?_
    exact (lends.grants options).congr (old.model_withAlias ..)
  · rw [same]
    exact labelled
  · obtain ⟨fetched, -, same⟩ := aliased
    rw [same]
    exact labelled.withAlias ..

theorem Labelled.depend (labelled : old.Labelled) (asker needed : DocumentId) :
    (old.depend asker needed).Labelled :=
  labelled.congr rfl (size_depend ..) fun id =>
    keeps_changeDocument Document.core old asker id fun _ => by split <;> rfl

theorem labelled_empty : empty.Labelled where
  model := Model.labelled_empty
  finished _ finished :=
    absurd (Sound.within_of_finished (of_decide_eq_true finished)) (Nat.not_lt_zero _)
  urls url id there := by
    have schema : (Namespaces.empty Builtin.scope).findByUrl url = some id :=
      Namespaces.findByUrl_of_register there
    cases schema

theorem Change.indexed (change : Change options fetch old new)
    (indexed : old.model.namespaces.Indexed) : new.model.namespaces.Indexed :=
  @Change.keeps_model _ _ _ _ (fun model => model.namespaces.Indexed) change indexed
    (fun _ _ _ => (Draft.moves_read ..).1.keeps indexed fun move => move.indexed)
    fun _ _ read => read

theorem Changes.indexed (changes : Changes options fetch .empty new) :
    new.model.namespaces.Indexed :=
  changes.keeps ((Namespaces.Registry.indexed_empty Builtin.scope .empty).register ..)
    fun change => change.indexed

end

end Compilation

namespace Gathering

variable {options : Options} {fetch : Fetch} {url : Url}

theorem Arrives.labelled (stable : fetch.Stable) {gathering : Gathering}
    (arrives : Arrives options fetch url gathering) : gathering.compilation.Labelled := by
  induction arrives with
  | @start gathering started =>
      have loaded := Compilation.labelled_empty.load (Compilation.memoized_empty options fetch) stable
        url (Compilation.lends_none _)
      unfold Gathering.start at started
      dsimp only at started
      split at started <;> cases started <;> exact loaded
  | @serve compilation request rest before ih =>
      have memoized := before.changes.memoized stable (Compilation.memoized_empty options fetch)
      have asked := before.changes_requests.2 request List.mem_cons_self
      have loaded := ih.load memoized stable request.url (ih.lends memoized.reads asked)
      unfold Gathering.serve
      dsimp only
      split
      · exact loaded.congr rfl rfl fun _ => rfl
      · exact loaded.depend ..
      · exact loaded.depend ..

end Gathering

end XmlSchema

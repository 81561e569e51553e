import XmlSchema.Proofs.Documents.Milestones

set_option autoImplicit false

namespace XmlSchema

/-- A URL is its text, and where something was found it is found again. -/
structure Fetch.Stable (fetch : Fetch) : Prop where
  text : ∀ one other : Url, one.text = other.text -> fetch one = fetch other
  canonical : ∀ url fetched, fetch url = .ok fetched -> fetch fetched.canonical = .ok fetched

theorem Fetch.stable_pair (one other : Fetched) (apart : other.canonical.text ≠ one.canonical.text) :
    Fetch.Stable fun url => if url.text = one.canonical.text then .ok one else .ok other where
  text first second same := by rw [same]
  canonical url fetched found := by
    split at found
    · cases found
      rw [if_pos rfl]
    · cases found
      rw [if_neg apart]

namespace Compilation

def SameForm (compilation : Compilation) (one other : DocumentId) : Prop :=
  compilation.hasFinished one ∧ compilation.hasFinished other ∧
    (compilation.document one).url.text = (compilation.document other).url.text ∧
      (compilation.document one).targetUri = (compilation.document other).targetUri

def SameOwn (compilation : Compilation) (one other : DocumentId) : Prop :=
  (compilation.document one).url.text = (compilation.document other).url.text ∧
    (compilation.document one).isChameleon = false

/-- What is known of documents by URL and by namespace. -/
structure Memoized (options : Options) (fetch : Fetch) (compilation : Compilation) : Prop where
  reads : compilation.Reads options fetch
  linked : ∀ key id, compilation.byUrl.get? key = some id ->
    id.index < compilation.documents.size ∧
      ∃ (url : Url) (fetched : Fetched), url.text = key ∧ fetch url = .ok fetched ∧
        (compilation.document id).url = fetched.canonical
  entered : ∀ id : DocumentId, id.index < compilation.documents.size ->
    compilation.byUrl.get? (compilation.document id).url.text ≠ none
  variants : ∀ key target id, compilation.variants.get? (key, target) = some id ->
    (compilation.document id).targetUri = target ∧ id.index < compilation.documents.size
  kept : ∀ id, compilation.hasFinished id -> (compilation.document id).isChameleon = true ->
    compilation.variants.get?
      ((compilation.document id).url.text, (compilation.document id).targetUri) ≠ none
  unique : ∀ one other, compilation.SameForm one other -> one = other
  single : ∀ one other : DocumentId, one.index < compilation.documents.size ->
    other.index < compilation.documents.size -> compilation.SameOwn one other -> one = other

section

variable {options : Options} {fetch : Fetch} {old new : Compilation}

theorem Memoized.fetched (stable : fetch.Stable) (memoized : old.Memoized options fetch)
    {requested : Url} {fetched : Fetched} (found : fetch requested = .ok fetched) {id : DocumentId}
    (within : id.index < old.documents.size)
    (same : (old.document id).url.text = fetched.canonical.text) :
    (old.document id).ReadFrom options.limits fetched := by
  obtain ⟨other, before, there, read⟩ := memoized.reads id within
  have again := stable.canonical other before there
  rw [← read.url, stable.text _ _ same, stable.canonical requested fetched found] at again
  cases again
  exact read

theorem Memoized.linked_eq (stable : fetch.Stable) (memoized : old.Memoized options fetch)
    {requested : Url} {fetched : Fetched} (found : fetch requested = .ok fetched) {id : DocumentId}
    (linked : old.byUrl.get? fetched.canonical.text = some id) :
    id.index < old.documents.size ∧ (old.document id).url = fetched.canonical := by
  obtain ⟨within, other, before, text, there, url⟩ := memoized.linked _ id linked
  rw [stable.text _ _ text, stable.canonical requested fetched found] at there
  cases there
  exact ⟨within, url⟩

theorem Memoized.unknown (stable : fetch.Stable) (memoized : old.Memoized options fetch)
    {requested : Url} {fetched : Fetched} (found : fetch requested = .ok fetched)
    {adopted : Option String} (unknown : old.known fetched.canonical adopted = none)
    {id : DocumentId} (within : id.index < old.documents.size)
    (same : (old.document id).url.text = fetched.canonical.text) :
    (old.document id).isChameleon = true ∧
      old.variants.get? (fetched.canonical.text, adopted) = none := by
  have linked := memoized.entered id within
  rw [same] at linked
  obtain ⟨first, linked⟩ := Option.ne_none_iff_exists'.mp linked
  obtain ⟨inside, url⟩ := memoized.linked_eq stable found linked
  unfold known at unknown
  rw [linked, Option.bind_some] at unknown
  unfold variant at unknown
  dsimp only at unknown
  split at unknown
  next => cases unknown
  next other =>
    simp only [Bool.or_eq_true, Bool.not_eq_true', decide_eq_true_eq, not_or,
      Bool.not_eq_false] at other
    rw [url] at unknown
    refine ⟨?_, unknown⟩
    have one := memoized.fetched stable found within same
    have two := memoized.fetched stable found inside (congrArg Url.text url)
    rw [one.isChameleon, ← two.isChameleon]
    exact other.1.1

theorem get?_enterUrls (old : Compilation) (id : DocumentId) (canonical requested : Url)
    (key : String) :
    (old.enterUrls id canonical requested).get? key =
      if key = canonical.text ∨ key = requested.text then some ((old.byUrl.get? key).getD id)
      else old.byUrl.get? key := by
  unfold enterUrls
  by_cases last : key = requested.text <;> by_cases first : key = canonical.text <;>
    simp [Table.get?_insertNew, last, first] <;> grind

theorem Memoized.link (stable : fetch.Stable) (memoized : old.Memoized options fetch)
    {requested : Url} {fetched : Fetched} (found : fetch requested = .ok fetched) :
    (old.withAlias requested fetched.canonical).Memoized options fetch := by
  unfold withAlias
  split
  next id there =>
    obtain ⟨within, url⟩ := memoized.linked_eq stable found there
    refine { memoized with linked := ?_, entered := ?_ }
    · intro key other linked
      dsimp only at linked
      rw [Table.get?_insertNew] at linked
      split at linked
      next same =>
        cases before : old.byUrl.get? key with
        | none =>
            rw [before] at linked
            cases linked
            exact ⟨within, requested, fetched, same.symm, found, url⟩
        | some first =>
            rw [before] at linked
            cases linked
            exact memoized.linked key _ before
      next => exact memoized.linked key other linked
    · intro other inside
      dsimp only
      rw [Table.get?_insertNew]
      split
      · exact Option.some_ne_none _
      · exact memoized.entered other inside
  next => exact memoized

theorem Memoized.congr (memoized : old.Memoized options fetch)
    (reads : new.Reads options fetch) (size : new.documents.size = old.documents.size)
    (core : ∀ id, (new.document id).core = (old.document id).core)
    (byUrl : new.byUrl = old.byUrl) (variants : new.variants = old.variants) :
    new.Memoized options fetch := by
  have url (id) : (new.document id).url = (old.document id).url := (congrArg Document.url (core id) :)
  have chameleon (id) : (new.document id).isChameleon = (old.document id).isChameleon :=
    (congrArg Document.isChameleon (core id) :)
  have target (id) : (new.document id).targetUri = (old.document id).targetUri :=
    (congrArg Document.targetUri (core id) :)
  have finished (id) : new.hasFinished id = old.hasFinished id := by
    have state : (new.document id).state = _ := (congrArg Document.state (core id) :)
    rw [hasFinished, state, hasFinished]
    rfl
  constructor
  case reads => exact reads
  all_goals simp only [SameForm, SameOwn, url, chameleon, target, finished, byUrl, variants, size]
  case linked => exact memoized.linked
  case entered => exact memoized.entered
  case variants => exact memoized.variants
  case kept => exact memoized.kept
  case unique => exact memoized.unique
  case single => exact memoized.single

section

variable {requested : Url} {adopted : Option String} {fetched : Fetched} {document : Document}
  {loaded : Loaded}

theorem Parses.get?_variants
    (parses : Parses options.limits old requested adopted fetched document loaded)
    {key : String} {target : Option String} {id : DocumentId}
    (there : loaded.compilation.variants.get? (key, target) = some id) :
    old.variants.get? (key, target) = some id ∨
      id = ⟨old.documents.size⟩ ∧ target = document.targetUri := by
  by_cases finished : document.state = .finished
  next =>
    rw [(parses.finished finished).2.1, enterVariant] at there
    split at there
    next =>
      rw [Table.get?_insertNew] at there
      split at there
      next same =>
        cases before : old.variants.get? (key, target) with
        | none =>
            rw [before] at there
            cases there
            exact .inr ⟨rfl, congrArg Prod.snd same⟩
        | some first =>
            rw [before] at there
            cases there
            exact .inl rfl
      next => exact .inl there
    next => exact .inl there
  next =>
    rw [(parses.failed finished).2.2.1] at there
    exact .inl there

theorem Parses.variants_ne
    (parses : Parses options.limits old requested adopted fetched document loaded)
    {key : String × Option String} (there : old.variants.get? key ≠ none) :
    loaded.compilation.variants.get? key ≠ none := by
  by_cases finished : document.state = .finished
  next =>
    rw [(parses.finished finished).2.1, enterVariant]
    split
    · rw [Table.get?_insertNew]
      split
      · exact Option.some_ne_none _
      · exact there
    · exact there
  next =>
    rw [(parses.failed finished).2.2.1]
    exact there

section

variable (parses : Parses options.limits old requested adopted fetched document loaded)

include parses

theorem Parses.size : loaded.compilation.documents.size = old.documents.size + 1 := by
  rw [parses.documents, Array.size_push]

theorem Parses.last : loaded.compilation.document ⟨old.documents.size⟩ = document := by
  rw [document_push parses.documents, if_pos rfl]

theorem Parses.earlier {id : DocumentId} (within : id.index < old.documents.size) :
    loaded.compilation.document id = old.document id := by
  rw [document_push parses.documents, if_neg (Nat.ne_of_lt within)]

theorem Parses.hasFinished_earlier {id : DocumentId} (within : id.index < old.documents.size) :
    loaded.compilation.hasFinished id = old.hasFinished id := by
  rw [hasFinished, parses.earlier within, hasFinished]

theorem Parses.last_or_earlier {id : DocumentId}
    (within : id.index < loaded.compilation.documents.size) :
    id = ⟨old.documents.size⟩ ∨ id.index < old.documents.size := by
  rw [parses.size] at within
  rcases Nat.lt_succ_iff_lt_or_eq.mp within with before | same
  · exact .inr before
  · exact .inl (congrArg DocumentId.mk same)

theorem Memoized.apart (memoized : old.Memoized options fetch) (stable : fetch.Stable)
    (found : fetch requested = .ok fetched) (unknown : old.known fetched.canonical adopted = none)
    {id : DocumentId} (within : id.index < old.documents.size)
    (same : document.url.text = (old.document id).url.text) :
    (old.document id).isChameleon = true ∧ document.isChameleon = true ∧
      (old.hasFinished id = true -> document.targetUri ≠ (old.document id).targetUri) := by
  rw [parses.read.url] at same
  obtain ⟨chameleon, fresh⟩ := memoized.unknown stable found unknown within same.symm
  have both : document.isChameleon = true := by
    rw [parses.read.isChameleon, ← (memoized.fetched stable found within same.symm).isChameleon]
    exact chameleon
  refine ⟨chameleon, both, fun finished target => memoized.kept id finished chameleon ?_⟩
  rw [← same, ← target, parses.read.targetUri both, parses.adopted]
  exact fresh

theorem Memoized.linked_parse (memoized : old.Memoized options fetch) (stable : fetch.Stable)
    (found : fetch requested = .ok fetched) {key : String} {id : DocumentId}
    (linked : loaded.compilation.byUrl.get? key = some id) :
    id.index < loaded.compilation.documents.size ∧
      ∃ (url : Url) (fetched : Fetched), url.text = key ∧ fetch url = .ok fetched ∧
        (loaded.compilation.document id).url = fetched.canonical := by
  rw [parses.byUrl, get?_enterUrls] at linked
  cases before : old.byUrl.get? key with
  | none =>
      rw [before, Option.getD_none] at linked
      split at linked
      next there =>
        cases linked
        rw [parses.size, parses.last, parses.read.url]
        refine ⟨Nat.lt_succ_self _, ?_⟩
        rcases there with same | same
        · exact ⟨_, fetched, same.symm, stable.canonical requested fetched found, rfl⟩
        · exact ⟨_, fetched, same.symm, found, rfl⟩
      next => cases linked
  | some first =>
      rw [before, Option.getD_some, ite_self] at linked
      cases linked
      obtain ⟨within, rest⟩ := memoized.linked key _ before
      rw [parses.earlier within, parses.size]
      exact ⟨Nat.lt_succ_of_lt within, rest⟩

theorem Memoized.entered_parse (memoized : old.Memoized options fetch) {id : DocumentId}
    (within : id.index < loaded.compilation.documents.size) :
    loaded.compilation.byUrl.get? (loaded.compilation.document id).url.text ≠ none := by
  rw [parses.byUrl, get?_enterUrls]
  split
  next => exact Option.some_ne_none _
  next other =>
    rcases parses.last_or_earlier within with rfl | before
    · rw [parses.last, parses.read.url] at other
      exact absurd (Or.inl rfl) other
    · rw [parses.earlier before]
      exact memoized.entered id before

theorem Memoized.kept_parse (memoized : old.Memoized options fetch) {id : DocumentId}
    (finished : loaded.compilation.hasFinished id)
    (chameleon : (loaded.compilation.document id).isChameleon = true) :
    loaded.compilation.variants.get? ((loaded.compilation.document id).url.text,
      (loaded.compilation.document id).targetUri) ≠ none := by
  rcases parses.last_or_earlier (Sound.within_of_finished (of_decide_eq_true finished))
    with rfl | before
  · rw [hasFinished, parses.last] at finished
    rw [parses.last] at chameleon ⊢
    rw [(parses.finished (of_decide_eq_true finished)).2.1, enterVariant, if_pos chameleon,
      Table.get?_insertNew, if_pos rfl]
    exact Option.some_ne_none _
  · rw [parses.hasFinished_earlier before] at finished
    rw [parses.earlier before] at chameleon ⊢
    exact parses.variants_ne (memoized.kept id finished chameleon)

theorem Parses.pairs {alike : DocumentId -> DocumentId -> Prop}
    (earlier : ∀ one other : DocumentId, one.index < old.documents.size ->
      other.index < old.documents.size -> alike one other -> one = other)
    (left : ∀ other : DocumentId, other.index < old.documents.size ->
      ¬alike ⟨old.documents.size⟩ other)
    (right : ∀ one : DocumentId, one.index < old.documents.size ->
      ¬alike one ⟨old.documents.size⟩)
    {one other : DocumentId} (inside : one.index < loaded.compilation.documents.size)
    (within : other.index < loaded.compilation.documents.size) (same : alike one other) :
    one = other := by
  rcases parses.last_or_earlier inside with rfl | before <;>
    rcases parses.last_or_earlier within with rfl | after
  · rfl
  · exact absurd same (left other after)
  · exact absurd same (right one before)
  · exact earlier one other before after same

theorem Memoized.unique_parse (memoized : old.Memoized options fetch) (stable : fetch.Stable)
    (found : fetch requested = .ok fetched) (unknown : old.known fetched.canonical adopted = none)
    {one other : DocumentId} (same : loaded.compilation.SameForm one other) : one = other := by
  have within {id : DocumentId} (finished : loaded.compilation.hasFinished id) :=
    Sound.within_of_finished (of_decide_eq_true finished)
  refine parses.pairs ?_ ?_ ?_ (within same.1) (within same.2.1) same
  · rintro one other before after ⟨first, second, alike⟩
    rw [parses.earlier before, parses.earlier after] at alike
    rw [parses.hasFinished_earlier before] at first
    rw [parses.hasFinished_earlier after] at second
    exact memoized.unique one other ⟨first, second, alike⟩
  · rintro other after ⟨-, second, text, target⟩
    rw [parses.last, parses.earlier after] at text target
    rw [parses.hasFinished_earlier after] at second
    exact (memoized.apart parses stable found unknown after text).2.2 second target
  · rintro one before ⟨first, -, text, target⟩
    rw [parses.last, parses.earlier before] at text target
    rw [parses.hasFinished_earlier before] at first
    exact (memoized.apart parses stable found unknown before text.symm).2.2 first target.symm

theorem Memoized.single_parse (memoized : old.Memoized options fetch) (stable : fetch.Stable)
    (found : fetch requested = .ok fetched) (unknown : old.known fetched.canonical adopted = none)
    {one other : DocumentId} (inside : one.index < loaded.compilation.documents.size)
    (within : other.index < loaded.compilation.documents.size)
    (same : loaded.compilation.SameOwn one other) : one = other := by
  refine parses.pairs ?_ ?_ ?_ inside within same
  · rintro one other before after ⟨text, own⟩
    rw [parses.earlier before, parses.earlier after] at text
    rw [parses.earlier before] at own
    exact memoized.single one other before after ⟨text, own⟩
  · rintro other after ⟨text, own⟩
    rw [parses.last, parses.earlier after] at text
    rw [parses.last, (memoized.apart parses stable found unknown after text).2.1] at own
    cases own
  · rintro one before ⟨text, own⟩
    rw [parses.last, parses.earlier before] at text
    rw [parses.earlier before, (memoized.apart parses stable found unknown before text.symm).1]
      at own
    cases own

theorem Memoized.parse (memoized : old.Memoized options fetch) (stable : fetch.Stable)
    (found : fetch requested = .ok fetched) (unknown : old.known fetched.canonical adopted = none)
    (reads : loaded.compilation.Reads options fetch) :
    loaded.compilation.Memoized options fetch where
  reads := reads
  linked _ _ linked := memoized.linked_parse parses stable found linked
  entered _ within := memoized.entered_parse parses within
  variants key target id there := by
    rcases parses.get?_variants there with before | ⟨rfl, same⟩
    · obtain ⟨target_, within⟩ := memoized.variants key target id before
      rw [parses.earlier within, parses.size]
      exact ⟨target_, Nat.lt_succ_of_lt within⟩
    · rw [parses.last, parses.size]
      exact ⟨same.symm, Nat.lt_succ_self _⟩
  kept _ finished chameleon := memoized.kept_parse parses finished chameleon
  unique _ _ same := memoized.unique_parse parses stable found unknown same
  single _ _ inside within same :=
    memoized.single_parse parses stable found unknown inside within same

end

end

theorem memoized_empty (options : Options) (fetch : Fetch) :
    empty.Memoized options fetch where
  reads := reads_empty options fetch
  linked _ _ linked := by cases linked
  entered _ within := absurd within (Nat.not_lt_zero _)
  variants _ _ _ there := by cases there
  kept _ finished :=
    absurd (Sound.within_of_finished (of_decide_eq_true finished)) (Nat.not_lt_zero _)
  unique _ _ same :=
    absurd (Sound.within_of_finished (of_decide_eq_true same.1)) (Nat.not_lt_zero _)
  single _ _ within := absurd within (Nat.not_lt_zero _)

theorem Change.memoized (stable : fetch.Stable) (change : Change options fetch old new)
    (memoized : old.Memoized options fetch) : new.Memoized options fetch := by
  have reads := change.reads memoized.reads
  cases change with
  | link requested fetched found => exact memoized.link stable found
  | parse requested adopted fetched found unknown plain =>
      obtain ⟨document, parses⟩ := parse_spec options old requested plain fetched
      exact memoized.parse parses stable found unknown reads
  | depend asker needed =>
      refine memoized.congr reads (by simp) (fun id => ?_) rfl rfl
      exact keeps_changeDocument Document.core old asker id fun _ => by split <;> rfl
  | noteFailure url failure => exact memoized.congr reads rfl (fun _ => rfl) rfl rfl

theorem Changes.memoized (stable : fetch.Stable) (changes : Changes options fetch old new)
    (memoized : old.Memoized options fetch) : new.Memoized options fetch :=
  changes.keeps memoized fun change => change.memoized stable

/-- A document suits a namespace if it has failed, has a namespace of its own, or lives in it. -/
def Suits (compilation : Compilation) (id : DocumentId) (adopted : Option String) : Prop :=
  (compilation.document id).state = .failed ∨ (compilation.document id).isChameleon = false ∨
    (compilation.document id).targetUri = adopted

theorem Memoized.suits_known (memoized : new.Memoized options fetch) {url : Url}
    {adopted : Option String} {id : DocumentId} (known : new.known url adopted = some id) :
    new.Suits id adopted := by
  obtain ⟨first, -, there⟩ := Option.bind_eq_some_iff.mp known
  unfold variant at there
  dsimp only at there
  split at there
  next fits =>
    cases there
    simp only [Bool.or_eq_true, Bool.not_eq_true', decide_eq_true_eq] at fits
    rcases fits with (own | failed) | lives
    · exact .inr (.inl own)
    · exact .inl failed
    · exact .inr (.inr lives)
  next => exact .inr (.inr (memoized.variants _ _ _ there).1)

/-- Whatever loading leads to suits the namespace asked for. -/
theorem Memoized.suits_load (memoized : old.Memoized options fetch) (stable : fetch.Stable)
    (adopting : options.adoptNamespaces = true) {url : Url} {adopted : Option String}
    (plain : adopted ≠ some "") {id : DocumentId}
    (led : (old.load options fetch url adopted).outcome = .known id ∨
      (old.load options fetch url adopted).outcome = .parsed id) :
    (old.load options fetch url adopted).compilation.Suits id adopted := by
  rcases led with known | parsed
  · obtain ⟨-, other, there⟩ := load_known known
    rw [if_pos adopting] at there
    have changes := changes_load options fetch old url plain
    exact (changes.memoized stable memoized).suits_known there
  · obtain ⟨base, fetched, document, parses, -, rfl⟩ := load_parsed plain parsed
    rw [if_pos adopting] at parses
    unfold Suits
    rw [parses.last]
    cases own : document.isChameleon with
    | false => exact .inr (.inl rfl)
    | true => exact .inr (.inr ((parses.read.targetUri own).trans parses.adopted))

end

end Compilation

namespace Gathering

/-- Whenever a request is served, no two finished documents at one URL live in one namespace, a
document that names its target namespace is the only one at its URL, and what an include leads to
suits the target namespace of the document that includes it. -/
theorem documents_memoized {options : Options} {fetch : Fetch} {url : Url} {gathering : Gathering}
    (stable : fetch.Stable) (arrives : Arrives options fetch url gathering) :
    (∀ one other, gathering.compilation.hasFinished one -> gathering.compilation.hasFinished other ->
      (gathering.compilation.document one).url.text =
          (gathering.compilation.document other).url.text ->
        (gathering.compilation.document one).targetUri =
          (gathering.compilation.document other).targetUri -> one = other) ∧
    (∀ one other : DocumentId, one.index < gathering.compilation.documents.size ->
      other.index < gathering.compilation.documents.size ->
        (gathering.compilation.document one).url.text =
            (gathering.compilation.document other).url.text ->
          (gathering.compilation.document one).isChameleon = false -> one = other) ∧
    ∀ request rest, gathering.requests = request :: rest ->
      (∃ asked ∈ (gathering.compilation.document request.asker).imports,
        request.url = asked.location ∧ request.adopted = asked.adopted) ∧
      ∀ asked ∈ (gathering.compilation.document request.asker).imports,
        request.url = asked.location -> request.adopted = asked.adopted ->
          asked.kind = .includeTag -> options.adoptNamespaces = true -> ∀ id,
            (gathering.compilation.load options fetch request.url request.adopted).outcome =
                .known id ∨
              (gathering.compilation.load options fetch request.url request.adopted).outcome =
                .parsed id ->
            (gathering.compilation.load options fetch request.url
              request.adopted).compilation.Suits id
                (gathering.compilation.document request.asker).targetUri := by
  have memoized := arrives.changes.memoized stable (Compilation.memoized_empty options fetch)
  refine ⟨fun one other first second text target =>
      memoized.unique one other ⟨first, second, text, target⟩,
    fun one other inside within text own => memoized.single one other inside within ⟨text, own⟩,
    fun request rest waiting => ?_⟩
  have asks := arrives.changes_requests.2 request (by rw [waiting]; exact List.mem_cons_self)
  have plain := asks.adopted_ne memoized.reads
  obtain ⟨finished, asked, member, location, adopted⟩ := asks
  refine ⟨⟨asked, member, location, adopted⟩, ?_⟩
  -- a document may import and include one location: what counts is that some include asks for it
  intro asked member _ adopted include_ adopting id led
  have suits := memoized.suits_load stable adopting plain led
  obtain ⟨_, fetched, -, read⟩ := memoized.reads request.asker
    (Compilation.Sound.within_of_finished finished)
  have target : request.adopted = (gathering.compilation.document request.asker).targetUri := by
    rw [adopted, Import.adopted, include_]
    exact read.asked finished asked member include_
  rw [← target]
  exact suits

def partUrl : Url := { Compilation.rootUrl with path := .rooted "/b.xsd".toList }

def servingPart : Fetch := fun url =>
  if url.text = Compilation.rootUrl.text then
    .ok ⟨Compilation.includingText.toUTF8.toList, Compilation.rootUrl⟩
  else .ok ⟨"<schema xmlns='http://www.w3.org/2001/XMLSchema'/>".toUTF8.toList, partUrl⟩

theorem stable_servingPart : servingPart.Stable := by
  have apart : partUrl.text ≠ Compilation.rootUrl.text := by decide +kernel
  exact Fetch.stable_pair ⟨Compilation.includingText.toUTF8.toList, Compilation.rootUrl⟩
    ⟨"<schema xmlns='http://www.w3.org/2001/XMLSchema'/>".toUTF8.toList, partUrl⟩ apart

set_option maxRecDepth 100000 in
theorem documents_memoized_include :
    servingPart.Stable ∧ ∃ (gathering : Gathering) (request : Request) (rest : List Request),
      Arrives .standard servingPart Compilation.rootUrl gathering ∧
      gathering.requests = request :: rest ∧
      (gathering.compilation.load .standard servingPart request.url request.adopted).outcome =
        .parsed ⟨1⟩ ∧
      ((gathering.compilation.load .standard servingPart request.url
        request.adopted).compilation.document ⟨1⟩).targetUri = some "t" := by
  have checked : (start .standard servingPart Compilation.rootUrl).toOption.any (fun gathering =>
      gathering.requests.head?.any (fun request =>
        (gathering.compilation.load .standard servingPart request.url request.adopted).outcome =
            .parsed ⟨1⟩ ∧
          ((gathering.compilation.load .standard servingPart request.url
            request.adopted).compilation.document ⟨1⟩).state = .finished ∧
          ((gathering.compilation.load .standard servingPart request.url
            request.adopted).compilation.document ⟨1⟩).isChameleon = true ∧
          (gathering.compilation.document request.asker).targetUri = some "t" ∧
          (gathering.compilation.document request.asker).imports.all
            (fun asked => asked.kind = .includeTag))) = true := by decide +kernel
  refine ⟨stable_servingPart, ?_⟩
  cases started : start .standard servingPart Compilation.rootUrl with
  | error failure =>
      rw [started] at checked
      cases checked
  | ok gathering =>
      rw [started] at checked
      obtain ⟨compilation, _ | ⟨request, rest⟩⟩ := gathering
      · cases checked
      · obtain ⟨outcome, finished, chameleon, target, includes⟩ := of_decide_eq_true checked
        obtain ⟨-, -, served⟩ := documents_memoized stable_servingPart (.start started)
        obtain ⟨⟨asked, member, location, adopted⟩, suits⟩ := served request rest rfl
        have include_ := of_decide_eq_true (Array.all_eq_true_iff_forall_mem.mp includes asked member)
        refine ⟨_, request, rest, .start started, rfl, outcome, ?_⟩
        rcases suits asked member location adopted include_ rfl ⟨1⟩ (.inr outcome) with failed | own | lives
        · cases finished.symm.trans failed
        · cases chameleon.symm.trans own
        · exact lives.trans target

end Gathering

end XmlSchema

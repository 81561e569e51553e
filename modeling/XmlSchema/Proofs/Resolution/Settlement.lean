import Mathlib.Data.List.Nodup
import XmlSchema.Proofs.Documents.Labels
import XmlSchema.Proofs.Resolution.Referents

set_option autoImplicit false

namespace XmlSchema

namespace Model

variable {old new : Model}

theorem Alike.housed (alike : old.Alike new) (housed : old.namespaces.Housed old.scopes) :
    new.namespaces.Housed new.scopes := by
  refine housed.congr (alike.rooted housed.rooted) alike.registry.size (fun id => ?_) fun id _ => ?_
  · exact (congrArg Namespace.root (alike.registry.core id) :)
  · exact (congrArg Scope.home (alike.frame id) :)

theorem Alike.carries (alike : old.Alike new) (tables : old.scopes.Grows new.scopes) :
    old.Carries new where
  housed := alike.housed
  size := alike.size
  written id := Node.written_of_declared (alike.declared id)
  scopes := Nat.le_of_eq alike.scopes.symm
  parent id _ := alike.parentScope id
  home id _ := (congrArg Scope.home (alike.frame id) :)
  tables := tables
  count := Nat.le_of_eq alike.registry.size.symm
  listed id := (congrArg Namespace.sources (alike.registry.core id) :)
  sources := alike.sources
  named id _ there := .inl ((alike.name id).symm.trans there)

theorem Alike.labelled (alike : old.Alike new) (labelled : old.Labelled) :
    ∀ source : SourceId, source.index < new.sources.size ->
      (new.namespaces.get (new.source source).target).name =
        some ((new.source source).prefixes.targetUri.getD "") := by
  intro source within
  have name (id : NamespaceId) : (new.namespaces.get id).name = (old.namespaces.get id).name :=
    (congrArg Namespace.name (alike.registry.core id) :)
  unfold Model.source
  rw [alike.sources] at within ⊢
  rw [name]
  exact (labelled.sources source within).1

end Model

namespace Compilation

section

variable {options : Options} {fetch : Fetch} {url : Url} {old : Compilation} {adopted : Option String}
  {model : Model}

theorem moves_steps (options : Options) (model : Model) (document : Document)
    (unread : document.prefixes = none) (items : List Markup.Item) :
    Draft.Moves ⟨model, document⟩
        (((Reading.start model document).steps options.limits items).map Reading.draft) ∧
      ((Reading.start model document).steps options.limits items).state.draft.document.header =
        (Reading.titled document (Reading.rootOf options.limits items)).header :=
  ⟨((Reading.placed_start model document).steps options.limits items).moves,
    Reading.header_steps unread rfl options.limits items⟩

theorem Loading.allotted (loading : old.Loading options fetch url adopted model)
    (plain : adopted ≠ some "") (allotted : old.model.Allotted) : model.Allotted := by
  cases loading with
  | before => exact allotted
  | reading count takes =>
      exact Draft.allotted_moves allotted rfl (moves_steps options old.model _ rfl _).1
  | after =>
      exact (changes_load options fetch old url plain).keeps allotted fun change => change.allotted

theorem Loading.labelled (loading : old.Loading options fetch url adopted model)
    (stable : fetch.Stable) (memoized : old.Memoized options fetch) (labelled : old.Labelled)
    (lends : old.Lends adopted) : model.Labelled := by
  cases loading with
  | before => exact labelled.model
  | @reading fetched count takes =>
      -- where the document was found is linked to it first
      have aliased := labelled.withAlias url fetched.canonical
      have linked := memoized.link stable takes.found
      have same := old.model_withAlias url fetched.canonical
      obtain ⟨moves, header⟩ := moves_steps options old.model
        (.fresh fetched.canonical url (options.grants adopted)) rfl
        ((Markup.scan fetched.bytes).items.take count)
      rw [← same] at moves header ⊢
      exact (aliased.reading linked stable takes.found takes.fresh
        ((lends.grants options).congr same) moves (Reading.rootOf_take ..) header).model
  | after => exact (labelled.load memoized stable url lends).model

theorem Reached.settled (reached : Reached options fetch url model) (stable : fetch.Stable) :
    model.Allotted ∧ ∀ source : SourceId, source.index < model.sources.size ->
      (model.namespaces.get (model.source source).target).name =
        some ((model.source source).prefixes.targetUri.getD "") := by
  have names {model : Model} (labelled : model.Labelled) (source : SourceId)
      (within : source.index < model.sources.size) :=
    (labelled.sources source within).1
  cases reached with
  | root loading =>
      have lends := lends_none empty
      exact ⟨loading.allotted lends.plain Model.allotted_empty,
        names (loading.labelled stable (memoized_empty options fetch) labelled_empty lends)⟩
  | request arrives loading =>
      have memoized := arrives.changes.memoized stable (memoized_empty options fetch)
      have labelled := arrives.labelled stable
      have lends := labelled.lends memoized.reads (arrives.changes_requests.2 _ List.mem_cons_self)
      exact ⟨loading.allotted lends.plain arrives.changes.allotted,
        names (loading.labelled stable memoized labelled lends)⟩
  | work gathered reaches =>
      have sound := sound_gather gathered
      have arrives := gather_arrives gathered
      have alike := (Pass.Reaches.scheduled reaches sound.poised sound.scheduled).alike
      have grows := reaches.grows sound.poised sound.scheduled
      exact ⟨arrives.changes.allotted.carried (alike.carries grows),
        alike.labelled (arrives.labelled stable).model⟩

end

/-- Declarations land in the namespace that their document targets. In every state of a compilation, a
source targets the namespace of the name that its document says, and is listed there once and nowhere
else. The tags of the source have their scopes in that namespace, but for a schema tag that opens in a
document that has one already and is refused; and the names that they declare are names of that
namespace, each entered in a table of one of its scopes. -/
theorem reached_settles {options : Options} {fetch : Fetch} {url : Url} {model : Model}
    (stable : fetch.Stable) (reached : Reached options fetch url model) {source : SourceId}
    (within : source.index < model.sources.size) :
    (model.namespaces.get (model.source source).target).name =
        some ((model.source source).prefixes.targetUri.getD "") ∧
      (model.namespaces.get (model.source source).target).sources.count source = 1 ∧
      (∀ id, source ∈ (model.namespaces.get id).sources -> id = (model.source source).target) ∧
      ∀ id, (model.node id).source = some source ->
        (¬ model.Refused id ->
          (model.scopes.get (model.node id).scope).home = some (model.source source).target) ∧
        ∀ name, (model.node id).name = some name ->
          name.uri = (model.source source).prefixes.targetUri ∧
            ∃ scope kind, (model.node id).kind.symbols? = some kind ∧
              (model.scopes.get scope).home = some (model.source source).target ∧
              (model.scopes.table scope kind).get? name ≠ none := by
  obtain ⟨allotted, named⟩ := reached.settled stable
  have listed := (allotted.listed (model.source source).target source).mpr ⟨within, rfl⟩
  refine ⟨named source within, List.count_eq_one_of_mem (allotted.once _) listed,
    fun id there => ((allotted.listed id source).mp there).2.symm, fun id own =>
      ⟨allotted.homes id source own, fun name given => ?_⟩⟩
  obtain ⟨uri, kind, symbols, entered⟩ := allotted.names id source name own given
  have plain : (model.node id).kind ≠ .schema := fun schema => by
    rw [schema] at symbols
    cases symbols
  exact ⟨uri, _, kind, symbols, (allotted.around id source own plain).2, entered⟩

set_option maxRecDepth 100000 in
theorem reached_settles_include :
    Gathering.servingPart.Stable ∧ ∃ model,
      Reached .standard Gathering.servingPart rootUrl model ∧ 1 < model.sources.size ∧
        (model.source ⟨1⟩).prefixes.targetUri = some "t" ∧
        (model.namespaces.get (model.source ⟨1⟩).target).name = some "t" := by
  obtain ⟨read, gathered, within, target⟩ := @gather_of_served .standard Gathering.servingPart rootUrl
    (fun read => 1 < read.model.sources.size ∧
      (read.model.source ⟨1⟩).prefixes.targetUri = some "t") _ 1 (by decide +kernel)
  have stable := Gathering.stable_servingPart
  obtain ⟨name, -⟩ := reached_settles stable (reached_gather gathered) within
  rw [target] at name
  exact ⟨stable, read.model, reached_gather gathered, within, target, name⟩

def twiceText : String :=
  "<schema xmlns='http://www.w3.org/2001/XMLSchema'/>" ++
    "<schema xmlns='http://www.w3.org/2001/XMLSchema'/>"

def servingTwice : Fetch := fun url =>
  if url.text = rootUrl.text then .ok ⟨includingText.toUTF8.toList, rootUrl⟩
  else .ok ⟨twiceText.toUTF8.toList, Gathering.partUrl⟩

theorem stable_servingTwice : servingTwice.Stable := by
  have apart : Gathering.partUrl.text ≠ rootUrl.text := by decide +kernel
  exact Fetch.stable_pair ⟨includingText.toUTF8.toList, rootUrl⟩
    ⟨twiceText.toUTF8.toList, Gathering.partUrl⟩ apart

set_option maxRecDepth 100000 in
/-- The second schema tag is refused, and its scope belongs to no namespace. -/
theorem reached_settles_second :
    servingTwice.Stable ∧ ∃ model id, Reached .standard servingTwice rootUrl model ∧
      1 < model.sources.size ∧ (model.node id).source = some ⟨1⟩ ∧
        (model.scopes.get (model.node id).scope).home ≠ some (model.source ⟨1⟩).target := by
  obtain ⟨read, gathered, within, own, home⟩ := @gather_of_served .standard servingTwice rootUrl
    (fun read => 1 < read.model.sources.size ∧ (read.model.node ⟨49⟩).source = some ⟨1⟩ ∧
      (read.model.scopes.get (read.model.node ⟨49⟩).scope).home = none) _ 1 (by decide +kernel)
  refine ⟨stable_servingTwice, read.model, ⟨49⟩, reached_gather gathered, within, own, ?_⟩
  rw [home]
  exact nofun

end Compilation

end XmlSchema

import XmlSchema.Proofs.Documents.Arrival
import XmlSchema.Proofs.Resolution.Machine

set_option autoImplicit false

namespace XmlSchema

def Options.grants (options : Options) (adopted : Option String) : Option String :=
  if options.adoptNamespaces then adopted else none

namespace Compilation

structure Takes (options : Options) (fetch : Fetch) (old : Compilation) (url : Url)
    (adopted : Option String) (fetched : Fetched) : Prop where
  unknown : old.known url adopted = none
  permitted : old.permits options url = .ok ()
  found : fetch url = .ok fetched
  fresh : (old.withAlias url fetched.canonical).known fetched.canonical adopted = none
  small : options.limits.check .documentSize fetched.bytes.length = .ok ()

/-- The models that loading goes through: before and after, and where it takes in a document, after
each of its events up to the first that stops it. -/
inductive Loading (options : Options) (fetch : Fetch) (old : Compilation) (url : Url)
    (adopted : Option String) : Model -> Prop where
  | before : Loading options fetch old url adopted old.model
  | reading {fetched : Fetched} (count : Nat)
      (takes : old.Takes options fetch url (options.grants adopted) fetched) :
      Loading options fetch old url adopted
        ((Reading.start old.model (.fresh fetched.canonical url (options.grants adopted))).steps
          options.limits ((Markup.scan fetched.bytes).items.take count)).state.model
  | after : Loading options fetch old url adopted
      (old.load options fetch url adopted).compilation.model

/-- The models that a compilation of the schema at a URL goes through. -/
inductive Reached (options : Options) (fetch : Fetch) (url : Url) : Model -> Prop where
  | root {model : Model} (loading : empty.Loading options fetch url none model) :
      Reached options fetch url model
  | request {compilation : Compilation} {request : Request} {rest : List Request} {model : Model}
      (arrives : Gathering.Arrives options fetch url ⟨compilation, request :: rest⟩)
      (loading : compilation.Loading options fetch request.url request.adopted model) :
      Reached options fetch url model
  | work {read : Compilation} {pass : Pass} (gathered : gather options fetch url = .ok read)
      (reaches : Pass.Reaches read.outset pass) : Reached options fetch url pass.model

theorem load_cases (options : Options) (fetch : Fetch) (old : Compilation) (url : Url)
    (adopted : Option String) :
    (∃ fetched, old.Takes options fetch url (options.grants adopted) fetched ∧
      old.load options fetch url adopted = (old.withAlias url fetched.canonical).parse options url
        (options.grants adopted) fetched) ∨
    (old.load options fetch url adopted).compilation = old ∨
    ∃ fetched, fetch url = .ok fetched ∧
      (old.load options fetch url adopted).compilation = old.withAlias url fetched.canonical := by
  have course : Course options fetch old url (options.grants adopted) _ :=
    old.load_course options fetch url adopted
  generalize old.load options fetch url adopted = loaded at course ⊢
  cases course with
  | known | refused | missing => exact .inr (.inl rfl)
  | elsewhere fetches | large fetches => exact .inr (.inr ⟨_, fetches.found, rfl⟩)
  | taken fetches fresh small =>
      exact .inl ⟨_, ⟨fetches.unknown, fetches.permitted, fetches.found, fresh, small⟩, rfl⟩

theorem reached_gather {options : Options} {fetch : Fetch} {url : Url} {read : Compilation}
    (gathered : gather options fetch url = .ok read) : Reached options fetch url read.model :=
  .work gathered .refl

theorem reached_compile {options : Options} {fetch : Fetch} {url : Url} {compilation : Compilation}
    (compiled : compile options fetch url = .ok compilation) :
    Reached options fetch url compilation.model := by
  obtain ⟨read, gathered, -, rfl⟩ := compile_ok compiled
  exact .work gathered read.resolve_reaches

end Compilation

end XmlSchema

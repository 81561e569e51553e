import XmlSchema.Compilation.Basic
import XmlSchema.Document.Reading

set_option autoImplicit false

namespace XmlSchema

namespace Compilation

inductive Outcome where
  | failed (failure : Failure)
  | known (id : DocumentId)
  | parsed (id : DocumentId)
  deriving DecidableEq, Repr

structure Loaded where
  compilation : Compilation
  outcome : Outcome

def enterUrls (compilation : Compilation) (id : DocumentId) (canonical requested : Url) :
    Table String DocumentId :=
  (compilation.byUrl.insertNew canonical.text id).insertNew requested.text id

def enterVariant (compilation : Compilation) (id : DocumentId) (document : Document) :
    Table (String × Option String) DocumentId :=
  if document.isChameleon then
    compilation.variants.insertNew (document.url.text, document.targetUri) id
  else compilation.variants

def abandon (model : Model) (tasks : Array TaskId) : Model :=
  { model with queue := tasks.foldl (fun queue task => queue.mark .done task) model.queue }

def parse (options : Options) (compilation : Compilation) (requested : Url)
    (adopted : Option String) (fetched : Fetched) : Loaded :=
  let id : DocumentId := ⟨compilation.documents.size⟩
  let byUrl := compilation.enterUrls id fetched.canonical requested
  let draft : Draft := ⟨compilation.model, .fresh fetched.canonical requested adopted⟩
  let attempt := draft.read options.limits fetched.bytes
  let document := attempt.state.document
  match attempt.failure with
  | none =>
      ⟨{ compilation with
          model := attempt.state.model
          documents := compilation.documents.push { document with state := .finished }
          byUrl := byUrl
          variants := compilation.enterVariant id document
          journal := compilation.journal.push (.firstPassDone document.url) }, .parsed id⟩
  | some failure =>
      ⟨{ compilation with
          model := abandon attempt.state.model document.tasks
          documents := compilation.documents.push { document with state := .failed }
          byUrl := byUrl }, .failed failure⟩

/-- Takes in a fetched document, which may be one that is known by another URL. -/
def receive (options : Options) (compilation : Compilation) (requested : Url)
    (adopted : Option String) (fetched : Fetched) : Loaded :=
  let compilation := compilation.withAlias requested fetched.canonical
  match compilation.known fetched.canonical adopted with
  | some id => ⟨compilation, .known id⟩
  | none =>
      match options.limits.check .documentSize fetched.bytes.length with
      | .error exceeded => ⟨compilation, .failed (.limit exceeded)⟩
      | .ok () => compilation.parse options requested adopted fetched

def permits (options : Options) (compilation : Compilation) (url : Url) : Except Failure Unit :=
  if !options.allowRemote && url.isRemote then .error (.resource (.remoteDisabled url.text))
  else (options.limits.check .documents (compilation.documents.size + 1)).mapError .limit

def load (options : Options) (fetch : Fetch) (compilation : Compilation) (url : Url)
    (adopted : Option String) : Loaded :=
  let adopted := if options.adoptNamespaces then adopted else none
  match compilation.known url adopted with
  | some id => ⟨compilation, .known id⟩
  | none =>
      match compilation.permits options url with
      | .error failure => ⟨compilation, .failed failure⟩
      | .ok () =>
          match fetch url with
          | .error failure => ⟨compilation, .failed failure⟩
          | .ok fetched => compilation.receive options url adopted fetched

theorem withAlias_eq (compilation : Compilation) (url canonical : Url) :
    ∃ byUrl, compilation.withAlias url canonical = { compilation with byUrl := byUrl } := by
  unfold withAlias
  split <;> exact ⟨_, rfl⟩

@[simp] theorem documents_withAlias (compilation : Compilation) (url canonical : Url) :
    (compilation.withAlias url canonical).documents = compilation.documents := by
  obtain ⟨byUrl, same⟩ := compilation.withAlias_eq url canonical
  rw [same]

@[simp] theorem model_withAlias (compilation : Compilation) (url canonical : Url) :
    (compilation.withAlias url canonical).model = compilation.model := by
  obtain ⟨byUrl, same⟩ := compilation.withAlias_eq url canonical
  rw [same]

theorem size_parse (options : Options) (compilation : Compilation) (requested : Url)
    (adopted : Option String) (fetched : Fetched) :
    (compilation.parse options requested adopted fetched).compilation.documents.size =
      compilation.documents.size + 1 := by
  unfold parse; dsimp only; split <;> simp

structure Fetches (options : Options) (fetch : Fetch) (old : Compilation) (url : Url)
    (adopted : Option String) (fetched : Fetched) : Prop where
  unknown : old.known url adopted = none
  permitted : old.permits options url = .ok ()
  found : fetch url = .ok fetched

/-- All that loading a URL can come to, by what it meets. -/
inductive Course (options : Options) (fetch : Fetch) (old : Compilation) (url : Url)
    (adopted : Option String) : Loaded -> Prop where
  | known {id : DocumentId} (there : old.known url adopted = some id) :
      Course options fetch old url adopted ⟨old, .known id⟩
  | refused {failure : Failure} (unknown : old.known url adopted = none)
      (refused : old.permits options url = .error failure) :
      Course options fetch old url adopted ⟨old, .failed failure⟩
  | missing {failure : Failure} (unknown : old.known url adopted = none)
      (permitted : old.permits options url = .ok ()) (missing : fetch url = .error failure) :
      Course options fetch old url adopted ⟨old, .failed failure⟩
  | elsewhere {fetched : Fetched} {id : DocumentId}
      (fetches : old.Fetches options fetch url adopted fetched)
      (there : (old.withAlias url fetched.canonical).known fetched.canonical adopted = some id) :
      Course options fetch old url adopted ⟨old.withAlias url fetched.canonical, .known id⟩
  | large {fetched : Fetched} {exceeded : Limits.Exceeded}
      (fetches : old.Fetches options fetch url adopted fetched)
      (fresh : (old.withAlias url fetched.canonical).known fetched.canonical adopted = none)
      (large : options.limits.check .documentSize fetched.bytes.length = .error exceeded) :
      Course options fetch old url adopted
        ⟨old.withAlias url fetched.canonical, .failed (.limit exceeded)⟩
  | taken {fetched : Fetched} (fetches : old.Fetches options fetch url adopted fetched)
      (fresh : (old.withAlias url fetched.canonical).known fetched.canonical adopted = none)
      (small : options.limits.check .documentSize fetched.bytes.length = .ok ()) :
      Course options fetch old url adopted
        ((old.withAlias url fetched.canonical).parse options url adopted fetched)

theorem load_course (options : Options) (fetch : Fetch) (old : Compilation) (url : Url)
    (adopted : Option String) :
    Course options fetch old url (if options.adoptNamespaces then adopted else none)
      (old.load options fetch url adopted) := by
  unfold load receive
  dsimp only
  generalize (if options.adoptNamespaces then adopted else none) = granted
  split
  next id there => exact .known there
  next unknown =>
    split
    next failure refused => exact .refused unknown refused
    next permitted =>
      split
      next failure missing => exact .missing unknown permitted missing
      next fetched found =>
        have fetches := Fetches.mk unknown permitted found
        split
        next id there => exact .elsewhere fetches there
        next fresh =>
          split
          next exceeded large => exact .large fetches fresh large
          next small => exact .taken fetches fresh small

theorem size_load_le (options : Options) (fetch : Fetch) (compilation : Compilation) (url : Url)
    (adopted : Option String) :
    compilation.documents.size ≤
      (compilation.load options fetch url adopted).compilation.documents.size := by
  have course := compilation.load_course options fetch url adopted
  generalize compilation.load options fetch url adopted = loaded at course ⊢
  cases course with
  | taken => simp [size_parse]
  | _ => simp

theorem size_of_permits {options : Options} {compilation : Compilation} {url : Url}
    (permitted : compilation.permits options url = .ok ()) :
    compilation.documents.size + 1 ≤ options.limits.documents := by
  unfold permits at permitted
  split at permitted
  next => cases permitted
  next =>
    unfold Limits.check at permitted
    split at permitted
    next => cases permitted
    next within => exact Nat.not_lt.mp within

theorem size_load_parsed {options : Options} {fetch : Fetch} {compilation : Compilation}
    {url : Url} {adopted : Option String} {id : DocumentId}
    (parsed : (compilation.load options fetch url adopted).outcome = .parsed id) :
    (compilation.load options fetch url adopted).compilation.documents.size =
        compilation.documents.size + 1 ∧
      compilation.documents.size + 1 ≤ options.limits.documents := by
  have course := compilation.load_course options fetch url adopted
  generalize compilation.load options fetch url adopted = loaded at course parsed ⊢
  cases course with
  | taken fetches => exact ⟨by simp [size_parse], size_of_permits fetches.permitted⟩
  | _ => cases parsed

end Compilation

end XmlSchema

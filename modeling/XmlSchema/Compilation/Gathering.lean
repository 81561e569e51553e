import XmlSchema.Compilation.Loading
import XmlSchema.Model.Resolution

set_option autoImplicit false

namespace XmlSchema

structure Request where
  url : Url
  adopted : Option String
  asker : DocumentId
  deriving DecidableEq, Repr

/-- A compilation and the documents still to be loaded, first come first served. -/
structure Gathering where
  compilation : Compilation
  requests : List Request

namespace Compilation

def depend (compilation : Compilation) (asker needed : DocumentId) : Compilation :=
  compilation.changeDocument asker fun document =>
    if document.dependencies.contains needed then document
    else { document with dependencies := document.dependencies.push needed }

def requests (compilation : Compilation) (id : DocumentId) : List Request :=
  (compilation.document id).imports.toList.map fun asked => ⟨asked.location, asked.adopted, id⟩

def noteFailure (compilation : Compilation) (url : Url) (failure : Failure) : Compilation :=
  { compilation with failures := compilation.failures.push ⟨url, failure⟩ }

@[simp] theorem size_depend (compilation : Compilation) (asker needed : DocumentId) :
    (compilation.depend asker needed).documents.size = compilation.documents.size := by
  simp [depend, changeDocument]

end Compilation

namespace Gathering

def serve (options : Options) (fetch : Fetch) (compilation : Compilation) (request : Request)
    (rest : List Request) : Gathering :=
  let loaded := compilation.load options fetch request.url request.adopted
  match loaded.outcome with
  | .failed failure => ⟨loaded.compilation.noteFailure request.url failure, rest⟩
  | .known id => ⟨loaded.compilation.depend request.asker id, rest⟩
  | .parsed id =>
      let compilation := loaded.compilation.depend request.asker id
      ⟨compilation, rest ++ compilation.requests id⟩

def advance (options : Options) (fetch : Fetch) (gathering : Gathering) : Gathering :=
  match gathering.requests with
  | [] => gathering
  | request :: rest => serve options fetch gathering.compilation request rest

def remaining (options : Options) (gathering : Gathering) : Nat × Nat :=
  (options.limits.documents - gathering.compilation.documents.size, gathering.requests.length)

theorem remaining_serve (options : Options) (fetch : Fetch) (compilation : Compilation)
    (request : Request) (rest : List Request) :
    Prod.Lex (· < ·) (· < ·) ((serve options fetch compilation request rest).remaining options)
      ((Gathering.mk compilation (request :: rest)).remaining options) := by
  have grows := compilation.size_load_le options fetch request.url request.adopted
  unfold serve remaining; dsimp only
  split
  next failure outcome =>
    have same : (Compilation.noteFailure
        (compilation.load options fetch request.url request.adopted).compilation request.url
        failure).documents.size =
      (compilation.load options fetch request.url request.adopted).compilation.documents.size := rfl
    rw [Prod.lex_def, same]
    simp only [List.length_cons]
    omega
  next id outcome =>
    rw [Prod.lex_def, Compilation.size_depend]
    simp only [List.length_cons]
    omega
  next id outcome =>
    have read := Compilation.size_load_parsed outcome
    rw [Prod.lex_def, Compilation.size_depend]
    simp only
    omega

def run (options : Options) (fetch : Fetch) (compilation : Compilation) :
    List Request -> Compilation
  | [] => compilation
  | request :: rest =>
      let next := serve options fetch compilation request rest
      run options fetch next.compilation next.requests
termination_by requests => (Gathering.mk compilation requests).remaining options
decreasing_by exact remaining_serve options fetch compilation request rest

def start (options : Options) (fetch : Fetch) (url : Url) : Except Failure Gathering :=
  let loaded := Compilation.empty.load options fetch url none
  match loaded.outcome with
  | .failed failure => .error failure
  | .known id => .ok ⟨loaded.compilation, loaded.compilation.requests id⟩
  | .parsed id => .ok ⟨loaded.compilation, loaded.compilation.requests id⟩

end Gathering

namespace Compilation

/-- Works on the deferred tags of one document, in the order in which they closed. -/
def resolveDocument (compilation : Compilation) (id : DocumentId) : Compilation :=
  let document := compilation.document id
  match document.state with
  | .finished =>
      { compilation with
        model := compilation.model.runAll document.tasks.toList
        journal := compilation.journal.push (.secondPassStarted document.url) }
  | _ => compilation

def resolve (compilation : Compilation) : Compilation :=
  compilation.order.foldl resolveDocument compilation

end Compilation

/-- Compiles the schema at a URL and everything it asks for. -/
def compile (options : Options) (fetch : Fetch) (url : Url) : Except Failure Compilation :=
  (Gathering.start options fetch url).map fun gathering =>
    (Gathering.run options fetch gathering.compilation gathering.requests).resolve

end XmlSchema

import XmlSchema.Document.Basic
import XmlSchema.Graph
import XmlSchema.Model.Basic

set_option autoImplicit false

namespace XmlSchema

structure Options where
  limits : Limits
  allowRemote : Bool
  adoptNamespaces : Bool
  deriving DecidableEq, Repr

namespace Options

def standard : Options := ⟨.standard, true, true⟩

instance : Inhabited Options := ⟨standard⟩

end Options

structure Fetched where
  bytes : List UInt8
  canonical : Url
  deriving DecidableEq, Repr

abbrev Fetch := Url -> Except Failure Fetched

structure DocumentFailure where
  url : Url
  failure : Failure
  deriving DecidableEq, Repr

inductive Milestone where
  | firstPassDone (url : Url)
  | secondPassStarted (url : Url)
  deriving DecidableEq, Repr

structure Compilation where
  model : Model
  documents : Array Document
  byUrl : Table String DocumentId
  /-- Documents without a target namespace of their own, by URL and adopted namespace. -/
  variants : Table (String × Option String) DocumentId
  failures : Array DocumentFailure
  journal : Array Milestone

namespace Compilation

def empty : Compilation := ⟨.empty, #[], .empty, .empty, #[], #[]⟩

instance : Inhabited Compilation := ⟨empty⟩

def document (compilation : Compilation) (id : DocumentId) : Document :=
  compilation.documents[id.index]?.getD default

def changeDocument (compilation : Compilation) (id : DocumentId) (f : Document -> Document) :
    Compilation :=
  { compilation with documents := compilation.documents.modify id.index f }

/-- The form of a document that lives in a namespace. A document with a target namespace has only
one form, and one that failed is not tried again. -/
def variant (compilation : Compilation) (id : DocumentId) (adopted : Option String) :
    Option DocumentId :=
  let document := compilation.document id
  if !document.isChameleon || document.state = .failed || document.targetUri = adopted then some id
  else compilation.variants.get? (document.url.text, adopted)

def known (compilation : Compilation) (url : Url) (adopted : Option String) : Option DocumentId :=
  (compilation.byUrl.get? url.text).bind fun id => compilation.variant id adopted

def withAlias (compilation : Compilation) (url canonical : Url) : Compilation :=
  match compilation.byUrl.get? canonical.text with
  | some id => { compilation with byUrl := compilation.byUrl.insertNew url.text id }
  | none => compilation

def rootSource (compilation : Compilation) : Option Source :=
  (compilation.document ⟨0⟩).source.map compilation.model.source

def check (compilation : Compilation) : Except Failure Unit :=
  if compilation.model.unresolved.isEmpty then .ok ()
  else .error (.unresolved compilation.model.unresolved.toList)

def graph (compilation : Compilation) : Graph where
  size := compilation.documents.size
  next := fun index => ((compilation.document ⟨index⟩).dependencies.map DocumentId.index).toList

/-- The documents, each after those it asks for as far as cycles allow. -/
def order (compilation : Compilation) : List DocumentId :=
  (compilation.graph.postorder (List.range compilation.documents.size)).map DocumentId.mk

end Compilation

end XmlSchema

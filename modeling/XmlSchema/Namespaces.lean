import XmlSchema.Scope.Scopes

set_option autoImplicit false

namespace XmlSchema

structure Namespace where
  name : Option String
  url : Option String
  short : Option String
  /-- The scope of its global definitions. -/
  root : ScopeId
  sources : List SourceId
  /-- Other namespaces whose definitions it uses, in the order of first use. -/
  references : List NamespaceId
  deriving DecidableEq, Repr

namespace Namespace

def fresh (root : ScopeId) : Namespace := ⟨none, none, none, root, [], []⟩

instance : Inhabited Namespace := ⟨fresh ⟨0⟩⟩

end Namespace

structure Namespaces where
  all : Array Namespace
  byName : Table String NamespaceId
  byUrl : Table String NamespaceId
  builtins : ScopeId
  deriving Repr

structure Registered where
  namespaces : Namespaces
  scopes : Scopes
  id : NamespaceId

namespace Namespaces

def empty (builtins : ScopeId) : Namespaces := ⟨#[], .empty, .empty, builtins⟩

instance : Inhabited Namespaces := ⟨empty ⟨0⟩⟩

def size (namespaces : Namespaces) : Nat := namespaces.all.size

def get (namespaces : Namespaces) (id : NamespaceId) : Namespace :=
  namespaces.all[id.index]?.getD default

def change (namespaces : Namespaces) (id : NamespaceId) (f : Namespace -> Namespace) :
    Namespaces :=
  { namespaces with all := namespaces.all.modify id.index f }

def find (namespaces : Namespaces) (name : String) : Option NamespaceId :=
  namespaces.byName.get? name

def findByUrl (namespaces : Namespaces) (url : String) : Option NamespaceId :=
  namespaces.byUrl.get? url

def nonempty (value : Option String) : Option String := value.filter (· ≠ "")

def known (namespaces : Namespaces) (name url : Option String) : Option NamespaceId :=
  match name.bind namespaces.find with
  | some id => some id
  | none => url.bind namespaces.findByUrl

def withName (namespaces : Namespaces) (id : NamespaceId) (name : Option String) : Namespaces :=
  match name, (namespaces.get id).name with
  | some name, none =>
      { namespaces.change id fun entry => { entry with name := some name } with
        byName := namespaces.byName.insertNew name id }
  | _, _ => namespaces

def withUrl (namespaces : Namespaces) (id : NamespaceId) (url : Option String) : Namespaces :=
  match url, (namespaces.get id).url with
  | some url, none =>
      { namespaces.change id fun entry => { entry with url := some url } with
        byUrl := namespaces.byUrl.insertNew url id }
  | _, _ => namespaces

def withShort (namespaces : Namespaces) (id : NamespaceId) (short : Option String) : Namespaces :=
  match short with
  | some short =>
      namespaces.change id fun entry => { entry with short := some (entry.short.getD short) }
  | none => namespaces

def describe (namespaces : Namespaces) (id : NamespaceId) (name url short : Option String) :
    Namespaces :=
  ((namespaces.withName id name).withUrl id url).withShort id short

/-- Finds or makes a namespace and adds what is not yet known about it. An empty URL or prefix says
nothing. -/
def register (namespaces : Namespaces) (scopes : Scopes) (name url short : Option String) :
    Registered :=
  let url := nonempty url
  let short := nonempty short
  match namespaces.known name url with
  | some id => ⟨namespaces.describe id name url short, scopes, id⟩
  | none =>
      let id : NamespaceId := ⟨namespaces.size⟩
      let added := { namespaces with all := namespaces.all.push (.fresh scopes.next) }
      ⟨added.describe id name url short, scopes.create (some namespaces.builtins) (some id), id⟩

def addSource (namespaces : Namespaces) (id : NamespaceId) (source : SourceId) : Namespaces :=
  namespaces.change id fun entry => { entry with sources := entry.sources ++ [source] }

def addReference (namespaces : Namespaces) (user used : NamespaceId) : Namespaces :=
  if user = used then namespaces
  else
    namespaces.change user fun entry =>
      if used ∈ entry.references then entry
      else { entry with references := entry.references ++ [used] }

/-- Looks a name up from a scope. A name of another namespace is looked up from that namespace's
root scope; a name of an unknown namespace is not found. -/
def lookup (namespaces : Namespaces) (scopes : Scopes) (id : ScopeId) (kind : Symbols)
    (name : QName) : Option Definition :=
  match namespaces.find name.uriText with
  | none => none
  | some home =>
      let start := if (scopes.get id).home = some home then id else (namespaces.get home).root
      scopes.findLocal start kind name

end Namespaces

end XmlSchema

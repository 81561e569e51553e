import XmlSchema.Failure
import XmlSchema.Ids
import XmlSchema.Prefixes

set_option autoImplicit false

namespace XmlSchema

structure Import where
  kind : Kind
  /-- What an import declares, or the namespace that an include asks its document to adopt. -/
  uri : Option String
  location : Url
  line : Nat
  deriving DecidableEq, Repr

namespace Import

/-- The namespace for a document that has none of its own. Only includes hand theirs on. -/
def adopted (asked : Import) : Option String :=
  match asked.kind with
  | .includeTag => asked.uri
  | _ => none

end Import

namespace Document

inductive State where
  | reading
  | finished
  | failed
  deriving DecidableEq, Repr

end Document

structure Document where
  url : Url
  requested : Url
  /-- The namespace to be adopted where the root tag names none. -/
  adopted : Option String
  prefixes : Option Prefixes
  /-- The root tag names no target namespace. -/
  isChameleon : Bool
  source : Option SourceId
  imports : Array Import
  tasks : Array TaskId
  dependencies : Array DocumentId
  state : Document.State
  deriving Repr

namespace Document

def fresh (url requested : Url) (adopted : Option String) : Document where
  url := url
  requested := requested
  adopted := adopted
  prefixes := none
  isChameleon := false
  source := none
  imports := #[]
  tasks := #[]
  dependencies := #[]
  state := .reading

instance : Inhabited Document := ⟨fresh default default none⟩

def targetUri (document : Document) : Option String :=
  document.prefixes.bind fun prefixes => prefixes.targetUri

def isTargetName (name : String) : Bool := name.toLower == "targetnamespace"

/-- The target namespace that attributes of a root tag write, the last one if there are several. -/
def declaredTarget (attributes : List (String × String)) : Option String :=
  attributes.foldl (fun target entry =>
    if isTargetName entry.1 then some entry.2 else target) none

def declaresTarget (attributes : List (String × String)) : Bool :=
  attributes.any fun entry => isTargetName entry.1 && entry.2 != ""

def bindAttribute (prefixes : Prefixes) (entry : String × String) : Prefixes :=
  if entry.1 = "xmlns" then prefixes.withDefault entry.2
  else if entry.1.startsWith "xmlns:" then
    prefixes.bind (String.ofList (entry.1.toList.drop 6)) entry.2
  else prefixes

/-- What the attributes of a root tag bind. Without a target namespace of its own, the document
takes the adopted one. -/
def rootPrefixes (adopted : Option String) (attributes : List (String × String)) : Prefixes :=
  let target := match (declaredTarget attributes).filter (· ≠ "") with
    | some uri => some uri
    | none => adopted
  (attributes.foldl bindAttribute .empty).withTarget target

def withRoot (document : Document) (attributes : List (String × String)) : Document :=
  match document.prefixes with
  | some _ => document
  | none =>
      { document with
        prefixes := some (rootPrefixes document.adopted attributes)
        isChameleon := !declaresTarget attributes }

end Document

end XmlSchema

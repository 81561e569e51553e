import XmlSchema.Model.Basic

set_option autoImplicit false

namespace XmlSchema

/-- What came of an attribute value that should name something. -/
inductive Reference where
  | malformed
  | absent (name : QName)
  | found (name : QName) (target : NodeId)
  deriving DecidableEq, Repr

namespace Reference

def target? : Reference -> Option NodeId
  | .found _ target => some target
  | _ => none

def typeRef? : Reference -> Option TypeRef
  | .malformed => none
  | .absent name => some (.unresolved name)
  | .found _ target => some (.resolved target)

end Reference

namespace Model

def readName (model : Model) (id : NodeId) (written : String) : Except Name.Fault QName :=
  (((model.sourceOf? id).map Source.prefixes).getD .empty).referenceName written

def find (model : Model) (id : NodeId) (kind : Symbols) (name : QName) : Option NodeId :=
  (model.namespaces.lookup model.scopes (model.node id).scope kind name).map Definition.target

/-- Notes that the namespace of one node uses a definition. Built-in types are free to use. -/
def noteUse (model : Model) (id : NodeId) (name : QName) (target : NodeId) : Model :=
  if (model.node target).isBuiltin then model
  else
    match (model.scopes.get (model.node id).scope).home, model.namespaces.find name.uriText with
    | some user, some used =>
        { model with namespaces := model.namespaces.addReference user used }
    | _, _ => model

def follow (model : Model) (id : NodeId) (kind : Symbols) (written : String) : Model × Reference :=
  match model.readName id written with
  | .error _ => (model.missing id (.unqualified (Text.trim written)), .malformed)
  | .ok name =>
      match model.find id kind name with
      | none => (model.missing id name, .absent name)
      | some target => (model.noteUse id name target, .found name target)

def followType (model : Model) (id : NodeId) (written : String) : Model × Option TypeRef :=
  let followed := model.follow id .types written
  (followed.1, followed.2.typeRef?)

def followTypes (model : Model) (id : NodeId) (found : List TypeRef) :
    List String -> Model × List TypeRef
  | [] => (model, found)
  | written :: rest =>
      let followed := model.followType id written
      followed.1.followTypes id (found ++ followed.2.toList) rest

def namelessType (model : Model) (id : NodeId) : Option TypeRef :=
  (model.scopes.typeOf (model.node id).scope).map .resolved

def typeByAttribute (model : Model) (id : NodeId) (label : String) : Model × Option TypeRef :=
  match (model.node id).attribute? label with
  | some written => model.followType id written
  | none => (model, model.namelessType id)

end Model

end XmlSchema

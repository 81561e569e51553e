import XmlSchema.Document.Basic
import XmlSchema.Model.Basic

set_option autoImplicit false

namespace XmlSchema

structure Attempt (σ : Type) where
  state : σ
  failure : Option Failure

namespace Attempt

variable {σ τ : Type}

def done (state : σ) : Attempt σ := ⟨state, none⟩

def stopped (state : σ) (failure : Failure) : Attempt σ := ⟨state, some failure⟩

def andThen (attempt : Attempt σ) (next : σ -> Attempt σ) : Attempt σ :=
  match attempt.failure with
  | none => next attempt.state
  | some _ => attempt

def map (f : σ -> τ) (attempt : Attempt σ) : Attempt τ := ⟨f attempt.state, attempt.failure⟩

end Attempt

namespace Model

def declareName (model : Model) (id : NodeId) (kind : Symbols) : Attempt Model :=
  let node := model.node id
  match node.attribute? "name" with
  | none => .done model
  | some written =>
      let localName := Text.trim written
      match Name.checkNcName localName with
      | .error fault => .stopped model (.name fault)
      | .ok () =>
          let name : QName := ⟨model.targetUri id, localName⟩
          let model := model.changeNode id fun node => { node with name := some name }
          .done (model.define node.scope kind name id node.occurs)

def setOccurs (model : Model) (id : NodeId) (occurs : Occurs) : Model :=
  model.changeNode id fun node => { node with occurs := occurs }

def declareOccurs (model : Model) (id : NodeId) : Attempt Model :=
  let node := model.node id
  match Occurs.read (node.attribute? "minoccurs") (node.attribute? "maxoccurs") with
  | .error fault => .stopped model (.parse (.occurs fault) none)
  | .ok occurs => .done (model.setOccurs id occurs)

def occursOfUse (use : Option String) : Occurs :=
  match use.map Text.trim with
  | some "required" => .once
  | some "prohibited" => .prohibited
  | _ => .optional

def declareAttribute (model : Model) (id : NodeId) : Attempt Model :=
  (model.setOccurs id (occursOfUse ((model.node id).attribute? "use"))).declareName id .attributes

/-- A type without a name belongs to the union it stands in, else to the tag around it. -/
def declareNamelessType (model : Model) (id : NodeId) : Model :=
  let node := model.node id
  match node.parent.filter fun parent => decide ((model.node parent).kind = .union) with
  | some union =>
      model.changeNode union fun node =>
        { node with memberTypes := node.memberTypes ++ [.resolved id] }
  | none =>
      match (model.scopes.get node.scope).parent with
      | some declaredIn => { model with scopes := model.scopes.setType declaredIn id }
      | none => model

def declareType (model : Model) (id : NodeId) : Attempt Model :=
  if ((model.node id).attribute? "name").isSome then model.declareName id .types
  else .done (model.declareNamelessType id)

def declareEnumeration (model : Model) (id : NodeId) : Attempt Model :=
  match (model.node id).attribute? "value" with
  | none => .stopped model (.parse .enumerationWithoutValue none)
  | some value =>
      match model.enclosing id Kind.isType with
      | some owner =>
          .done (model.changeNode owner fun node =>
            { node with enumeration := node.enumeration ++ [value] })
      | none => .done model

def declare (model : Model) (id : NodeId) : Attempt Model :=
  match (model.node id).kind with
  | .element => (model.declareOccurs id).andThen fun model => model.declareName id .elements
  | .attributeTag => model.declareAttribute id
  | .complexType => model.declareType id
  | .simpleType => model.declareType id
  | .group => (model.declareOccurs id).andThen fun model => model.declareName id .groups
  | .attributeGroup => model.declareName id .attributeGroups
  | .sequence => model.declareOccurs id
  | .choice => model.declareOccurs id
  | .all => model.declareOccurs id
  | .any => (model.declareOccurs id).andThen fun model => .done (model.markAnyContent id)
  | .anyAttribute => .done (model.markAnyAttribute id)
  | .enumeration => model.declareEnumeration id
  | _ => .done model

def registerPrefixes (model : Model) (bound : List (String × String)) : Model :=
  bound.foldl (fun model entry => (model.register (some entry.2) none (some entry.1)).1) model

def registerDefault (model : Model) (uri : Option String) : Model × Option NamespaceId :=
  match uri.filter (· ≠ "") with
  | some uri =>
      let registered := model.register (some uri) none none
      (registered.1, some registered.2)
  | none => (model, none)

def declareSource (model : Model) (document : Document) (id : NodeId) : Model × SourceId :=
  let prefixes := document.prefixes.getD .empty
  let (model, target) := model.register (some (prefixes.targetUri.getD ""))
    (some document.url.text) none
  let (model, defaultNamespace) :=
    (model.registerPrefixes prefixes.bound).registerDefault prefixes.defaultUri
  let source : SourceId := ⟨model.sources.size⟩
  let root := (model.namespaces.get target).root
  let model := { model with
    sources := model.sources.push
      ⟨document.url, document.requested, target, defaultNamespace, prefixes⟩
    namespaces := model.namespaces.addSource target source }
  (model.changeNode id fun node => { node with source := some source, scope := root }, source)

end Model

structure Draft where
  model : Model
  document : Document

namespace Draft

def declareSchema (draft : Draft) (id : NodeId) : Attempt Draft :=
  if draft.document.source.isSome then .stopped draft (.parse .secondSchema none)
  else
    let (model, source) := draft.model.declareSource draft.document id
    .done ⟨model, { draft.document with source := some source }⟩

def importUri (draft : Draft) (id : NodeId) : Option String :=
  match (draft.model.node id).kind with
  | .includeTag => draft.model.targetUri id
  | _ => (draft.model.node id).attribute? "namespace"

/-- An import makes its namespace known even when it says nowhere to find it. -/
def registerImport (draft : Draft) (id : NodeId) : Draft :=
  match (draft.model.node id).kind, draft.importUri id with
  | .importTag, some uri => { draft with model := (draft.model.register (some uri) none none).1 }
  | _, _ => draft

def declareImport (draft : Draft) (id : NodeId) : Attempt Draft :=
  let node := draft.model.node id
  let uri := draft.importUri id
  let draft := draft.registerImport id
  match node.attribute? "schemalocation" with
  | none => .done draft
  | some written =>
      match draft.document.url.join (Text.trim written) with
      | .error fault => .stopped draft (.url fault)
      | .ok location =>
          .done { draft with
            document := { draft.document with
              imports := draft.document.imports.push ⟨node.kind, uri, location, node.line⟩ } }

def declare (draft : Draft) (id : NodeId) : Attempt Draft :=
  match (draft.model.node id).kind with
  | .schema => draft.declareSchema id
  | .importTag => draft.declareImport id
  | .includeTag => draft.declareImport id
  | _ => (draft.model.declare id).map fun model => ⟨model, draft.document⟩

end Draft

end XmlSchema

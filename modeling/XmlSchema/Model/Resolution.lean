import XmlSchema.Model.Reference

set_option autoImplicit false

namespace XmlSchema

/-- What is left of the work on a tag once its names have been followed. -/
inductive Remainder where
  | nothing
  | own (kinds : List Symbols) (factor : Occurs)
  | body (name : QName) (target : NodeId) (members : Symbols)
  | derivation (how : Derivation) (base : Option TypeRef)
  | inheritance (how : Derivation) (target : NodeId) (written : String)
  deriving DecidableEq, Repr

namespace Remainder

def awaited : Remainder -> Option NodeId
  | .nothing => none
  | .own _ _ => none
  | .body _ target _ => some target
  | .derivation _ _ => none
  | .inheritance _ target _ => some target

end Remainder

namespace Model

def inlineBody (model : Model) (id : NodeId) (kinds : List Symbols) (factor : Occurs) : Model :=
  let scope := (model.node id).scope
  { model with
    scopes := kinds.foldl (fun scopes kind => scopes.inlineIntoParent scope kind factor scope)
      model.scopes }

/-- Follows the attribute `ref` of an element or attribute, which then counts as declared here. -/
def followMember (model : Model) (id : NodeId) (kind : Symbols) (written : String) : Model :=
  let followed := model.follow id kind written
  let model := followed.1
  match followed.2 with
  | .found name target =>
      let node := model.node id
      (model.changeNode id fun node => { node with referent := some target }).define node.scope kind
        ((model.node target).name.getD name) target node.occurs
  | _ => model

def setType (model : Model) (id : NodeId) (type : Option TypeRef) : Model :=
  model.changeNode id fun node => { node with typeRef := type }

/-- The type of an element or attribute. One with the attribute `ref` has a nameless type of its
own only in vain. -/
def followMemberType (model : Model) (id : NodeId) : Model :=
  let node := model.node id
  match node.attribute? "type", node.attribute? "ref", model.namelessType id with
  | some written, _, _ =>
      let followed := model.followType id written
      followed.1.setType id followed.2
  | none, none, some type => model.setType id (some type)
  | none, _, _ => model

def followHead (model : Model) (id : NodeId) (written : String) : Model :=
  let followed := model.follow id .elements written
  match followed.2.target? with
  | some head =>
      followed.1.changeNode head fun node => { node with substitutes := node.substitutes ++ [id] }
  | none => followed.1

def resolveMember (model : Model) (id : NodeId) (kind : Symbols) : Model :=
  let node := model.node id
  let model := match node.attribute? "ref" with
    | some written => model.followMember id kind written
    | none => model
  let model := model.followMemberType id
  match node.attribute? "substitutiongroup" with
  | some written => model.followHead id written
  | none => model

def prepareGroup (model : Model) (id : NodeId) (kind members : Symbols) : Model × Remainder :=
  match (model.node id).attribute? "ref" with
  | none => (model, .nothing)
  | some written =>
      let followed := model.follow id kind written
      match followed.2 with
      | .found name target =>
          (followed.1.changeNode id fun node => { node with referent := some target },
            .body name target members)
      | _ => (followed.1, .nothing)

def prepareDerivation (model : Model) (id : NodeId) (how : Derivation) : Model × Remainder :=
  match (model.node id).attribute? "base" with
  | none => (model, .derivation how (model.namelessType id))
  | some written =>
      let followed := model.followType id written
      match followed.2 with
      | some (.resolved target) => (followed.1, .inheritance how target written)
      | other => (followed.1, .derivation how other)

/-- The item type of a list is the type of the simple type around it, too. -/
def resolveList (model : Model) (id : NodeId) : Model :=
  let followed := model.typeByAttribute id "itemtype"
  let model := followed.1.setType id followed.2
  match model.enclosing id Kind.isType with
  | some owner => model.setType owner followed.2
  | none => model

def setMemberTypes (model : Model) (id : NodeId) (types : List TypeRef) : Model :=
  model.changeNode id fun node => { node with memberTypes := types }

def resolveUnion (model : Model) (id : NodeId) : Model :=
  let node := model.node id
  let followed := model.followTypes id []
    (((node.attribute? "membertypes").map Text.words).getD [])
  let types := followed.2 ++ node.memberTypes
  let model := followed.1.setMemberTypes id types
  match model.enclosing id Kind.isType with
  | some owner => model.setMemberTypes owner types
  | none => model

def prepare (model : Model) (id : NodeId) : Model × Remainder :=
  let node := model.node id
  match node.kind with
  | .element => (model.resolveMember id .elements, .nothing)
  | .attributeTag => (model.resolveMember id .attributes, .nothing)
  | .group => model.prepareGroup id .groups .elements
  | .attributeGroup => model.prepareGroup id .attributeGroups .attributes
  | .sequence => (model, .own [.elements] node.occurs)
  | .all => (model, .own [.elements] node.occurs)
  | .choice => (model, .own [.elements] node.occurs.optionalized)
  | .complexContent => (model, .own [.elements, .attributes] .once)
  | .simpleContent => (model, .own [.elements, .attributes] .once)
  | .extension => model.prepareDerivation id .extension
  | .restriction => model.prepareDerivation id .restriction
  | .list => (model.resolveList id, .nothing)
  | .union => (model.resolveUnion id, .nothing)
  | _ => (model, .nothing)

def copyGroup (model : Model) (id target : NodeId) (members : Symbols) : Model :=
  let node := model.node id
  let group := model.node target
  let model := { model with
    scopes := model.scopes.inlineIntoParent node.scope members node.occurs group.scope }
  let model := if group.anyContent then model.markAnyContent id else model
  if group.anyAttribute then model.markAnyAttribute id else model

def inheritedKinds : List Symbols := [.elements, .attributes, .groups, .attributeGroups]

def inherit (model : Model) (owner target : NodeId) : Model :=
  let into := (model.node owner).scope
  let base := (model.node target).scope
  { model with
    scopes := inheritedKinds.foldl
      (fun scopes kind => scopes.inlineInto into kind .once base true) model.scopes }

def setBase (model : Model) (owner : NodeId) (how : Derivation) (base : Option TypeRef) : Model :=
  model.changeNode owner fun node => { node with base := base, derivation := some how }

/-- Gives the type around a derivation its base, with what is inherited, and then the derivation's
own body. -/
def derive (model : Model) (id : NodeId) (how : Derivation) (base : Option TypeRef)
    (inheritFrom : Option NodeId) : Model :=
  let model := match model.enclosing id Kind.isType with
    | some owner =>
        let model := match inheritFrom with
          | some target => model.inherit owner target
          | none => model
        model.setBase owner how base
    | none => model
  model.inlineBody id [.elements, .attributes] .once

def finish (model : Model) (id : NodeId) (remainder : Remainder) (complete : Bool) : Model :=
  match remainder with
  | .nothing => model
  | .own kinds factor => model.inlineBody id kinds factor
  | .body name target members =>
      if complete then model.copyGroup id target members else model.circular id name
  | .derivation how base => model.derive id how base none
  | .inheritance how target written =>
      if complete then model.derive id how (some (.resolved target)) (some target)
      else
        (model.circular id
          ((model.node target).name.getD (.unqualified (Text.trim written)))).derive id how
            (some (.resolved target)) none

def mark (model : Model) (status : Task.Status) (task : TaskId) : Model :=
  { model with queue := model.queue.mark status task }

def complete (model : Model) (task : TaskId) (id : NodeId) : Model :=
  let model := (model.mark .done task).changeNode id fun node => { node with isResolved := true }
  { model with order := model.order.push id }

/-- Runs those of some tasks that wait, and tells whether none of them is running. Nothing after a
running one is run. -/
def drain (run : Model -> TaskId -> Model) (model : Model) : List TaskId -> Model × Bool
  | [] => (model, true)
  | task :: rest =>
      match (model.queue.get task).status with
      | .waiting => drain run (run model task) rest
      | .running => (model, false)
      | .done => drain run model rest

/-- Runs a task that waits. The fuel bounds how deep tasks run each other. -/
def runWith : Nat -> Model -> TaskId -> Model
  | 0, model, _ => model
  | fuel + 1, model, task =>
      let found := model.queue.get task
      match found.status with
      | .waiting =>
          let prepared := (model.mark .running task).prepare found.node
          let drained := match prepared.2.awaited with
            | some target =>
                drain (runWith fuel) prepared.1 (prepared.1.queue.feeding target)
            | none => (prepared.1, true)
          (drained.1.finish found.node prepared.2 drained.2).complete task found.node
      | _ => model

/-- Runs a task that waits. Every task inside another is one that waited, so no more of them can be
open at once than there are tasks. -/
def run (model : Model) (task : TaskId) : Model := model.runWith (model.queue.size + 1) task

def runAll (model : Model) (tasks : List TaskId) : Model := tasks.foldl run model

end Model

end XmlSchema

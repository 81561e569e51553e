import XmlSchema.Model.Resolution
import XmlSchema.Proofs.Deferral
import XmlSchema.Proofs.Filing

set_option autoImplicit false

namespace XmlSchema

namespace Scope

def frame (scope : Scope) : Scope := { scope with tables := .empty }

end Scope

def Namespace.core (entry : Namespace) : Namespace := { entry with references := [] }

structure Namespaces.Agrees (old new : Namespaces) : Prop where
  size : new.size = old.size
  core : ∀ id, (new.get id).core = (old.get id).core
  byName : new.byName = old.byName

namespace Namespaces.Agrees

variable {old new : Namespaces}

theorem refl (namespaces : Namespaces) : namespaces.Agrees namespaces :=
  ⟨rfl, fun _ => rfl, rfl⟩

theorem trans {middle : Namespaces} (first : old.Agrees middle) (second : middle.Agrees new) :
    old.Agrees new :=
  ⟨second.size.trans first.size, fun id => (second.core id).trans (first.core id),
    second.byName.trans first.byName⟩

theorem symm (agrees : old.Agrees new) : new.Agrees old :=
  ⟨agrees.size.symm, fun id => (agrees.core id).symm, agrees.byName.symm⟩

theorem addReference (namespaces : Namespaces) (user used : NamespaceId) :
    namespaces.Agrees (namespaces.addReference user used) := by
  unfold Namespaces.addReference
  split
  · exact refl namespaces
  · refine ⟨size_change .., fun id => ?_, rfl⟩
    exact keeps_change Namespace.core namespaces user id fun entry => by split <;> rfl

end Namespaces.Agrees

namespace Model

/-- What a document declares is the same: only what was looked up and copied may differ. -/
structure Alike (old new : Model) : Prop where
  size : new.nodes.size = old.nodes.size
  declared : ∀ id, (new.node id).declared = (old.node id).declared
  scopes : new.scopes.size = old.scopes.size
  frame : ∀ id, (new.scopes.get id).frame = (old.scopes.get id).frame
  rooted : old.namespaces.Rooted old.scopes -> new.namespaces.Rooted new.scopes
  registry : old.namespaces.Agrees new.namespaces
  sources : new.sources = old.sources
  tasks : new.queue.size = old.queue.size
  task : ∀ task, (new.queue.get task).node = (old.queue.get task).node
  feeding : ∀ owner, new.queue.feeding owner = old.queue.feeding owner

namespace Alike

variable {old new : Model}

theorem refl (model : Model) : model.Alike model :=
  ⟨rfl, fun _ => rfl, rfl, fun _ => rfl, fun rooted => rooted, .refl _, rfl, rfl, fun _ => rfl,
    fun _ => rfl⟩

theorem trans {middle : Model} (first : old.Alike middle) (second : middle.Alike new) :
    old.Alike new where
  size := second.size.trans first.size
  declared id := (second.declared id).trans (first.declared id)
  scopes := second.scopes.trans first.scopes
  frame id := (second.frame id).trans (first.frame id)
  rooted rooted := second.rooted (first.rooted rooted)
  registry := first.registry.trans second.registry
  sources := second.sources.trans first.sources
  tasks := second.tasks.trans first.tasks
  task task := (second.task task).trans (first.task task)
  feeding owner := (second.feeding owner).trans (first.feeding owner)

theorem between {start : Model} (first : start.Alike old) (second : start.Alike new)
    (rooted : new.namespaces.Rooted new.scopes) : old.Alike new where
  size := second.size.trans first.size.symm
  declared id := (second.declared id).trans (first.declared id).symm
  scopes := second.scopes.trans first.scopes.symm
  frame id := (second.frame id).trans (first.frame id).symm
  rooted _ := rooted
  registry := first.registry.symm.trans second.registry
  sources := second.sources.trans first.sources.symm
  tasks := second.tasks.trans first.tasks.symm
  task task := (second.task task).trans (first.task task).symm
  feeding owner := (second.feeding owner).trans (first.feeding owner).symm

theorem parentScope (alike : old.Alike new) (id : ScopeId) :
    (new.scopes.get id).parent = (old.scopes.get id).parent :=
  (congrArg Scope.parent (alike.frame id) :)

theorem standing (alike : old.Alike new) (id : NodeId) :
    (new.node id).standing = (old.node id).standing :=
  Node.standing_of_declared (alike.declared id)

theorem kind (alike : old.Alike new) (id : NodeId) : (new.node id).kind = (old.node id).kind :=
  (congrArg Node.kind (alike.declared id) :)

theorem scope (alike : old.Alike new) (id : NodeId) : (new.node id).scope = (old.node id).scope :=
  (congrArg Node.scope (alike.declared id) :)

theorem parent (alike : old.Alike new) (id : NodeId) :
    (new.node id).parent = (old.node id).parent :=
  (congrArg Node.parent (alike.declared id) :)

theorem source (alike : old.Alike new) (id : NodeId) :
    (new.node id).source = (old.node id).source :=
  (congrArg Node.source (alike.declared id) :)

theorem name (alike : old.Alike new) (id : NodeId) : (new.node id).name = (old.node id).name :=
  (congrArg Node.name (alike.declared id) :)

theorem isBuiltin (alike : old.Alike new) (id : NodeId) :
    (new.node id).isBuiltin = (old.node id).isBuiltin :=
  (congrArg Node.isBuiltin (alike.declared id) :)

theorem occurs (alike : old.Alike new) (id : NodeId) :
    (new.node id).occurs = (old.node id).occurs :=
  (congrArg Node.occurs (alike.declared id) :)

theorem attributes (alike : old.Alike new) (id : NodeId) :
    (new.node id).attributes = (old.node id).attributes :=
  (congrArg Node.attributes (alike.declared id) :)

theorem surrounding (alike : old.Alike new) (id : NodeId) :
    new.scopes.surrounding (new.node id).scope = old.scopes.surrounding (old.node id).scope := by
  simp only [Scopes.surrounding, alike.parentScope, alike.scope]

theorem isTag (alike : old.Alike new) (id : NodeId) : new.IsTag id ↔ old.IsTag id := by
  simp [IsTag, alike.size]

theorem ancestors (alike : old.Alike new) (id : NodeId) : new.ancestors id = old.ancestors id :=
  ancestors_congr alike.parent id

theorem feeds (alike : old.Alike new) (feeder owner : NodeId) :
    new.Feeds feeder owner ↔ old.Feeds feeder owner := by
  simp only [Feeds, alike.ancestors, alike.kind]

theorem enclosing (alike : old.Alike new) (id : NodeId) (accepts : Kind -> Bool) :
    new.enclosing id accepts = old.enclosing id accepts := by
  simp only [Model.enclosing, alike.ancestors, alike.kind]

theorem shaped (alike : old.Alike new) (shaped : old.Shaped) : new.Shaped :=
  shaped.congr alike.size alike.standing (alike.rooted shaped.registry)
    (Nat.le_of_eq alike.scopes.symm) fun id _ => alike.parentScope id

theorem bears (alike : old.Alike new) (kind : Symbols) (name : QName) (target : NodeId) :
    new.Bears kind name target ↔ old.Bears kind name target := by
  simp only [Bears, alike.name, alike.kind]

theorem changeNode (model : Model) (id : NodeId) {f : Node -> Node}
    (keeps : ∀ node, (f node).declared = node.declared) : model.Alike (model.changeNode id f) :=
  ⟨size_changeNode .., fun other => keeps_changeNode Node.declared model id other keeps, rfl,
    fun _ => rfl, fun rooted => rooted, .refl _, rfl, rfl, fun _ => rfl, fun _ => rfl⟩

theorem withScopes (model : Model) {scopes : Scopes} (size : scopes.size = model.scopes.size)
    (frame : ∀ id, (scopes.get id).frame = (model.scopes.get id).frame) :
    model.Alike { model with scopes := scopes } where
  size := rfl
  declared _ := rfl
  scopes := size
  frame := frame
  rooted rooted := rooted.grow (Nat.le_of_eq size.symm) fun id _ =>
    (congrArg Scope.parent (frame id) :)
  registry := .refl _
  sources := rfl
  tasks := rfl
  task _ := rfl
  feeding _ := rfl

theorem define (model : Model) (scope : ScopeId) (kind : Symbols) (name : QName)
    (target : NodeId) (occurs : Occurs) :
    model.Alike (model.define scope kind name target occurs) :=
  withScopes model (Scopes.size_changeTable ..) fun other =>
    Scopes.keeps_change Scope.frame model.scopes _ other fun _ => rfl

theorem mark (model : Model) (status : Task.Status) (task : TaskId) :
    model.Alike (model.mark status task) :=
  ⟨rfl, fun _ => rfl, rfl, fun _ => rfl, fun rooted => rooted, .refl _, rfl, Queue.size_mark ..,
    fun other => Queue.node_mark _ _ _ other, fun _ => rfl⟩

end Alike

structure Noted (old new : Model) : Prop where
  size : new.nodes.size = old.nodes.size
  core : ∀ id, (new.node id).core = (old.node id).core
  scopes : new.scopes = old.scopes
  rooted : old.namespaces.Rooted old.scopes -> new.namespaces.Rooted new.scopes
  registry : old.namespaces.Agrees new.namespaces
  sources : new.sources = old.sources
  queue : new.queue = old.queue
  order : new.order = old.order
  unresolved : ∀ entry ∈ old.unresolved, entry ∈ new.unresolved

namespace Noted

variable {old new : Model}

theorem refl (model : Model) : model.Noted model :=
  ⟨rfl, fun _ => rfl, rfl, fun rooted => rooted, .refl _, rfl, rfl, rfl, fun _ member => member⟩

theorem trans {middle : Model} (first : old.Noted middle) (second : middle.Noted new) :
    old.Noted new where
  size := second.size.trans first.size
  core id := (second.core id).trans (first.core id)
  scopes := second.scopes.trans first.scopes
  rooted rooted := second.rooted (first.rooted rooted)
  registry := first.registry.trans second.registry
  sources := second.sources.trans first.sources
  queue := second.queue.trans first.queue
  order := second.order.trans first.order
  unresolved entry member := second.unresolved entry (first.unresolved entry member)

theorem alike (noted : old.Noted new) : old.Alike new where
  size := noted.size
  declared id := Node.declared_of_core (noted.core id)
  scopes := congrArg Scopes.size noted.scopes
  frame id := by rw [noted.scopes]
  rooted := noted.rooted
  registry := noted.registry
  sources := noted.sources
  tasks := congrArg Queue.size noted.queue
  task task := congrArg (fun queue => (Queue.get queue task).node) noted.queue
  feeding owner := congrArg (fun queue => Queue.feeding queue owner) noted.queue

theorem changeNode (model : Model) (id : NodeId) {f : Node -> Node}
    (keeps : ∀ node, (f node).core = node.core) : model.Noted (model.changeNode id f) :=
  ⟨size_changeNode .., fun other => keeps_changeNode Node.core model id other keeps, rfl,
    fun rooted => rooted, .refl _, rfl, rfl, rfl, fun _ member => member⟩

theorem missing (model : Model) (id : NodeId) (name : QName) :
    model.Noted (model.missing id name) :=
  ⟨rfl, fun _ => rfl, rfl, fun rooted => rooted, .refl _, rfl, rfl, rfl,
    fun _ member => Array.mem_push_of_mem _ member⟩

theorem circular (model : Model) (id : NodeId) (name : QName) :
    model.Noted (model.circular id name) :=
  ⟨rfl, fun _ => rfl, rfl, fun rooted => rooted, .refl _, rfl, rfl, rfl,
    fun _ member => Array.mem_push_of_mem _ member⟩

theorem noteUse (model : Model) (id : NodeId) (name : QName) (target : NodeId) :
    model.Noted (model.noteUse id name target) := by
  have change (user used : NamespaceId) : model.Noted
      { model with namespaces := model.namespaces.addReference user used } := by
    refine ⟨rfl, fun _ => rfl, rfl, fun rooted => ?_, .addReference _ user used, rfl, rfl, rfl,
      fun _ member => member⟩
    unfold Namespaces.addReference
    split
    · exact rooted
    · refine rooted.change user fun entry => ?_
      split <;> rfl
  unfold Model.noteUse
  split
  · exact refl model
  · split
    · exact change _ _
    · exact refl model

theorem follow (model : Model) (id : NodeId) (kind : Symbols) (written : String) :
    model.Noted (model.follow id kind written).1 := by
  unfold Model.follow
  split
  next => exact missing model id _
  next name read =>
    split
    next => exact missing model id name
    next target found => exact noteUse model id name target

theorem followType (model : Model) (id : NodeId) (written : String) :
    model.Noted (model.followType id written).1 := by
  unfold Model.followType
  dsimp only
  exact follow model id .types written

theorem followTypes (model : Model) (id : NodeId) (found : List TypeRef) (written : List String) :
    model.Noted (model.followTypes id found written).1 := by
  induction written generalizing model found with
  | nil => exact refl model
  | cons first rest ih =>
      unfold Model.followTypes
      dsimp only
      exact (followType model id first).trans (ih _ _)

theorem setType (model : Model) (id : NodeId) (type : Option TypeRef) :
    model.Noted (model.setType id type) := changeNode model id fun _ => rfl

theorem setMemberTypes (model : Model) (id : NodeId) (types : List TypeRef) :
    model.Noted (model.setMemberTypes id types) := changeNode model id fun _ => rfl

theorem followMemberType (model : Model) (id : NodeId) :
    model.Noted (model.followMemberType id) := by
  unfold Model.followMemberType
  dsimp only
  split
  next written _ =>
    have typed := followType model id written
    exact typed.trans (setType (model.followType id written).1 id _)
  next => exact setType model id _
  next => exact refl model

theorem followHead (model : Model) (id : NodeId) (written : String) :
    model.Noted (model.followHead id written) := by
  have followed := follow model id .elements written
  unfold Model.followHead
  dsimp only
  split
  next head _ => exact followed.trans (changeNode _ head fun _ => rfl)
  next => exact followed

theorem typeByAttribute (model : Model) (id : NodeId) (label : String) :
    model.Noted (model.typeByAttribute id label).1 := by
  unfold Model.typeByAttribute
  split
  next written _ => exact followType model id written
  next => exact refl model

theorem resolveList (model : Model) (id : NodeId) : model.Noted (model.resolveList id) := by
  have typed := (typeByAttribute model id "itemtype").trans
    (setType (model.typeByAttribute id "itemtype").1 id (model.typeByAttribute id "itemtype").2)
  unfold Model.resolveList
  dsimp only
  split
  next owner _ => exact typed.trans (setType _ owner _)
  next => exact typed

theorem resolveUnion (model : Model) (id : NodeId) : model.Noted (model.resolveUnion id) := by
  unfold Model.resolveUnion
  dsimp only
  generalize (((model.node id).attribute? "membertypes").map Text.words).getD [] = written
  have typed := (followTypes model id [] written).trans
    (setMemberTypes (model.followTypes id [] written).1 id
      ((model.followTypes id [] written).2 ++ (model.node id).memberTypes))
  split
  next owner _ => exact typed.trans (setMemberTypes _ owner _)
  next => exact typed

theorem markWildcard (model : Model) (id : NodeId) {mark : Node -> Node}
    (keeps : ∀ node, (mark node).core = node.core) : model.Noted (model.markWildcard id mark) := by
  unfold Model.markWildcard
  split
  · exact changeNode model _ keeps
  · exact refl model

theorem markAnyContent (model : Model) (id : NodeId) : model.Noted (model.markAnyContent id) :=
  markWildcard model id fun _ => rfl

theorem markAnyAttribute (model : Model) (id : NodeId) : model.Noted (model.markAnyAttribute id) :=
  markWildcard model id fun _ => rfl

end Noted

end Model

end XmlSchema

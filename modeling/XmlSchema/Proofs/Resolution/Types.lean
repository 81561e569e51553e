import XmlSchema.Proofs.Resolution.Records

set_option autoImplicit false

namespace XmlSchema

namespace Scopes

theorem table_inlineEach_of_not_mem (scopes : Scopes) {kinds : List Symbols} {among : Symbols}
    (absent : among ∉ kinds) (target : ScopeId) (factor : Occurs) (source : ScopeId)
    (inherited : Bool) (other : ScopeId) :
    (scopes.inlineEach kinds target factor source inherited).table other among =
      scopes.table other among := by
  induction kinds generalizing scopes with
  | nil => rfl
  | cons kind rest ih =>
    obtain ⟨apart, absent⟩ := not_or.mp (List.mem_cons.not.mp absent)
    exact (ih _ absent).trans (table_inlineInto_of_ne scopes factor source inherited (.inr apart))

end Scopes

theorem Node.types_not_mem_body {node : Node} {kinds : List Symbols} {factor : Occurs}
    (body : node.body? = some (kinds, factor)) : Symbols.types ∉ kinds := by
  unfold body? at body
  split at body <;> cases body <;> decide

namespace Remainder

def SparesTypes : Remainder -> Prop
  | .own kinds _ => Symbols.types ∉ kinds
  | .body _ _ members => members ≠ .types
  | _ => True

theorem SparesTypes.not_mem {model : Model} {id source : NodeId} {remainder : Remainder}
    (spares : remainder.SparesTypes) {kinds : List Symbols} {factor : Occurs}
    (copies : remainder.copies? model id = some (kinds, factor, source)) :
    Symbols.types ∉ kinds := by
  cases remainder <;> cases copies
  case own => exact spares
  case body => simpa using Ne.symm spares
  case derivation => decide
  case inheritance => decide

end Remainder

namespace Model

structure Unmoved (old new : Model) : Prop where
  types : ∀ scope, new.scopes.table scope .types = old.scopes.table scope .types
  around : ∀ scope, (new.scopes.get scope).parent = (old.scopes.get scope).parent
  home : ∀ scope, (new.scopes.get scope).home = (old.scopes.get scope).home
  marker : ∀ scope, (new.scopes.get scope).typeMarker = (old.scopes.get scope).typeMarker
  registered : ∀ name, new.namespaces.find name = old.namespaces.find name
  kind : ∀ id, (new.node id).kind = (old.node id).kind
  parent : ∀ id, (new.node id).parent = (old.node id).parent
  scope : ∀ id, (new.node id).scope = (old.node id).scope
  name : ∀ id, (new.node id).name = (old.node id).name
  attributes : ∀ id, (new.node id).attributes = (old.node id).attributes

structure Steady (old new : Model) : Prop where
  alike : old.Alike new
  types : ∀ scope, new.scopes.table scope .types = old.scopes.table scope .types

section

variable {old new : Model}

theorem Steady.unmoved (steady : old.Steady new) : old.Unmoved new where
  types := steady.types
  around := steady.alike.parentScope
  home scope := (congrArg Scope.home (steady.alike.frame scope) :)
  marker scope := (congrArg Scope.typeMarker (steady.alike.frame scope) :)
  registered name := congrFun (congrArg Table.get? steady.alike.registry.byName) name
  kind := steady.alike.kind
  parent := steady.alike.parent
  scope := steady.alike.scope
  name := steady.alike.name
  attributes := steady.alike.attributes

theorem Noted.steady (noted : old.Noted new) : old.Steady new :=
  ⟨noted.alike, fun _ => by rw [noted.scopes]⟩

namespace Steady

theorem refl (model : Model) : model.Steady model := ⟨.refl model, fun _ => rfl⟩

theorem trans {middle : Model} (first : old.Steady middle) (second : middle.Steady new) :
    old.Steady new :=
  ⟨first.alike.trans second.alike, fun scope => (second.types scope).trans (first.types scope)⟩

theorem mark (model : Model) (status : Task.Status) (task : TaskId) :
    model.Steady (model.mark status task) := ⟨.mark model status task, fun _ => rfl⟩

theorem complete (model : Model) (task : TaskId) (id : NodeId) :
    model.Steady (model.complete task id) :=
  ⟨Pass.alike_complete model task id, fun _ => rfl⟩

theorem followed {start after : Model} {id : NodeId} {found : List (Symbols × Reference)}
    (reached : Inquiry.Reached start id ⟨after, found⟩) : start.Steady after := by
  refine reached.keeps (P := fun inquiry => start.Steady inquiry.model) (.refl start) ?_
  intro one two _ step before
  refine before.trans ⟨step.alike, fun scope => ?_⟩
  cases step with
  | follow after found kind written =>
      dsimp only
      rw [(Noted.follow after id kind written).scopes]
  | member _ _ boundary kinds =>
      -- what is entered is an element or attribute, in a table of its kind
      have member := Kind.isMember_of_symbols boundary kinds
      refine Scopes.table_changeTable_of_ne _ _ (.inr ?_)
      rintro rfl
      cases member
  | group => rfl
  | type => rfl
  | members => rfl
  | head => rfl

theorem prepare (model : Model) (id : NodeId) :
    model.Steady (model.prepare id).1 ∧ (model.prepare id).2.SparesTypes := by
  obtain ⟨found, reached, leaves⟩ := Inquiry.Reached.prepare model id
  refine ⟨followed reached, ?_⟩
  generalize (model.prepare id).2 = remainder at leaves
  cases remainder with
  | nothing => trivial
  | own kinds factor => exact Node.types_not_mem_body leaves
  | body name target members => rcases leaves.1 with rfl | rfl <;> exact nofun
  | derivation => trivial
  | inheritance => trivial

theorem finish (model : Model) (id : NodeId) {remainder : Remainder}
    (spares : remainder.SparesTypes) (complete : Bool) :
    model.Steady (model.finish id remainder complete) := by
  refine (Remainder.Steps.finish model id remainder complete).keeps
    (P := model.Steady) (refl model) ?_
  intro one two _ step before
  refine before.trans ⟨step.alike, fun scope => ?_⟩
  cases step with
  | copy around copies =>
      exact Scopes.table_inlineEach_of_not_mem _ (spares.not_mem copies) _ _ _ _ scope
  | inherit => exact Scopes.table_inlineEach_of_not_mem _ (by decide) _ _ _ _ scope
  | base => rfl
  | report => rfl
  | content => rw [(Noted.markAnyContent one id).scopes]
  | attributes => rw [(Noted.markAnyAttribute one id).scopes]

theorem runWith (fuel : Nat) (model : Model) (task : TaskId) :
    model.Steady (model.runWith fuel task) := by
  refine runWith_keeps (P := model.Steady) (Q := Remainder.SparesTypes) ?_ ?_ fuel
    (refl model) task
  · intro one task id before
    obtain ⟨prepared, spares⟩ := prepare (one.mark .running task) id
    exact ⟨(before.trans (mark one .running task)).trans prepared, spares⟩
  · intro one task id _ complete before spares
    exact (before.trans (finish one id spares complete)).trans (.complete ..)

theorem find (steady : old.Steady new) (id : NodeId) (name : QName) :
    new.find id .types name = old.find id .types name := by
  have unmoved := steady.unmoved
  have root (id : NamespaceId) : (new.namespaces.get id).root = (old.namespaces.get id).root :=
    (congrArg Namespace.root (steady.alike.registry.core id) :)
  unfold Model.find Namespaces.lookup
  simp only [unmoved.registered, unmoved.home, root, unmoved.scope, Scopes.findLocal,
    Scopes.chain_congr unmoved.around, unmoved.types]

theorem followType (steady : old.Steady new) (id : NodeId) (written : String) :
    (new.followType id written).2 = (old.followType id written).2 := by
  have read := steady.alike.readName steady.alike.sources id written
  unfold Model.followType Model.follow
  rw [read]
  cases old.readName id written with
  | error => rfl
  | ok name =>
    dsimp only
    rw [steady.find]
    cases old.find id .types name <;> rfl

theorem typeByAttribute (steady : old.Steady new) (id : NodeId) (label : String) :
    (new.typeByAttribute id label).2 = (old.typeByAttribute id label).2 := by
  unfold Model.typeByAttribute Node.attribute?
  rw [steady.alike.attributes]
  split
  · exact steady.followType id _
  · exact steady.alike.namelessType id

theorem followTypes (steady : old.Steady new) (id : NodeId) (found : List TypeRef)
    (written : List String) :
    (new.followTypes id found written).2 =
      found ++ written.flatMap fun name => (old.followType id name).2.toList := by
  induction written generalizing new found with
  | nil => exact (List.append_nil found).symm
  | cons first rest ih =>
    -- to follow a name notes its use or an error, and neither is looked at by the names after it
    have next := steady.trans (Noted.followType new id first).steady
    unfold Model.followTypes
    dsimp only
    rw [ih next, steady.followType, List.flatMap_cons, List.append_assoc]

end Steady

/-- What is resolved of the names of types on a tag, and of nameless types inside it, is what they
lead to in the model `old`. -/
structure ResolvesTypes (old new : Model) (id : NodeId) : Prop where
  type : ∀ written, (new.node id).kind = .element ∨ (new.node id).kind = .attributeTag ->
    (new.node id).attribute? "type" = some written ->
    ((new.prepare id).1.node id).typeRef = (old.followType id written).2
  item : (new.node id).kind = .list ->
    ((new.prepare id).1.node id).typeRef = (old.typeByAttribute id "itemtype").2
  members : (new.node id).kind = .union ->
    ((new.prepare id).1.node id).memberTypes =
      ((((new.node id).attribute? "membertypes").map Text.words).getD []).flatMap
        (fun name => (old.followType id name).2.toList) ++ (new.node id).memberTypes
  base : ∀ how : Derivation, (new.node id).kind = how.kind ->
    (new.prepare id).2.base? = some (old.typeByAttribute id "base").2

theorem followType_followMemberType {model : Model} {id : NodeId} (tag : model.IsTag id)
    {written : String} (named : (model.node id).attribute? "type" = some written) :
    ((model.followMemberType id).node id).typeRef = (model.followType id written).2 := by
  have followed := (Noted.followType model id written).alike
  unfold followMemberType
  dsimp only
  rw [named]
  exact typeRef_setType ((followed.isTag id).mpr tag).2 _

theorem typeRef_followHead (model : Model) (id : NodeId) (written : String) (other : NodeId) :
    ((model.followHead id written).node other).typeRef = (model.node other).typeRef := by
  have nodes := node_congr (nodes_follow model id .elements written)
  unfold followHead
  dsimp only
  split
  next head _ =>
    rw [← nodes]
    exact keeps_changeNode Node.typeRef _ head other fun _ => rfl
  next => rw [nodes]

theorem typeRef_resolveMember (steady : old.Steady new) {id : NodeId} (tag : new.IsTag id)
    {kind : Symbols} (boundary : (new.node id).kind.isBoundary = true)
    (kinds : (new.node id).kind.symbols? = some kind) {written : String}
    (named : (new.node id).attribute? "type" = some written) :
    ((new.resolveMember id kind).node id).typeRef = (old.followType id written).2 := by
  -- the attribute `ref` comes first, and leaves the type that is named what it is
  have typed {model : Model} (before : new.Steady model) :
      ((model.followMemberType id).node id).typeRef = (old.followType id written).2 := by
    have there : (model.node id).attribute? "type" = some written := by
      rw [Node.attribute?, before.alike.attributes]
      exact named
    rw [followType_followMemberType ((before.alike.isTag id).mpr tag) there]
    exact (steady.trans before).followType id written
  have referred {written : String} (refers : (new.node id).attribute? "ref" = some written) :
      new.Steady (new.followMember id kind written) := by
    obtain ⟨found, reached⟩ := Inquiry.Reached.followMember boundary kinds refers
    exact .followed reached
  unfold resolveMember
  dsimp only
  split <;> split
  · exact (typeRef_followHead ..).trans (typed (referred ‹_›))
  · exact (typeRef_followHead ..).trans (typed (.refl new))
  · exact typed (referred ‹_›)
  · exact typed (.refl new)

theorem typeRef_resolveList (steady : old.Steady new) {id : NodeId} (tag : new.IsTag id) :
    ((new.resolveList id).node id).typeRef = (old.typeByAttribute id "itemtype").2 := by
  have followed := (Noted.typeByAttribute new id "itemtype").alike
  have typed := typeRef_setType ((followed.isTag id).mpr tag).2
    (new.typeByAttribute id "itemtype").2
  rw [← steady.typeByAttribute]
  unfold resolveList
  dsimp only
  -- the type around gets what the tag got, whether or not it is the tag itself
  split
  next owner _ =>
    refine (congrArg Node.typeRef (node_changeNode _ owner id _)).trans ?_
    split
    · rfl
    · exact typed
  next => exact typed

theorem memberTypes_resolveUnion (steady : old.Steady new) {id : NodeId} (tag : new.IsTag id) :
    ((new.resolveUnion id).node id).memberTypes =
      ((((new.node id).attribute? "membertypes").map Text.words).getD []).flatMap
        (fun name => (old.followType id name).2.toList) ++ (new.node id).memberTypes := by
  generalize names : (((new.node id).attribute? "membertypes").map Text.words).getD [] = written
  have followed := (Noted.followTypes new id [] written).alike
  have listed := steady.followTypes id [] written
  rw [List.nil_append] at listed
  have set (types : List TypeRef) :
      ((((new.followTypes id [] written).1).setMemberTypes id types).node id).memberTypes =
        types := by
    refine (congrArg Node.memberTypes (node_changeNode _ id id _)).trans ?_
    rw [if_pos ⟨rfl, ((followed.isTag id).mpr tag).2⟩]
  rw [← listed]
  unfold resolveUnion
  dsimp only
  rw [names]
  split
  next owner _ =>
    refine (congrArg Node.memberTypes (node_changeNode _ owner id _)).trans ?_
    split
    · rfl
    · exact set _
  next => exact set _

theorem base_prepareDerivation (steady : old.Steady new) (id : NodeId) (how : Derivation) :
    (new.prepareDerivation id how).2.base? = some (old.typeByAttribute id "base").2 := by
  rw [← steady.typeByAttribute]
  unfold prepareDerivation typeByAttribute
  cases (new.node id).attribute? "base" with
  | none => rfl
  | some written =>
    dsimp only
    split
    next target found => rw [found]; rfl
    next => rfl

theorem Steady.resolvesTypes (steady : old.Steady new) {id : NodeId} (tag : new.IsTag id) :
    ResolvesTypes old new id where
  type written kind named := by
    unfold Model.prepare
    dsimp only
    rcases kind with is | is <;> rw [is]
    · exact typeRef_resolveMember steady tag (by rw [is]; rfl) (by rw [is]; rfl) named
    · exact typeRef_resolveMember steady tag (by rw [is]; rfl) (by rw [is]; rfl) named
  item is := by
    unfold Model.prepare
    dsimp only
    rw [is]
    exact typeRef_resolveList steady tag
  members is := by
    unfold Model.prepare
    dsimp only
    rw [is]
    exact memberTypes_resolveUnion steady tag
  base how is := by
    unfold Model.prepare
    dsimp only
    rw [is]
    cases how
    · exact base_prepareDerivation steady id .extension
    · exact base_prepareDerivation steady id .restriction

end

end Model

structure Started where
  task : TaskId
  node : NodeId
  remainder : Remainder

/-- A point of work that goes on in any order: the tags that have been started on, and no more is
said of how they came to be. -/
structure Scene where
  model : Model
  started : List Started

namespace Scene

/-- Any task that waits may be started on, and any that has been started on may be finished, with
or without the body that it awaits. -/
inductive Turn : Scene -> Scene -> Prop where
  | start (model : Model) (task : TaskId) (started : List Started)
      (waits : (model.queue.get task).status = .waiting) :
      Turn ⟨model, started⟩
        ⟨((model.mark .running task).prepare (model.queue.get task).node).1,
          ⟨task, (model.queue.get task).node,
            ((model.mark .running task).prepare (model.queue.get task).node).2⟩ :: started⟩
  | finish (model : Model) (before : List Started) (one : Started) (after : List Started)
      (complete : Bool) :
      Turn ⟨model, before ++ one :: after⟩
        ⟨(model.finish one.node one.remainder complete).complete one.task one.node,
          before ++ after⟩

abbrev Turns : Scene -> Scene -> Prop := Relation.ReflTransGen Turn

theorem steady_turns {scene next : Scene} (turns : Turns scene next)
    (spares : ∀ one ∈ scene.started, one.remainder.SparesTypes) :
    scene.model.Steady next.model ∧ ∀ one ∈ next.started, one.remainder.SparesTypes := by
  -- what is left to copy on a tag is settled when it is started on, so the two are kept together
  induction turns with
  | refl => exact ⟨.refl _, spares⟩
  | tail _ turn ih =>
    obtain ⟨steady, spares⟩ := ih
    cases turn with
    | start model task started waits =>
      obtain ⟨prepared, left⟩ :=
        Model.Steady.prepare (model.mark .running task) (model.queue.get task).node
      refine ⟨steady.trans ((Model.Steady.mark model .running task).trans prepared), ?_⟩
      exact List.forall_mem_cons.mpr ⟨left, spares⟩
    | finish model before one after complete =>
      have own := spares one (by simp)
      refine ⟨steady.trans ((Model.Steady.finish model one.node own complete).trans
        (.complete _ one.task one.node)), fun other member => spares other ?_⟩
      rcases List.mem_append.mp member with first | last
      · exact List.mem_append_left _ first
      · exact List.mem_append_right _ (List.mem_cons_of_mem _ last)

end Scene

namespace Pass

def scene (pass : Pass) : Scene :=
  ⟨pass.model, pass.calls.map fun call => ⟨call.task, call.node, call.remainder⟩⟩

/-- The work in its own order and nesting is one of the ways in which it could go. -/
theorem turns_step {pass next : Pass} (step : Step pass next) :
    Scene.Turns pass.scene next.scene := by
  cases step with
  | enter model task rest calls waits => exact .single (.start model task _ waits)
  | skip => exact .refl
  | ignore => exact .refl
  | leave model call outer => exact .single (.finish model [] _ _ true)
  | circle model task rest call outer => exact .single (.finish model [] _ _ false)

theorem turns_reaches {pass next : Pass} (reaches : Reaches pass next) :
    Scene.Turns pass.scene next.scene := by
  induction reaches with
  | refl => exact .refl
  | tail _ step ih => exact ih.trans (turns_step step)

/-- The work on a tag, with all that it awaits, moves nothing that names of types are looked up by;
so in whatever order and nesting tags are worked on, each resolves the names of types on it to what
they lead to before any work. -/
theorem types_settled (model : Model) (todo : List TaskId) :
    (∀ fuel task, model.Unmoved (model.runWith fuel task)) ∧
      (∀ pass, Reaches ⟨model, todo, []⟩ pass -> Scene.Turns ⟨model, []⟩ pass.scene) ∧
      ∀ scene, Scene.Turns ⟨model, []⟩ scene -> model.Unmoved scene.model ∧
        ∀ task id, scene.model.IsTag id ->
          model.ResolvesTypes (scene.model.mark .running task) id := by
  refine ⟨fun fuel task => (Model.Steady.runWith fuel model task).unmoved,
    fun pass reaches => turns_reaches reaches, fun scene turns => ?_⟩
  obtain ⟨steady, -⟩ := Scene.steady_turns turns nofun
  exact ⟨steady.unmoved, fun task id tag =>
    (steady.trans (.mark scene.model .running task)).resolvesTypes tag⟩

end Pass

end XmlSchema

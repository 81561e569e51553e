import XmlSchema.Proofs.Climbing
import XmlSchema.Proofs.Resolution.Inquiries
import XmlSchema.Proofs.Resolution.Passing

set_option autoImplicit false

namespace XmlSchema

namespace Mention

inductive Role where
  | referent
  | body
  | type
  | head
  | base
  | item
  | member
  deriving DecidableEq, Repr

def Role.copies : Role -> Bool
  | .body => true
  | .base => true
  | _ => false

end Mention

structure Mention where
  role : Mention.Role
  symbols : Symbols
  written : String
  deriving DecidableEq, Repr

namespace Node

def mention (node : Node) (role : Mention.Role) (symbols : Symbols) (label : String) :
    List Mention :=
  ((node.attribute? label).map (Mention.mk role symbols)).toList

/-- All names that a tag writes, in the order in which they are followed. -/
def mentions (node : Node) : List Mention :=
  match node.kind with
  | .element =>
      node.mention .referent .elements "ref" ++ node.mention .type .types "type" ++
        node.mention .head .elements "substitutiongroup"
  | .attributeTag =>
      node.mention .referent .attributes "ref" ++ node.mention .type .types "type"
  | .group => node.mention .body .groups "ref"
  | .attributeGroup => node.mention .body .attributeGroups "ref"
  | .extension => node.mention .base .types "base"
  | .restriction => node.mention .base .types "base"
  | .list => node.mention .item .types "itemtype"
  | .union =>
      (((node.attribute? "membertypes").map Text.words).getD []).map (Mention.mk .member .types)
  | _ => []

theorem mention_of_some {node : Node} {label written : String}
    (there : node.attribute? label = some written) (role : Mention.Role) (symbols : Symbols) :
    node.mention role symbols label = [⟨role, symbols, written⟩] := by
  simp [mention, there]

theorem mention_of_none {node : Node} {label : String} (absent : node.attribute? label = none)
    (role : Mention.Role) (symbols : Symbols) : node.mention role symbols label = [] := by
  simp [mention, absent]

theorem mem_mention {node : Node} {role : Mention.Role} {symbols : Symbols} {label : String}
    {mention : Mention} : mention ∈ node.mention role symbols label ↔
      ∃ written, node.attribute? label = some written ∧ Mention.mk role symbols written = mention := by
  simp only [Node.mention, Option.mem_toList, Option.map_eq_some_iff]

theorem role_of_mention {node : Node} {role : Mention.Role} {symbols : Symbols} {label : String}
    {mention : Mention} (member : mention ∈ node.mention role symbols label) :
    mention.role = role := by
  obtain ⟨written, -, rfl⟩ := mem_mention.mp member
  rfl

end Node

namespace Definition

theorem target_merge_self (added : Definition) {there : Option Definition}
    (same : ∀ definition, there = some definition -> definition.target = added.target) :
    (added.merge there).target = added.target := by
  rcases added.target_merge there with new | ⟨old, held, kept⟩
  · exact new
  · exact kept.trans (same old held)

end Definition

namespace Scopes

theorem find_of_joined {target : NodeId} {before after : ScopeId -> Option Definition}
    (joined : ScopeId) {added : Definition} (is : added.target = target)
    (here : after joined = before joined ∨ after joined = some (added.merge (before joined)))
    (elsewhere : ∀ id, id ≠ joined -> after id = before id) (ids : List ScopeId)
    (found : (ids.findSome? before).map Definition.target = some target) :
    (ids.findSome? after).map Definition.target = some target := by
  induction ids with
  | nil => cases found
  | cons id rest ih =>
      have unchanged (kept : after id = before id) :
          (List.findSome? after (id :: rest)).map Definition.target = some target := by
        rw [List.findSome?_cons] at found ⊢
        rw [kept]
        cases held : before id with
        | none =>
            rw [held] at found
            exact ih found
        | some definition =>
            rw [held] at found
            exact found
      by_cases same : id = joined
      next =>
        subst same
        rcases here with kept | new
        next => exact unchanged kept
        next =>
          rw [List.findSome?_cons] at found ⊢
          rw [new]
          -- the entry that is joined leads where the new one leads, if the name was found there
          refine congrArg some ((Definition.target_merge_self added ?_).trans is)
          intro definition held
          rw [held] at found
          exact (Option.some.inj found).trans is.symm
      next => exact unchanged (elsewhere id same)

end Scopes

namespace Namespaces

theorem lookup_addReference (namespaces : Namespaces) (user used : NamespaceId) (scopes : Scopes)
    (id : ScopeId) (kind : Symbols) (name : QName) :
    (namespaces.addReference user used).lookup scopes id kind name =
      namespaces.lookup scopes id kind name := by
  unfold addReference
  split
  next => rfl
  next =>
    have root (home : NamespaceId) := keeps_change Namespace.root namespaces user home
      (f := fun entry => if used ∈ entry.references then entry
        else { entry with references := entry.references ++ [used] })
      fun entry => by split <;> rfl
    unfold lookup
    simp only [root]
    rfl

theorem lookup_add (namespaces : Namespaces) (scopes : Scopes) (start joined : ScopeId)
    (added : Definition) {kind : Symbols} {name : QName}
    (found : (namespaces.lookup scopes start kind name).map Definition.target = some added.target)
    (among : Symbols) (other : QName) :
    (namespaces.lookup (scopes.add joined kind name added) start among other).map
        Definition.target =
      (namespaces.lookup scopes start among other).map Definition.target := by
  unfold lookup at found ⊢
  rw [Scopes.add, Scopes.home_changeTable]
  by_cases same : among = kind ∧ other = name
  next =>
    obtain ⟨rfl, rfl⟩ := same
    cases known : namespaces.find other.uriText with
    | none => rfl
    | some home =>
        simp only [known, Scopes.findLocal, Scopes.chain_changeTable] at found ⊢
        -- one table of the chain changes, and only in what it says of this name
        refine (Scopes.find_of_joined joined rfl ?_ ?_ _ found).trans found.symm
        · rcases Scopes.table_changeTable_cases scopes joined joined among among
            (fun table => table.add other added) with kept | ⟨-, -, -, changed⟩
          · exact Or.inl (by rw [kept])
          · refine Or.inr ?_
            rw [changed, SymbolTable.add, Table.get?_put_self]
        · intro id apart
          rw [Scopes.table_changeTable_of_ne scopes _ (Or.inl apart)]
  next =>
    have tables (id : ScopeId) :
        ((scopes.changeTable joined kind fun table => table.add name added).table id among).get?
            other = (scopes.table id among).get? other := by
      rcases Scopes.table_changeTable_cases scopes joined id kind among
        (fun table => table.add name added) with kept | ⟨rfl, rfl, -, changed⟩
      · rw [kept]
      · rw [changed, SymbolTable.add, Table.get?_put_of_ne]
        exact fun hit => same ⟨rfl, hit⟩
    simp only [Scopes.findLocal, Scopes.chain_changeTable, tables]

end Namespaces

namespace Model

def leadsTo (model : Model) (id : NodeId) (mention : Mention) : Option NodeId :=
  match model.readName id mention.written with
  | .error _ => none
  | .ok name => model.find id mention.symbols name

def absence (model : Model) (id : NodeId) (mention : Mention) : List Unresolved :=
  match model.readName id mention.written with
  | .error _ =>
      [.missing (model.node id).kind (.unqualified (Text.trim mention.written))
        (model.position id)]
  | .ok name =>
      match model.find id mention.symbols name with
      | none => [.missing (model.node id).kind name (model.position id)]
      | some _ => []

def circularity (model : Model) (id : NodeId) (mention : Mention) : List Unresolved :=
  match model.readName id mention.written with
  | .error _ => []
  | .ok name =>
      match mention.role.copies, model.find id mention.symbols name with
      | true, some _ => [.circular (model.node id).kind name (model.position id)]
      | _, _ => []

def circles (model : Model) (id : NodeId) : Remainder -> List Unresolved
  | .body name _ _ => [.circular (model.node id).kind name (model.position id)]
  | .inheritance _ target written =>
      [.circular (model.node id).kind
        ((model.node target).name.getD (.unqualified (Text.trim written))) (model.position id)]
  | _ => []

structure Follows (id : NodeId) (old new : Model) (missed : List Unresolved) : Prop where
  alike : old.Alike new
  sources : new.sources = old.sources
  find : ∀ kind name, new.find id kind name = old.find id kind name
  unresolved : new.unresolved.toList = old.unresolved.toList ++ missed

section

variable {old new : Model}

theorem Alike.sourceOf? (alike : old.Alike new) (sources : new.sources = old.sources)
    (id : NodeId) : new.sourceOf? id = old.sourceOf? id := by
  have source : new.source = old.source := by
    funext id
    unfold Model.source
    rw [sources]
  unfold Model.sourceOf?
  rw [alike.source, source]

theorem Alike.position (alike : old.Alike new) (sources : new.sources = old.sources)
    (id : NodeId) : new.position id = old.position id := by
  have line : (new.node id).line = (old.node id).line :=
    (congrArg Node.line (alike.declared id) :)
  unfold Model.position
  rw [alike.sourceOf? sources, line]

theorem Alike.readName (alike : old.Alike new) (sources : new.sources = old.sources)
    (id : NodeId) (written : String) : new.readName id written = old.readName id written := by
  unfold Model.readName
  rw [alike.sourceOf? sources]

theorem Alike.circles (alike : old.Alike new) (sources : new.sources = old.sources) (id : NodeId)
    (remainder : Remainder) : new.circles id remainder = old.circles id remainder := by
  cases remainder <;> simp only [Model.circles, alike.kind, alike.name, alike.position sources]

theorem Alike.mention (alike : old.Alike new) (id : NodeId) (role : Mention.Role)
    (symbols : Symbols) (label : String) :
    (new.node id).mention role symbols label = (old.node id).mention role symbols label := by
  simp only [Node.mention, Node.attribute?, alike.attributes]

theorem Alike.mentions (alike : old.Alike new) (id : NodeId) :
    (new.node id).mentions = (old.node id).mentions := by
  simp only [Node.mentions, alike.mention, Node.attribute?, alike.kind, alike.attributes]

end

namespace Follows

variable {id : NodeId} {old middle new : Model} {missed more : List Unresolved}

theorem refl (id : NodeId) (model : Model) : Follows id model model [] :=
  ⟨Alike.refl model, rfl, fun _ _ => rfl, by simp⟩

theorem trans (first : Follows id old middle missed) (second : Follows id middle new more) :
    Follows id old new (missed ++ more) where
  alike := first.alike.trans second.alike
  sources := second.sources.trans first.sources
  find kind name := (second.find kind name).trans (first.find kind name)
  unresolved := by rw [second.unresolved, first.unresolved, List.append_assoc]

theorem leadsTo (follows : Follows id old new missed) (mention : Mention) :
    new.leadsTo id mention = old.leadsTo id mention := by
  unfold Model.leadsTo
  rw [follows.alike.readName follows.sources]
  simp only [follows.find]

theorem absence (follows : Follows id old new missed) (mention : Mention) :
    new.absence id mention = old.absence id mention := by
  unfold Model.absence
  rw [follows.alike.readName follows.sources, follows.alike.kind,
    follows.alike.position follows.sources]
  simp only [follows.find]

theorem circularity (follows : Follows id old new missed) (mention : Mention) :
    new.circularity id mention = old.circularity id mention := by
  unfold Model.circularity
  rw [follows.alike.readName follows.sources, follows.alike.kind,
    follows.alike.position follows.sources]
  simp only [follows.find]

theorem changeNode (id : NodeId) (model : Model) (other : NodeId) {f : Node -> Node}
    (keeps : ∀ node, (f node).declared = node.declared) :
    Follows id model (model.changeNode other f) [] := by
  have alike := Alike.changeNode model other keeps
  refine ⟨alike, rfl, fun kind name => ?_, by simp [Model.changeNode]⟩
  unfold Model.find
  rw [alike.scope]
  rfl

theorem mark (id : NodeId) (model : Model) (status : Task.Status) (task : TaskId) :
    Follows id model (model.mark status task) [] :=
  ⟨Alike.mark model status task, rfl, fun _ _ => rfl, by simp [Model.mark]⟩

theorem missing (id : NodeId) (model : Model) (name : QName) :
    Follows id model (model.missing id name)
      [.missing (model.node id).kind name (model.position id)] :=
  ⟨(Noted.missing model id name).alike, rfl, fun _ _ => rfl, Array.toList_push ..⟩

theorem noteUse (id : NodeId) (model : Model) (name : QName) (target : NodeId) :
    Follows id model (model.noteUse id name target) [] := by
  have alike := (Noted.noteUse model id name target).alike
  rcases noteUse_cases model id name target with same | ⟨user, used, same⟩
  · rw [same]
    exact refl id model
  · rw [same] at alike ⊢
    refine ⟨alike, rfl, fun kind name => ?_, by simp⟩
    unfold Model.find
    rw [Namespaces.lookup_addReference]
    rfl

theorem define (model : Model) {id target : NodeId} {kind : Symbols} {name : QName}
    (found : model.find id kind name = some target) (occurs : Occurs) :
    Follows id model (model.define (model.node id).scope kind name target occurs) [] :=
  ⟨Alike.define .., rfl, fun among other =>
    Namespaces.lookup_add model.namespaces model.scopes (model.node id).scope _
      ⟨target, occurs, false⟩ found among other, by simp [Model.define]⟩

theorem follow (id : NodeId) (model : Model) (mention : Mention) :
    Follows id model (model.follow id mention.symbols mention.written).1
      (model.absence id mention) := by
  unfold Model.follow Model.absence
  cases model.readName id mention.written with
  | error fault => exact missing id model _
  | ok name =>
      dsimp only
      cases model.find id mention.symbols name with
      | none => exact missing id model name
      | some target => exact noteUse id model name target

theorem followType (id : NodeId) (model : Model) (role : Mention.Role) (written : String) :
    Follows id model (model.followType id written).1
      (model.absence id ⟨role, .types, written⟩) := by
  unfold Model.followType
  dsimp only
  exact follow id model ⟨role, .types, written⟩

theorem followTypes (id : NodeId) (model : Model) (role : Mention.Role) (found : List TypeRef)
    (written : List String) :
    Follows id model (model.followTypes id found written).1
      ((written.map (Mention.mk role .types)).flatMap (model.absence id)) := by
  induction written generalizing model found with
  | nil => exact refl id model
  | cons first rest ih =>
      have head := followType id model role first
      have tail := ih (model.followType id first).1 (found ++ (model.followType id first).2.toList)
      have same : (model.followType id first).1.absence id = model.absence id :=
        funext fun mention => head.absence mention
      rw [same] at tail
      rw [List.map_cons, List.flatMap_cons]
      unfold Model.followTypes
      dsimp only
      exact head.trans tail

theorem setType (id : NodeId) (model : Model) (owner : NodeId) (type : Option TypeRef) :
    Follows id model (model.setType owner type) [] :=
  changeNode id model owner fun _ => rfl

theorem before (first : Follows id old middle missed) (second : Follows id middle new []) :
    Follows id old new missed := by
  have both := first.trans second
  rwa [List.append_nil] at both

end Follows

section

variable {model : Model} {id : NodeId}

theorem follows_followMember (filed : model.Filed) (kind : Symbols) (written : String) :
    Follows id model (model.followMember id kind written)
      (model.absence id ⟨.referent, kind, written⟩) := by
  have followed := Follows.follow id model ⟨.referent, kind, written⟩
  unfold followMember
  dsimp only
  split
  next name target found =>
    -- the tag is declared under the name of its target, which is the name that was looked up
    have bears := bears_follow filed found
    have there : model.find id kind name = some target := by
      unfold follow at found
      split at found
      next => cases found
      next =>
        split at found
        next => cases found
        next here =>
          cases found
          exact here
    have name_ : ((model.follow id kind written).1.node target).name = some name := by
      rw [followed.alike.name]
      exact bears.1
    rw [name_, Option.getD_some]
    have changed := followed.before (Follows.changeNode id (model.follow id kind written).1 id
      (f := fun node => { node with referent := some target }) fun _ => rfl)
    have scope : (((model.follow id kind written).1.changeNode id
        fun node => { node with referent := some target }).node id).scope =
          ((model.follow id kind written).1.node id).scope :=
      keeps_changeNode Node.scope _ id id fun _ => rfl
    rw [← scope]
    exact changed.before (Follows.define _ ((changed.find kind name).trans there) _)
  next => exact followed

theorem follows_followMemberType (model : Model) (id : NodeId) :
    Follows id model (model.followMemberType id)
      (((model.node id).mention .type .types "type").flatMap (model.absence id)) := by
  unfold followMemberType
  dsimp only
  cases there : (model.node id).attribute? "type" with
  | some written =>
      rw [Node.mention_of_some there, List.flatMap_singleton]
      exact (Follows.followType id model .type written).before (Follows.setType id _ id _)
  | none =>
      rw [Node.mention_of_none there]
      cases (model.node id).attribute? "ref" with
      | some _ => exact Follows.refl id model
      | none =>
          cases model.namelessType id with
          | some type => exact Follows.setType id model id _
          | none => exact Follows.refl id model

theorem follows_followHead (model : Model) (id : NodeId) (written : String) :
    Follows id model (model.followHead id written)
      (model.absence id ⟨.head, .elements, written⟩) := by
  have followed := Follows.follow id model ⟨.head, .elements, written⟩
  unfold followHead
  dsimp only
  split
  next head _ => exact followed.before (Follows.changeNode id _ head fun _ => rfl)
  next => exact followed

theorem follows_resolveMember (filed : model.Filed) (kind : Symbols) :
    Follows id model (model.resolveMember id kind)
      (((model.node id).mention .referent kind "ref" ++ (model.node id).mention .type .types "type"
        ++ (model.node id).mention .head .elements "substitutiongroup").flatMap
          (model.absence id)) := by
  -- each of the three names is looked up after the ones before it, which change nothing for it
  have typed {middle : Model} {missed : List Unresolved} (first : Follows id model middle missed) :
      Follows id model (middle.followMemberType id)
        (missed ++ ((model.node id).mention .type .types "type").flatMap (model.absence id)) := by
    have second := follows_followMemberType middle id
    have same : middle.absence id = model.absence id := funext first.absence
    rw [first.alike.mention, same] at second
    exact first.trans second
  have headed {middle : Model} {missed : List Unresolved} (first : Follows id model middle missed)
      {written : String} (there : (model.node id).attribute? "substitutiongroup" = some written) :
      Follows id model (middle.followHead id written)
        (missed ++ ((model.node id).mention .head .elements "substitutiongroup").flatMap
          (model.absence id)) := by
    have second := follows_followHead middle id written
    rw [first.absence] at second
    rw [Node.mention_of_some there, List.flatMap_singleton]
    exact first.trans second
  have ended {middle : Model} {missed : List Unresolved} (first : Follows id model middle missed)
      (absent : (model.node id).attribute? "substitutiongroup" = none) :
      Follows id model middle
        (missed ++ ((model.node id).mention .head .elements "substitutiongroup").flatMap
          (model.absence id)) := by
    rw [Node.mention_of_none absent]
    exact first.trans (Follows.refl id middle)
  unfold resolveMember
  dsimp only
  rw [List.flatMap_append, List.flatMap_append]
  cases refers : (model.node id).attribute? "ref" with
  | some written =>
      have first : Follows id model (model.followMember id kind written) _ :=
        follows_followMember filed kind written
      rw [Node.mention_of_some refers, List.flatMap_singleton]
      cases stands : (model.node id).attribute? "substitutiongroup" with
      | some head => exact headed (typed first) stands
      | none => exact ended (typed first) stands
  | none =>
      rw [Node.mention_of_none refers]
      cases stands : (model.node id).attribute? "substitutiongroup" with
      | some head => exact headed (typed (Follows.refl id model)) stands
      | none => exact ended (typed (Follows.refl id model)) stands

theorem follows_prepareGroup (model : Model) (id : NodeId) (kind members : Symbols) :
    Follows id model (model.prepareGroup id kind members).1
      (((model.node id).mention .body kind "ref").flatMap (model.absence id)) := by
  unfold prepareGroup
  cases there : (model.node id).attribute? "ref" with
  | none =>
      rw [Node.mention_of_none there]
      exact Follows.refl id model
  | some written =>
      have followed := Follows.follow id model ⟨.body, kind, written⟩
      rw [Node.mention_of_some there, List.flatMap_singleton]
      dsimp only at followed ⊢
      generalize model.follow id kind written = found at followed ⊢
      obtain ⟨after, reference⟩ := found
      cases reference with
      | found name target => exact followed.before (Follows.changeNode id after id fun _ => rfl)
      | malformed => exact followed
      | absent name => exact followed

theorem follows_prepareDerivation (model : Model) (id : NodeId) (how : Derivation) :
    Follows id model (model.prepareDerivation id how).1
      (((model.node id).mention .base .types "base").flatMap (model.absence id)) := by
  unfold prepareDerivation
  cases there : (model.node id).attribute? "base" with
  | none =>
      rw [Node.mention_of_none there]
      exact Follows.refl id model
  | some written =>
      have followed := Follows.followType id model .base written
      rw [Node.mention_of_some there, List.flatMap_singleton]
      dsimp only
      generalize model.followType id written = found at followed ⊢
      split <;> exact followed

structure Spread (id : NodeId) (f : Node -> Node) (old new : Model) : Prop where
  alone : old.enclosing id Kind.isType = none -> new = old.changeNode id f
  around : ∀ owner, old.enclosing id Kind.isType = some owner ->
    new = (old.changeNode id f).changeNode owner f

theorem Spread.follows {old new : Model} {f : Node -> Node} (spread : Spread id f old new)
    (keeps : ∀ node, (f node).declared = node.declared) : Follows id old new [] := by
  have own := Follows.changeNode id old id keeps
  cases enclosed : old.enclosing id Kind.isType with
  | none =>
      rw [spread.alone enclosed]
      exact own
  | some owner =>
      rw [spread.around owner enclosed]
      exact own.before (Follows.changeNode id _ owner keeps)

theorem spread_resolveList (model : Model) (id : NodeId) :
    Spread id (fun node => { node with typeRef := (model.typeByAttribute id "itemtype").2 })
      (model.typeByAttribute id "itemtype").1 (model.resolveList id) := by
  unfold resolveList
  dsimp only
  generalize model.typeByAttribute id "itemtype" = followed
  have same : (followed.1.setType id followed.2).enclosing id Kind.isType =
      followed.1.enclosing id Kind.isType := (Noted.setType ..).alike.enclosing id Kind.isType
  rw [same]
  constructor
  · intro alone
    rw [alone]
    rfl
  · intro owner around
    rw [around]
    rfl

theorem spread_resolveUnion (model : Model) (id : NodeId) {written : List String}
    (listed : (((model.node id).attribute? "membertypes").map Text.words).getD [] = written) :
    Spread id (fun node => { node with
        memberTypes := (model.followTypes id [] written).2 ++ (model.node id).memberTypes })
      (model.followTypes id [] written).1 (model.resolveUnion id) := by
  unfold resolveUnion
  dsimp only
  rw [listed]
  generalize model.followTypes id [] written = followed
  generalize followed.2 ++ (model.node id).memberTypes = types
  have same : (followed.1.setMemberTypes id types).enclosing id Kind.isType =
      followed.1.enclosing id Kind.isType := (Noted.setMemberTypes ..).alike.enclosing id Kind.isType
  rw [same]
  constructor
  · intro alone
    rw [alone]
    rfl
  · intro owner around
    rw [around]
    rfl

theorem follows_resolveList (model : Model) (id : NodeId) :
    Follows id model (model.resolveList id)
      (((model.node id).mention .item .types "itemtype").flatMap (model.absence id)) := by
  have typed : Follows id model (model.typeByAttribute id "itemtype").1
      (((model.node id).mention .item .types "itemtype").flatMap (model.absence id)) := by
    unfold typeByAttribute
    cases there : (model.node id).attribute? "itemtype" with
    | none =>
        rw [Node.mention_of_none there]
        exact Follows.refl id model
    | some written =>
        rw [Node.mention_of_some there, List.flatMap_singleton]
        exact Follows.followType id model .item written
  exact typed.before ((spread_resolveList model id).follows fun _ => rfl)

theorem follows_resolveUnion (model : Model) (id : NodeId) :
    Follows id model (model.resolveUnion id)
      (((((model.node id).attribute? "membertypes").map Text.words).getD []).map
        (Mention.mk .member .types) |>.flatMap (model.absence id)) :=
  (Follows.followTypes id model .member [] _).before
    ((spread_resolveUnion model id rfl).follows fun _ => rfl)

theorem follows_prepare (filed : model.Filed)
    (bare : (model.node id).kind = .attributeTag ->
      (model.node id).attribute? "substitutiongroup" = none) :
    Follows id model (model.prepare id).1
      ((model.node id).mentions.flatMap (model.absence id)) := by
  unfold prepare Node.mentions
  dsimp only
  cases kind : (model.node id).kind with
  | element => exact follows_resolveMember filed .elements
  | attributeTag =>
      have followed : Follows id model (model.resolveMember id .attributes) _ :=
        follows_resolveMember filed .attributes
      rwa [Node.mention_of_none (bare kind), List.append_nil] at followed
  | group => exact follows_prepareGroup model id .groups .elements
  | attributeGroup => exact follows_prepareGroup model id .attributeGroups .attributes
  | extension => exact follows_prepareDerivation model id .extension
  | restriction => exact follows_prepareDerivation model id .restriction
  | list => exact follows_resolveList model id
  | union => exact follows_resolveUnion model id
  | _ => exact Follows.refl id model

theorem remainder_prepareGroup (model : Model) (id : NodeId) (kind members : Symbols)
    (target : NodeId) :
    ((model.prepareGroup id kind members).2.awaited = some target ↔
      ∃ mention ∈ (model.node id).mention .body kind "ref",
        model.leadsTo id mention = some target) ∧
    model.circles id (model.prepareGroup id kind members).2 =
      ((model.node id).mention .body kind "ref").flatMap (model.circularity id) := by
  unfold prepareGroup
  cases there : (model.node id).attribute? "ref" with
  | none => simp [Node.mention_of_none there, Remainder.awaited, circles]
  | some written =>
      rw [Node.mention_of_some there, List.flatMap_singleton]
      simp only [List.mem_singleton, exists_eq_left]
      unfold follow leadsTo circularity
      dsimp only
      cases model.readName id written with
      | error fault => simp [Remainder.awaited, circles]
      | ok name =>
          dsimp only
          cases model.find id kind name with
          | none => simp [Remainder.awaited, circles]
          | some other => simp [Remainder.awaited, circles, Mention.Role.copies]

theorem remainder_prepareDerivation (filed : model.Filed) (how : Derivation) (target : NodeId) :
    ((model.prepareDerivation id how).2.awaited = some target ↔
      ∃ mention ∈ (model.node id).mention .base .types "base",
        model.leadsTo id mention = some target) ∧
    model.circles id (model.prepareDerivation id how).2 =
      ((model.node id).mention .base .types "base").flatMap (model.circularity id) := by
  unfold prepareDerivation
  cases there : (model.node id).attribute? "base" with
  | none => simp [Node.mention_of_none there, Remainder.awaited, circles]
  | some written =>
      rw [Node.mention_of_some there, List.flatMap_singleton]
      simp only [List.mem_singleton, exists_eq_left]
      unfold followType follow leadsTo circularity
      dsimp only
      cases model.readName id written with
      | error fault => simp [Reference.typeRef?, Remainder.awaited, circles]
      | ok name =>
          dsimp only
          cases found : model.find id .types name with
          | none => simp [Reference.typeRef?, Remainder.awaited, circles]
          | some other =>
              have named := (filed.find found).1
              simp [Reference.typeRef?, Remainder.awaited, circles, Mention.Role.copies, named]

theorem circularity_of_plain (model : Model) (id : NodeId) {mention : Mention}
    (plain : mention.role.copies = false) : model.circularity id mention = [] := by
  unfold circularity
  rw [plain]
  cases model.readName id mention.written <;> rfl

/-- What is left of the work on a tag is for these names: what it awaits is the body that one of them
leads to, and that name is the one that is noted if the body depends on itself. -/
def Pursues (model : Model) (id target : NodeId) (mentions : List Mention)
    (remainder : Remainder) : Prop :=
  (remainder.awaited = some target ↔
    ∃ mention ∈ mentions, mention.role.copies = true ∧ model.leadsTo id mention = some target) ∧
  model.circles id remainder = mentions.flatMap (model.circularity id)

theorem pursues_of_copies {target : NodeId} {mentions : List Mention} {remainder : Remainder}
    (copies : ∀ mention ∈ mentions, mention.role.copies = true)
    (left : (remainder.awaited = some target ↔
        ∃ mention ∈ mentions, model.leadsTo id mention = some target) ∧
      model.circles id remainder = mentions.flatMap (model.circularity id)) :
    model.Pursues id target mentions remainder := by
  refine ⟨left.1.trans ?_, left.2⟩
  refine exists_congr fun mention => and_congr_right fun member => ?_
  simp [copies mention member]

theorem pursues_of_plain {mentions : List Mention} {remainder : Remainder}
    (copies : ∀ mention ∈ mentions, mention.role.copies = false)
    (awaits : remainder.awaited = none) (noted : model.circles id remainder = [])
    (target : NodeId) : model.Pursues id target mentions remainder := by
  constructor
  · rw [awaits]
    refine iff_of_false (by simp) ?_
    rintro ⟨mention, member, copied, -⟩
    cases (copies mention member).symm.trans copied
  · rw [noted, eq_comm, List.flatMap_eq_nil_iff]
    exact fun mention member => circularity_of_plain model id (copies mention member)

theorem remainder_prepare (filed : model.Filed) (target : NodeId) :
    model.Pursues id target (model.node id).mentions (model.prepare id).2 := by
  -- tags of a kind write names that are all copied or names of which none is
  unfold prepare Node.mentions
  dsimp only
  cases kind : (model.node id).kind with
  | element =>
      refine pursues_of_plain (fun mention member => ?_) rfl rfl target
      simp only [List.mem_append] at member
      rcases member with (member | member) | member <;> rw [Node.role_of_mention member] <;> rfl
  | attributeTag =>
      refine pursues_of_plain (fun mention member => ?_) rfl rfl target
      simp only [List.mem_append] at member
      rcases member with member | member <;> rw [Node.role_of_mention member] <;> rfl
  | group =>
      exact pursues_of_copies (fun mention member => by rw [Node.role_of_mention member]; rfl)
        (remainder_prepareGroup model id .groups .elements target)
  | attributeGroup =>
      exact pursues_of_copies (fun mention member => by rw [Node.role_of_mention member]; rfl)
        (remainder_prepareGroup model id .attributeGroups .attributes target)
  | extension =>
      exact pursues_of_copies (fun mention member => by rw [Node.role_of_mention member]; rfl)
        (remainder_prepareDerivation filed .extension target)
  | restriction =>
      exact pursues_of_copies (fun mention member => by rw [Node.role_of_mention member]; rfl)
        (remainder_prepareDerivation filed .restriction target)
  | list =>
      exact pursues_of_plain (fun mention member => by rw [Node.role_of_mention member]; rfl) rfl rfl
        target
  | union =>
      refine pursues_of_plain (fun mention member => ?_) rfl rfl target
      obtain ⟨written, -, rfl⟩ := List.mem_map.mp member
      rfl
  | _ => exact pursues_of_plain (fun _ none_ => by cases none_) rfl rfl target

theorem ledger_markWildcard (model : Model) (id : NodeId) (mark : Node -> Node) :
    (model.markWildcard id mark).sources = model.sources ∧
      (model.markWildcard id mark).unresolved = model.unresolved := by
  unfold markWildcard
  split <;> exact ⟨rfl, rfl⟩

theorem ledger_copyGroup (model : Model) (id target : NodeId) (members : Symbols) :
    (model.copyGroup id target members).sources = model.sources ∧
      (model.copyGroup id target members).unresolved = model.unresolved := by
  unfold copyGroup markAnyContent markAnyAttribute
  dsimp only
  split <;> split <;> simp only [ledger_markWildcard, and_self]

theorem ledger_derive (model : Model) (id : NodeId) (how : Derivation) (base : Option TypeRef)
    (heritage : Option NodeId) :
    (model.derive id how base heritage).sources = model.sources ∧
      (model.derive id how base heritage).unresolved = model.unresolved := by
  have set (middle : Model) (owner : NodeId) : (middle.setBase owner how base).sources =
      middle.sources ∧ (middle.setBase owner how base).unresolved = middle.unresolved := ⟨rfl, rfl⟩
  have inherited (owner target : NodeId) : (model.inherit owner target).sources = model.sources ∧
      (model.inherit owner target).unresolved = model.unresolved := by
    unfold inherit
    exact ⟨rfl, rfl⟩
  unfold derive inlineBody
  dsimp only
  split
  next owner _ =>
    cases heritage with
    | none => exact set model owner
    | some target =>
        obtain ⟨sources, unresolved⟩ := set (model.inherit owner target) owner
        exact ⟨sources.trans (inherited owner target).1,
          unresolved.trans (inherited owner target).2⟩
  next => exact ⟨rfl, rfl⟩

theorem ledger_finish (model : Model) (id : NodeId) (remainder : Remainder) (complete : Bool) :
    (model.finish id remainder complete).sources = model.sources ∧
      (model.finish id remainder complete).unresolved.toList =
        model.unresolved.toList ++ if complete then [] else model.circles id remainder := by
  unfold finish
  cases remainder with
  | nothing => simp [circles]
  | own kinds factor => simp [circles, inlineBody]
  | body name target members =>
      cases complete with
      | true => simp [ledger_copyGroup model id target members]
      | false => simp [circles, circular]
  | derivation how base => simp [circles, ledger_derive model id how base none]
  | inheritance how target written =>
      cases complete with
      | true => simp [ledger_derive model id how]
      | false => simp [circles, circular, ledger_derive _ id how]

end

end Model

end XmlSchema

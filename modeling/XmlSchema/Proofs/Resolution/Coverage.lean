import XmlSchema.Proofs.Reading.Inner
import XmlSchema.Proofs.Resolution.Builtins
import XmlSchema.Proofs.Resolution.Founded

set_option autoImplicit false

namespace XmlSchema

namespace Scopes

def Stock (scopes : Scopes) (fit : ScopeId -> Bool -> NodeId -> Prop) : Prop :=
  ∀ scope kind name definition, (scopes.table scope kind).get? name = some definition ->
    fit scope definition.inherited definition.target

namespace Stock

variable {scopes other : Scopes} {fit : ScopeId -> Bool -> NodeId -> Prop}

theorem mono {fits : ScopeId -> Bool -> NodeId -> Prop} (stock : scopes.Stock fit)
    (weaker : ∀ scope inherited target, fit scope inherited target -> fits scope inherited target) :
    scopes.Stock fits :=
  fun scope kind name definition found => weaker _ _ _ (stock scope kind name definition found)

theorem joined (stock : scopes.Stock fit) {added : ScopeId -> Symbols -> QName -> Option Definition}
    (entries : ∀ scope kind name, (other.table scope kind).get? name =
      Definition.join (added scope kind name) ((scopes.table scope kind).get? name))
    (fits : ∀ scope kind name definition, added scope kind name = some definition ->
      fit scope definition.inherited definition.target) : other.Stock fit := by
  intro scope kind name definition found
  rw [entries] at found
  obtain ⟨origin, either, target, inherited⟩ := Definition.join_cases found
  rw [target, inherited]
  rcases either with new | before
  · exact fits scope kind name origin new
  · exact stock scope kind name origin before

theorem add (stock : scopes.Stock fit) {id : ScopeId} (within : id.index < scopes.size)
    (kind : Symbols) (name : QName) {definition : Definition}
    (added : fit id definition.inherited definition.target) :
    (scopes.add id kind name definition).Stock fit := by
  refine stock.joined (get?_add scopes within kind name definition) ?_
  intro scope among other found there
  split at there
  next here =>
    obtain ⟨-, same⟩ := Option.ite_none_right_eq_some.mp there
    cases same
    exact here ▸ added
  next => cases there

theorem inlineEach (stock : scopes.Stock fit) {target source : ScopeId}
    (within : target.index < scopes.size) {kinds : List Symbols} (nodup : kinds.Nodup)
    (factor : Occurs) {inherited : Bool}
    (copied : ∀ before leads, fit source before leads -> fit target (inherited || before) leads) :
    (scopes.inlineEach kinds target factor source inherited).Stock fit := by
  refine stock.joined (scopes.get?_inlineEach within nodup factor source inherited) ?_
  intro scope kind name definition there
  obtain ⟨⟨rfl, -⟩, copy⟩ := Option.ite_none_right_eq_some.mp there
  obtain ⟨original, held, rfl⟩ := Option.map_eq_some_iff.mp copy
  exact copied _ _ (stock source kind name original held)

end Stock

end Scopes

def Node.leads (node : Node) : List NodeId :=
  node.referent.toList ++ node.types.filterMap TypeRef.target?

namespace Namespaces

def Lists (namespaces : Namespaces) (user : NamespaceId) (name : QName) : Prop :=
  ∃ used, namespaces.find name.uriText = some used ∧
    (used = user ∨ used ∈ (namespaces.get user).references)

theorem references_addReference (namespaces : Namespaces) {user : NamespaceId} (used : NamespaceId)
    (within : user.index < namespaces.size) (apart : user ≠ used) :
    used ∈ ((namespaces.addReference user used).get user).references := by
  unfold addReference
  rw [if_neg apart, get_change, if_pos ⟨rfl, within⟩]
  split
  next there => exact there
  next => exact List.mem_append_right _ (List.mem_singleton_self used)

theorem mem_references_addReference (namespaces : Namespaces) (user used : NamespaceId)
    {id other : NamespaceId} (listed : other ∈ (namespaces.get id).references) :
    other ∈ ((namespaces.addReference user used).get id).references := by
  unfold addReference
  split
  next => exact listed
  next =>
    rw [get_change]
    split
    next =>
      split
      · exact listed
      · exact List.mem_append_left _ listed
    next => exact listed

end Namespaces

namespace Model

def home (model : Model) (id : NodeId) : Option NamespaceId :=
  (model.scopes.get (model.node id).scope).home

/-- What can be named in a namespace as it is: what belongs to it, built-in types, and what has a name
of a namespace that it lists. -/
def Covers (model : Model) (home : Option NamespaceId) (target : NodeId) : Prop :=
  model.home target = home ∨ ∃ name, (model.node target).name = some name ∧
    ((model.node target).isBuiltin = true ∨ ∃ user, home = some user ∧
      model.namespaces.Lists user name)

/-- A namespace takes something in from another: what a tag refers to, or an element that may stand
in for another. -/
inductive Draws (model : Model) : Option NamespaceId -> Option NamespaceId -> Prop where
  | refers {id target : NodeId} (refers : (model.node id).referent = some target) :
      Draws model (model.home id) (model.home target)
  | replaces {id head : NodeId} (listed : id ∈ (model.node head).substitutes) :
      Draws model (model.home head) (model.home id)

/-- What may be entered in a scope: what its namespace has taken in, along however many references and
substitutions, and what a derived type has inherited. -/
def Stocks (model : Model) (scope : ScopeId) : Bool -> NodeId -> Prop
  | true, _ =>
      ∃ type, model.IsTag type ∧ (model.node type).kind.isType = true ∧
        (model.node type).scope = scope
  | false, target =>
      Relation.ReflTransGen model.Draws (model.scopes.get scope).home (model.home target)

/-- What each tag leads to can be named where the tag is, and the tables hold nothing that has not
been taken in. -/
structure Covered (model : Model) : Prop where
  leads : ∀ id, ∀ target ∈ (model.node id).leads, model.Covers (model.home id) target
  heads : ∀ head, ∀ id ∈ (model.node head).substitutes, model.Covers (model.home id) head
  markers : ∀ scope target, model.scopes.typeOf scope = some target ->
    model.home target = (model.scopes.get scope).home
  entries : model.scopes.Stock model.Stocks

structure Cites (old new : Model) : Prop where
  alike : old.Alike new
  references : ∀ id, ∀ used ∈ (old.namespaces.get id).references,
    used ∈ (new.namespaces.get id).references

structure Widens (old new : Model) : Prop extends Cites old new where
  referent : ∀ id target, (old.node id).referent = some target ->
    (new.node id).referent = some target
  substitutes : ∀ head, ∀ id ∈ (old.node head).substitutes, id ∈ (new.node head).substitutes

section

variable {old new : Model}

theorem Alike.homeAt (alike : old.Alike new) (scope : ScopeId) :
    (new.scopes.get scope).home = (old.scopes.get scope).home :=
  (congrArg Scope.home (alike.frame scope) :)

theorem Alike.home (alike : old.Alike new) (id : NodeId) : new.home id = old.home id := by
  unfold Model.home
  rw [alike.scope, alike.homeAt]

theorem Cites.refl (model : Model) : model.Cites model := ⟨.refl model, fun _ _ listed => listed⟩

theorem Cites.trans {middle : Model} (first : old.Cites middle) (second : middle.Cites new) :
    old.Cites new :=
  ⟨first.alike.trans second.alike, fun id used listed =>
    second.references id used (first.references id used listed)⟩

theorem Cites.covers (cites : old.Cites new) {home : Option NamespaceId} {target : NodeId}
    (covers : old.Covers home target) : new.Covers home target := by
  have alike := cites.alike
  rcases covers with own | ⟨name, named, builtin | ⟨user, same, used, known, listed⟩⟩
  · exact .inl ((alike.home target).trans own)
  · exact .inr ⟨name, (alike.name target).trans named, .inl ((alike.isBuiltin target).trans builtin)⟩
  · refine .inr ⟨name, (alike.name target).trans named, .inr ⟨user, same, used, ?_, ?_⟩⟩
    · unfold Namespaces.find
      rw [alike.registry.byName]
      exact known
    · exact listed.imp_right (cites.references user used)

theorem Widens.refl (model : Model) : model.Widens model :=
  ⟨.refl model, fun _ _ refers => refers, fun _ _ listed => listed⟩

theorem Widens.trans {middle : Model} (first : old.Widens middle) (second : middle.Widens new) :
    old.Widens new where
  toCites := first.toCites.trans second.toCites
  referent id target refers := second.referent id target (first.referent id target refers)
  substitutes head id listed := second.substitutes head id (first.substitutes head id listed)

theorem Widens.step {start : Model} {id : NodeId} {remainder : Remainder}
    (step : remainder.Step start id old new) : old.Widens new where
  alike := step.alike
  references _ _ listed := namespaces_step step ▸ listed
  referent _ target refers := (lasting_referent target).step step refers
  substitutes _ other listed := (lasting_substitutes other).step step listed

theorem Widens.draws (widens : old.Widens new) {user used : Option NamespaceId}
    (draws : old.Draws user used) : new.Draws user used := by
  cases draws with
  | refers refers =>
      rw [← widens.alike.home, ← widens.alike.home]
      exact .refers (widens.referent _ _ refers)
  | replaces listed =>
      rw [← widens.alike.home, ← widens.alike.home]
      exact .replaces (widens.substitutes _ _ listed)

theorem Widens.stocks (widens : old.Widens new) (scope : ScopeId) (inherited : Bool)
    (target : NodeId) (stocks : old.Stocks scope inherited target) :
    new.Stocks scope inherited target := by
  have alike := widens.alike
  cases inherited with
  | true =>
      obtain ⟨type, tag, isType, same⟩ := stocks
      exact ⟨type, (alike.isTag type).mpr tag,
        (congrArg Kind.isType (alike.kind type)).trans isType, (alike.scope type).trans same⟩
  | false =>
      simp only [Stocks, alike.homeAt, alike.home] at stocks ⊢
      exact Relation.ReflTransGen.mono (fun _ _ => widens.draws) _ _ stocks

theorem Covered.widen (covered : old.Covered) (widens : old.Widens new)
    (leads : ∀ id, ∀ target ∈ (new.node id).leads,
      target ∈ (old.node id).leads ∨ new.Covers (new.home id) target)
    (heads : ∀ head, ∀ id ∈ (new.node head).substitutes,
      id ∈ (old.node head).substitutes ∨ new.Covers (new.home id) head)
    (entries : new.scopes.Stock new.Stocks) : new.Covered where
  leads id target member := by
    rcases leads id target member with before | covers
    · rw [widens.alike.home]
      exact widens.covers (covered.leads id target before)
    · exact covers
  heads head id member := by
    rcases heads head id member with before | covers
    · rw [widens.alike.home]
      exact widens.covers (covered.heads head id before)
    · exact covers
  markers scope target marked := by
    rw [widens.alike.home, widens.alike.homeAt]
    refine covered.markers scope target ?_
    exact (congrArg Scope.typeMarker (widens.alike.frame scope) :).symm.trans marked
  entries := entries

theorem Covered.congr (covered : old.Covered) (cites : old.Cites new) (nodes : new.nodes = old.nodes)
    (scopes : new.scopes = old.scopes) : new.Covered := by
  have nodes := Draft.node_congr nodes
  have widens : old.Widens new := by
    refine ⟨cites, fun id target refers => ?_, fun head id listed => ?_⟩ <;> rw [nodes]
    · exact refers
    · exact listed
  refine covered.widen widens (fun id target member => .inl ?_) (fun head id member => .inl ?_) ?_
  · exact nodes id ▸ member
  · exact nodes head ▸ member
  · rw [scopes]
    exact covered.entries.mono widens.stocks

theorem Covered.withScopes (covered : old.Covered) {scopes : Scopes}
    (size : scopes.size = old.scopes.size)
    (frame : ∀ id, (scopes.get id).frame = (old.scopes.get id).frame)
    (entries : scopes.Stock old.Stocks) : Covered { old with scopes := scopes } := by
  have widens : old.Widens { old with scopes := scopes } :=
    ⟨⟨.withScopes old size frame, fun _ _ listed => listed⟩, fun _ _ refers => refers,
      fun _ _ listed => listed⟩
  exact covered.widen widens (fun _ _ => .inl) (fun _ _ => .inl) (entries.mono widens.stocks)

theorem Covered.changeNode (covered : old.Covered) (id : NodeId) {f : Node -> Node}
    (keeps : ∀ node, (f node).declared = node.declared)
    (referent : ∀ target, (old.node id).referent = some target ->
      (f (old.node id)).referent = some target)
    (substitutes : ∀ other ∈ (old.node id).substitutes, other ∈ (f (old.node id)).substitutes)
    (leads : ∀ target ∈ (f (old.node id)).leads,
      target ∈ (old.node id).leads ∨ old.Covers (old.home id) target)
    (heads : ∀ other ∈ (f (old.node id)).substitutes,
      other ∈ (old.node id).substitutes ∨ old.Covers (old.home other) id) :
    (old.changeNode id f).Covered := by
  have alike := Alike.changeNode old id keeps
  have node (other : NodeId) : (old.changeNode id f).node other = old.node other ∨
      other = id ∧ (old.changeNode id f).node other = f (old.node other) := by
    rw [node_changeNode]
    split
    next here => exact .inr ⟨here.1, rfl⟩
    next => exact .inl rfl
  have widens : old.Widens (old.changeNode id f) := by
    refine ⟨⟨alike, fun _ _ listed => listed⟩, fun other target refers => ?_,
      fun other target listed => ?_⟩ <;> rcases node other with same | ⟨rfl, same⟩ <;> rw [same]
    · exact refers
    · exact referent target refers
    · exact listed
    · exact substitutes target listed
  refine covered.widen widens (fun other target member => ?_) (fun other target member => ?_)
    (covered.entries.mono widens.stocks)
  · rcases node other with same | ⟨rfl, same⟩ <;> rw [same] at member
    · exact .inl member
    · rw [alike.home]
      exact (leads target member).imp_right widens.covers
  · rcases node other with same | ⟨rfl, same⟩ <;> rw [same] at member
    · exact .inl member
    · rw [alike.home]
      exact (heads target member).imp_right widens.covers

theorem Covered.noted (covered : old.Covered) (id : NodeId) {f : Node -> Node}
    (keeps : ∀ node, (f node).declared = node.declared)
    (targets : ∀ node, (f node).referent = node.referent ∧ (f node).types = node.types ∧
      (f node).substitutes = node.substitutes) : (old.changeNode id f).Covered := by
  obtain ⟨referent, types, substitutes⟩ := targets (old.node id)
  have leads : (f (old.node id)).leads = (old.node id).leads := by
    simp only [Node.leads, referent, types]
  exact covered.changeNode id keeps (fun _ refers => referent.trans refers)
    (fun _ listed => substitutes ▸ listed) (fun _ member => .inl (leads ▸ member))
    fun _ member => .inl (substitutes ▸ member)

end

variable {old new model : Model} {id : NodeId}

def Untyped (model : Model) (scope : ScopeId) : Prop :=
  ∀ type, model.IsTag type -> (model.node type).kind.isType = true -> (model.node type).scope ≠ scope

theorem Shaped.untyped (shaped : model.Shaped) (tag : model.IsTag id)
    (plain : (model.node id).kind ≠ .schema) (other : (model.node id).kind.isType = false) :
    model.Untyped (model.node id).scope := by
  intro type typed isType same
  obtain rfl := shaped.apart id type tag typed plain same.symm
  cases other.symm.trans isType

structure Lodged (model : Model) (id : NodeId) : Prop where
  user : ∃ user, model.home id = some user ∧ user.index < model.namespaces.size
  around : ∃ outer, (model.scopes.get (model.node id).scope).parent = some outer ∧
    (model.scopes.get outer).home = model.home id
  owners : ∀ owner, model.enclosing id Kind.isType = some owner ->
    model.IsTag owner ∧ model.home owner = model.home id
  untyped : model.Untyped (model.node id).scope

theorem Lodged.alike (lodged : old.Lodged id) (alike : old.Alike new) : new.Lodged id where
  user := by
    rw [alike.home, alike.registry.size]
    exact lodged.user
  around := by
    simp only [alike.scope, alike.parentScope, alike.homeAt, alike.home]
    exact lodged.around
  owners owner around := by
    rw [alike.enclosing] at around
    rw [alike.isTag, alike.home, alike.home]
    exact lodged.owners owner around
  untyped type tag isType := by
    rw [alike.isTag] at tag
    rw [alike.kind] at isType
    rw [alike.scope, alike.scope]
    exact lodged.untyped type tag isType

theorem Lodged.home_owner (lodged : model.Lodged id) {owner : NodeId}
    (around : model.enclosing id Kind.isType = some owner) : model.home owner = model.home id :=
  (lodged.owners owner around).2

theorem Lodged.covers_noteUse (lodged : model.Lodged id) {name : QName} {target : NodeId}
    (named : (model.node target).name = some name)
    (known : model.namespaces.find name.uriText ≠ none) :
    (model.noteUse id name target).Covers (model.home id) target := by
  have alike := (Noted.noteUse model id name target).alike
  refine .inr ⟨name, (alike.name target).trans named, ?_⟩
  by_cases builtin : (model.node target).isBuiltin = true
  next => exact .inl ((alike.isBuiltin target).trans builtin)
  next =>
    obtain ⟨user, home, within⟩ := lodged.user
    obtain ⟨used, found⟩ := Option.ne_none_iff_exists'.mp known
    -- outside the built-in types, the namespace of the name is added to the references
    have noted : (model.noteUse id name target).namespaces =
        model.namespaces.addReference user used := by
      unfold Model.home at home
      unfold noteUse
      rw [if_neg builtin, home, found]
    refine .inr ⟨user, home, used, ?_, ?_⟩
    · unfold Namespaces.find
      rw [alike.registry.byName]
      exact found
    · rw [noted]
      by_cases same : used = user
      · exact .inl same
      · exact .inr (model.namespaces.references_addReference used within (Ne.symm same))

theorem known_of_find {kind : Symbols} {name : QName} {target : NodeId}
    (found : model.find id kind name = some target) :
    model.namespaces.find name.uriText ≠ none := by
  intro unknown
  unfold find Namespaces.lookup at found
  rw [unknown] at found
  cases found

theorem Lodged.covers_follow (lodged : model.Lodged id) (filed : model.Filed) {kind : Symbols}
    {written : String} {name : QName} {target : NodeId}
    (found : (model.follow id kind written).2 = .found name target) :
    (model.follow id kind written).1.Covers (model.home id) target := by
  have named := (bears_follow filed found).1
  unfold follow at found ⊢
  split at found
  next => cases found
  next read _ =>
    split at found
    next => cases found
    next leads =>
      cases found
      exact lodged.covers_noteUse named (known_of_find leads)

namespace Cites

theorem follow (model : Model) (id : NodeId) (kind : Symbols) (written : String) :
    model.Cites (model.follow id kind written).1 := by
  refine ⟨(Noted.follow model id kind written).alike, fun other used listed => ?_⟩
  unfold Model.follow
  split
  next => exact listed
  next name _ =>
    split
    next => exact listed
    next target _ =>
      rcases model.noteUse_cases id name target with same | ⟨user, cited, same⟩ <;> rw [same]
      · exact listed
      · exact model.namespaces.mem_references_addReference user cited listed

theorem step {start : Model} {one two : Inquiry} (step : Inquiry.Step start id one two) :
    one.model.Cites two.model := by
  refine ⟨step.alike, fun other used listed => ?_⟩
  cases step with
  | follow after found kind written =>
      dsimp only
      exact (follow after id kind written).references other used listed
  | member => exact listed
  | group => exact listed
  | type => exact listed
  | members => exact listed
  | head => exact listed

theorem prepare (model : Model) (id : NodeId) : model.Cites (model.prepare id).1 := by
  obtain ⟨found, reached, -⟩ := Inquiry.Reached.prepare model id
  exact reached.keeps (P := fun inquiry => model.Cites inquiry.model) (refl model)
    fun _ next before => before.trans (step next)

end Cites

def Admits (model : Model) (home : Option NamespaceId) (type : Option TypeRef) : Prop :=
  ∀ target, type.bind TypeRef.target? = some target -> model.Covers home target

theorem Admits.cites {home : Option NamespaceId} {type : Option TypeRef}
    (admits : old.Admits home type) (cites : old.Cites new) : new.Admits home type :=
  fun target leads => cites.covers (admits target leads)

theorem Covered.admits_namelessType (covered : model.Covered) (id : NodeId) :
    model.Admits (model.home id) (model.namelessType id) :=
  fun _ leads => .inl (covered.markers _ _ (typeOf_of_namelessType leads))

theorem Covered.memberTypes (covered : model.Covered) (id : NodeId) :
    ∀ type ∈ (model.node id).memberTypes, model.Admits (model.home id) (some type) := by
  intro type member target leads
  refine covered.leads id target (List.mem_append_right _ ?_)
  exact List.mem_filterMap.mpr ⟨type, List.mem_append_right _ member, leads⟩

namespace Covered

theorem follow (covered : model.Covered) (id : NodeId) (kind : Symbols) (written : String) :
    (model.follow id kind written).1.Covered :=
  covered.congr (.follow ..) (nodes_follow ..) (Noted.follow model id kind written).scopes

theorem setReferent (covered : model.Covered) (fresh : (model.node id).referent = none)
    {target : NodeId} (covers : model.Covers (model.home id) target) :
    (model.changeNode id fun node => { node with referent := some target }).Covered := by
  refine covered.changeNode id (fun _ => rfl) (fun other refers => ?_) (fun _ listed => listed)
    (fun other member => ?_) fun _ => .inl
  · cases fresh.symm.trans refers
  · simp only [Node.leads, Node.types, List.mem_append, Option.toList_some,
      List.mem_singleton] at member ⊢
    rcases member with rfl | before
    · exact .inr covers
    · exact .inl (.inr before)

theorem changeTypes (covered : model.Covered) (owner : NodeId) {f : Node -> Node}
    (keeps : ∀ node, (f node).declared = node.declared)
    (others : ∀ node, (f node).referent = node.referent ∧ (f node).substitutes = node.substitutes)
    (types : ∀ type ∈ (f (model.node owner)).types,
      type ∈ (model.node owner).types ∨ model.Admits (model.home owner) (some type)) :
    (model.changeNode owner f).Covered := by
  obtain ⟨referent, substitutes⟩ := others (model.node owner)
  refine covered.changeNode owner keeps (fun _ refers => referent.trans refers)
    (fun _ listed => substitutes ▸ listed) (fun other member => ?_)
    fun _ member => .inl (substitutes ▸ member)
  rcases List.mem_append.mp member with refers | typed
  · exact .inl (List.mem_append_left _ (referent ▸ refers))
  · obtain ⟨type, there, leads⟩ := List.mem_filterMap.mp typed
    rcases types type there with before | admits
    · exact .inl (List.mem_append_right _ (List.mem_filterMap.mpr ⟨type, before, leads⟩))
    · exact .inr (admits other leads)

theorem setType (covered : model.Covered) (owner : NodeId) {type : Option TypeRef}
    (admits : model.Admits (model.home owner) type) : (model.setType owner type).Covered := by
  refine covered.changeTypes owner (fun _ => rfl) (fun _ => ⟨rfl, rfl⟩) fun given member => ?_
  simp only [Node.types, List.mem_append] at member ⊢
  rcases member with (new | base) | members
  · exact .inr (Option.mem_toList.mp new ▸ admits)
  · exact .inl (.inl (.inr base))
  · exact .inl (.inr members)

theorem setBase (covered : model.Covered) (owner : NodeId) (how : Derivation)
    {base : Option TypeRef} (admits : model.Admits (model.home owner) base) :
    (model.setBase owner how base).Covered := by
  refine covered.changeTypes owner (fun _ => rfl) (fun _ => ⟨rfl, rfl⟩) fun given member => ?_
  simp only [Node.types, List.mem_append] at member ⊢
  rcases member with (type | new) | members
  · exact .inl (.inl (.inl type))
  · exact .inr (Option.mem_toList.mp new ▸ admits)
  · exact .inl (.inr members)

theorem setMemberTypes (covered : model.Covered) (owner : NodeId) {types : List TypeRef}
    (admits : ∀ type ∈ types, model.Admits (model.home owner) (some type)) :
    (model.setMemberTypes owner types).Covered := by
  refine covered.changeTypes owner (fun _ => rfl) (fun _ => ⟨rfl, rfl⟩) fun given member => ?_
  simp only [Node.types, List.mem_append] at member ⊢
  rcases member with before | new
  · exact .inl (.inl before)
  · exact .inr (admits given new)

theorem addSubstitute (covered : model.Covered) {head : NodeId}
    (covers : model.Covers (model.home id) head) :
    (model.changeNode head fun node =>
      { node with substitutes := node.substitutes ++ [id] }).Covered := by
  refine covered.changeNode head (fun _ => rfl) (fun _ refers => refers)
    (fun _ listed => List.mem_append_left _ listed) (fun _ => .inl) fun other member => ?_
  rcases List.mem_append.mp member with before | last
  · exact .inl before
  · exact .inr (List.mem_singleton.mp last ▸ covers)

theorem enter (covered : model.Covered) (lodged : model.Lodged id) {target : NodeId}
    (refers : (model.node id).referent = some target) {scope : ScopeId}
    (own : (model.node id).scope = scope) (kind : Symbols) (name : QName) (occurs : Occurs) :
    (model.define scope kind name target occurs).Covered := by
  subst own
  -- the entry goes into the scope around the tag, which belongs to the same namespace
  obtain ⟨outer, around, home⟩ := lodged.around
  obtain ⟨user, known, -⟩ := lodged.user
  have surrounding : model.scopes.surrounding (model.node id).scope = outer := by
    simp [Scopes.surrounding, around]
  have within := Scopes.within_of_home (home.trans known)
  refine covered.withScopes (Scopes.size_changeTable ..)
    (fun other => Scopes.keeps_change Scope.frame model.scopes _ other fun _ => rfl) ?_
  unfold Scopes.define
  rw [surrounding]
  refine covered.entries.add within kind name ?_
  unfold Stocks
  rw [home]
  exact .single (.refers refers)

end Covered

end Model

structure Inquiry.Covered (start : Model) (id : NodeId) (inquiry : Inquiry) : Prop where
  model : inquiry.model.Covered
  cites : start.Cites inquiry.model
  found : ∀ {kind : Symbols} {name : QName} {target : NodeId},
    (kind, .found name target) ∈ inquiry.found ->
      inquiry.model.Covers (inquiry.model.home id) target

namespace Inquiry

variable {start : Model} {id : NodeId} {one two : Inquiry}

theorem Covered.leads (covered : one.Covered start id) (first : start.Covered) {target : NodeId}
    (leads : (start.namelessType id).bind TypeRef.target? = some target ∨
      ∃ name, (.types, .found name target) ∈ one.found) :
    one.model.Covers (one.model.home id) target := by
  rcases leads with nameless | ⟨name, there⟩
  · rw [covered.cites.alike.home]
    exact covered.cites.covers (first.admits_namelessType id target nameless)
  · exact covered.found there

theorem Step.covered (step : Step start id one two) (reached : Reached start id one)
    (first : start.Covered) (lodged : start.Lodged id) (filed : start.Filed)
    (tag : start.IsTag id) (fresh : (start.node id).referent = none)
    (covered : one.Covered start id) : two.Covered start id := by
  have alike := reached.alike
  have lodged := lodged.alike alike
  have filed := (reached.filed filed).tables
  have cites := covered.cites.trans (.step step)
  -- what was found earlier can be named still, as nothing that a namespace has taken in is lost
  have before {kind : Symbols} {name : QName} {target : NodeId}
      (there : (kind, .found name target) ∈ one.found) :
      two.model.Covers (two.model.home id) target := by
    rw [step.alike.home]
    exact (Model.Cites.step step).covers (covered.found there)
  have received {kind : Kind} {owner : NodeId} (receives : start.Receives id kind owner) :
      one.model.home owner = one.model.home id := by
    rcases receives with rfl | ⟨-, around⟩
    · rfl
    · rw [← alike.enclosing] at around
      exact lodged.home_owner around
  have offered {type : Option TypeRef} (offers : start.Offers id one.found type) :
      one.model.Admits (one.model.home id) type :=
    fun target leads => covered.leads first (offers.leads leads)
  cases step with
  | follow model found kind written =>
      refine ⟨?_, cites, fun member => ?_⟩
      · dsimp only
        exact covered.model.follow id kind written
      · rcases List.mem_append.mp member with earlier | last
        · exact before earlier
        · obtain ⟨rfl, same⟩ := Prod.mk.inj (List.mem_singleton.mp last)
          dsimp only
          rw [(Model.Noted.follow model id _ written).alike.home]
          exact lodged.covers_follow filed same.symm
  | @member model found kind name target there _ _ _ same =>
      have told := Model.Alike.changeNode model id
        (f := fun node => { node with referent := some target }) fun _ => rfl
      have refers := covered.model.setReferent (same.trans fresh) (covered.found there)
      refine ⟨refers.enter (lodged.alike told) ?_ ?_ .., cites, before⟩
      · exact Model.referent_changeNode ((alike.isTag id).mpr tag) target
      · exact Model.keeps_changeNode Node.scope model id id fun _ => rfl
  | group there _ _ same =>
      refine ⟨?_, cites, before⟩
      dsimp only
      exact covered.model.setReferent (same.trans fresh) (covered.found there)
  | type receives offers =>
      refine ⟨covered.model.setType _ ?_, cites, before⟩
      rw [received receives]
      exact offered offers
  | members receives offers =>
      refine ⟨covered.model.setMemberTypes _ fun type member => ?_, cites, before⟩
      rw [received receives]
      rcases offers type member with own | offers
      · rw [alike.home]
        exact (first.memberTypes id type own).cites covered.cites
      · exact offered offers
  | head there =>
      refine ⟨?_, cites, before⟩
      dsimp only
      exact covered.model.addSubstitute (covered.found there)

end Inquiry

namespace Model

variable {old new model : Model} {id : NodeId}

theorem Fits.copies {remainder : Remainder} (fits : model.Fits id remainder)
    {kinds : List Symbols} {factor : Occurs} {source : NodeId}
    (copies : remainder.copies? model id = some (kinds, factor, source)) :
    kinds.Nodup ∧ (source = id ∨ (model.node id).kind.isGroup = true ∧
      (model.node id).referent = some source ∧ (model.node source).kind = (model.node id).kind) := by
  cases remainder <;> cases copies
  case own => exact ⟨Node.nodup_of_body fits, .inl rfl⟩
  case body =>
    obtain ⟨refers, same, kind⟩ := fits
    have isGroup : (model.node id).kind.isGroup = true := by
      rcases kind with ⟨is, -⟩ | ⟨is, -⟩ <;> rw [is] <;> rfl
    exact ⟨List.nodup_singleton _, .inr ⟨isGroup, refers, same⟩⟩
  case derivation => exact ⟨by decide, .inl rfl⟩
  case inheritance => exact ⟨by decide, .inl rfl⟩

namespace Covered

theorem prepare (covered : model.Covered) (lodged : model.Lodged id) (filed : model.Filed)
    (tag : model.IsTag id) (fresh : (model.node id).referent = none) :
    (model.prepare id).1.Covered ∧ ∀ target, (model.prepare id).2.target? = some target ->
      (model.prepare id).1.Covers (model.home id) target := by
  obtain ⟨found, reached, leaves⟩ := Inquiry.Reached.prepare model id
  have followed : Inquiry.Covered model id ⟨(model.prepare id).1, found⟩ :=
    reached.keeps ⟨covered, .refl model, nofun⟩ fun reached step before =>
      step.covered reached covered lodged filed tag fresh before
  refine ⟨followed.model, fun target there => ?_⟩
  have covers := followed.leads covered (leaves.leads there)
  rwa [reached.alike.home] at covers

theorem inlineEach (covered : model.Covered) {target source : ScopeId}
    (within : target.index < model.scopes.size) {kinds : List Symbols} (nodup : kinds.Nodup) (factor : Occurs) {inherited : Bool}
    (copied : ∀ before leads, model.Stocks source before leads ->
      model.Stocks target (inherited || before) leads) :
    Model.Covered
      { model with scopes := model.scopes.inlineEach kinds target factor source inherited } :=
  covered.withScopes (Scopes.size_inlineEach ..)
    (Scopes.keeps_inlineEach Scope.frame (fun _ _ => rfl) _ _ _ _ _ _)
    (covered.entries.inlineEach within nodup factor copied)

theorem passOn (covered : model.Covered) (lodged : model.Lodged id) {outer source : ScopeId}
    (around : (model.scopes.get (model.node id).scope).parent = some outer)
    {kinds : List Symbols} (nodup : kinds.Nodup) (factor : Occurs)
    (untyped : model.Untyped source)
    (drawn : Relation.ReflTransGen model.Draws (model.home id) (model.scopes.get source).home) :
    Model.Covered
      { model with scopes := model.scopes.inlineEach kinds outer factor source false } := by
  obtain ⟨scope, there, home⟩ := lodged.around
  obtain ⟨user, known, -⟩ := lodged.user
  cases there.symm.trans around
  refine covered.inlineEach (Scopes.within_of_home (home.trans known)) nodup factor ?_
  intro before leads stocks
  cases before with
  | true =>
      -- only the body of a type holds anything inherited, and that is not passed on
      obtain ⟨type, tag, isType, same⟩ := stocks
      exact absurd same (untyped type tag isType)
  | false =>
      unfold Stocks at stocks
      simp only [Bool.or_self, Stocks, home]
      exact drawn.trans stocks

theorem markWildcard (covered : model.Covered) (id : NodeId) {mark : Node -> Node}
    (keeps : ∀ node, (mark node).declared = node.declared)
    (targets : ∀ node, (mark node).referent = node.referent ∧ (mark node).types = node.types ∧
      (mark node).substitutes = node.substitutes) : (model.markWildcard id mark).Covered := by
  unfold Model.markWildcard
  split
  · exact covered.noted _ keeps targets
  · exact covered

theorem finish (covered : model.Covered) (lodged : model.Lodged id) (shaped : model.Shaped)
    (tag : model.IsTag id) {remainder : Remainder}
    (fits : model.Fits id remainder)
    (covers : ∀ target, remainder.target? = some target -> model.Covers (model.home id) target)
    (complete : Bool) : (model.finish id remainder complete).Covered := by
  refine (Remainder.Steps.finish model id remainder complete).keeps (P := Model.Covered) covered ?_
  intro one two steps step before
  have alike := steps.alike
  have lodged := lodged.alike alike
  have widens : model.Widens one := steps.keeps (P := model.Widens) (.refl model)
    fun _ step before => before.trans (.step step)
  cases step with
  | @copy outer kinds factor source around copies =>
      obtain ⟨nodup, passes⟩ := fits.copies copies
      rw [← alike.scope]
      rw [← alike.parentScope, ← alike.scope] at around
      rcases passes with rfl | ⟨isGroup, refers, same⟩
      · exact before.passOn lodged around nodup factor lodged.untyped .refl
      · -- what is copied is the body of a group, and not that of a type
        obtain ⟨there, plain, other⟩ := Passes.plain (.inr ⟨isGroup, refers, same⟩) shaped tag
        rw [← alike.isTag] at there
        rw [← alike.kind] at plain other
        have drawn := Relation.ReflTransGen.single (widens.draws (.refers refers))
        rw [← alike.home, ← alike.home] at drawn
        exact before.passOn lodged around nodup factor
          ((alike.shaped shaped).untyped there plain other) drawn
  | @inherit owner target around heir =>
      rw [← alike.enclosing] at around
      obtain ⟨tag, home⟩ := lodged.owners owner around
      obtain ⟨user, known, -⟩ := lodged.user
      have within := Scopes.within_of_home (home.trans known)
      -- what is inherited may come from anywhere, as long as it is in the body of a type
      rw [← alike.scope]
      exact before.inlineEach within (by decide) .once fun _ _ _ =>
        ⟨owner, tag, (enclosing_spec around).2, rfl⟩
  | @base owner base how around given =>
      rw [← alike.enclosing] at around
      refine before.setBase owner how fun target leads => ?_
      rw [lodged.home_owner around, alike.home]
      exact widens.covers (covers target ((Remainder.target?_of_base given).trans leads))
  | report name =>
      have cites : one.Cites (one.circular id name) :=
        ⟨(Noted.circular one id name).alike, fun _ _ listed => listed⟩
      exact before.congr cites rfl rfl
  | content => exact before.markWildcard id (fun _ => rfl) fun _ => ⟨rfl, rfl, rfl⟩
  | attributes => exact before.markWildcard id (fun _ => rfl) fun _ => ⟨rfl, rfl, rfl⟩

theorem mark (covered : model.Covered) (status : Task.Status) (task : TaskId) :
    (model.mark status task).Covered :=
  covered.congr ⟨.mark model status task, fun _ _ listed => listed⟩ rfl rfl

theorem complete (covered : model.Covered) (task : TaskId) (id : NodeId) :
    (model.complete task id).Covered := by
  have marked := covered.mark .done task
  have noted : Model.Covered ((model.mark .done task).changeNode id fun node =>
      { node with isResolved := true }) :=
    marked.noted id (fun _ => rfl) fun _ => ⟨rfl, rfl, rfl⟩
  exact noted.congr ⟨⟨rfl, fun _ => rfl, rfl, fun _ => rfl, fun rooted => rooted, .refl _, rfl, rfl,
    fun _ => rfl, fun _ => rfl⟩, fun _ _ listed => listed⟩ rfl rfl

end Covered

end Model

namespace Pass

structure Covered (pass : Pass) : Prop where
  model : pass.model.Covered
  calls : ∀ call ∈ pass.calls, ∀ target, call.remainder.target? = some target ->
    pass.model.Covers (pass.model.home call.node) target

section

variable {start : Model} {pass next : Pass}

theorem Covered.leave {model : Model} {todo : List TaskId} {call : Call} {outer : List Call}
    (covered : Covered ⟨model, todo, call :: outer⟩) (poised : start.Poised)
    (scheduled : Scheduled start ⟨model, todo, call :: outer⟩)
    (lodged : ∀ id, start.IsTag id -> (start.node id).kind.isDeferred = true -> start.Lodged id)
    (complete : Bool) : (leave model call outer complete).Covered := by
  obtain ⟨tag, deferred⟩ := scheduled.deferred_call poised.gathered List.mem_cons_self
  have alike := scheduled.alike
  have leaves := scheduled.alike_leave poised.gathered complete
  have cites : model.Cites (Pass.leave model call outer complete).model := by
    refine ⟨leaves, fun id used listed => ?_⟩
    have same : (Pass.leave model call outer complete).model.namespaces = model.namespaces :=
      Model.namespaces_finish model call.node call.remainder complete
    rw [same]
    exact listed
  constructor
  · -- what the call was going to record is covered, so recording it keeps the model covered
    refine (covered.model.finish ((lodged call.node tag deferred).alike alike)
      (alike.shaped poised.gathered.shaped) ((alike.isTag _).mpr tag)
      (scheduled.fits call List.mem_cons_self) (covered.calls call List.mem_cons_self)
      complete).complete call.task call.node
  · intro other member target leads
    rw [leaves.home]
    exact cites.covers (covered.calls other (List.mem_cons_of_mem _ member) target leads)

theorem Step.covered (step : Step pass next) (poised : start.Poised)
    (scheduled : Scheduled start pass)
    (lodged : ∀ id, start.IsTag id -> (start.node id).kind.isDeferred = true -> start.Lodged id)
    (covered : pass.Covered) : next.Covered := by
  cases step with
  | skip => exact ⟨covered.model, covered.calls⟩
  | ignore => exact ⟨covered.model, covered.calls⟩
  | leave => exact covered.leave poised scheduled lodged true
  | circle => exact covered.leave poised scheduled lodged false
  | enter model task rest calls waits =>
      obtain ⟨tag, deferred⟩ := scheduled.deferred_task poised.gathered waits
      have prepared := scheduled.prepared poised.gathered waits
      have marked := Model.Alike.mark model .running task
      have alike := scheduled.alike.trans marked
      have fresh := scheduled.fresh task waits
      rw [← scheduled.alike.task] at fresh
      obtain ⟨named, leads⟩ := (covered.model.mark .running task).prepare
        ((lodged _ tag deferred).alike alike) scheduled.filed ((alike.isTag _).mpr tag) fresh
      have cites := Model.Cites.prepare (model.mark .running task) (model.queue.get task).node
      -- the new call's target has just been looked up; for the older ones references only grow
      refine ⟨named, fun call member target there => ?_⟩
      rw [Pass.enter, prepared.alike.home]
      rcases List.mem_cons.mp member with rfl | older
      · exact leads target there
      · exact cites.covers (covered.calls call older target there)

theorem Reaches.covered (reaches : Reaches pass next) (poised : start.Poised)
    (scheduled : Scheduled start pass)
    (lodged : ∀ id, start.IsTag id -> (start.node id).kind.isDeferred = true -> start.Lodged id)
    (covered : pass.Covered) : next.Covered := by
  induction reaches with
  | refl => exact covered
  | tail before step ih =>
      -- that the pass is still on schedule carries the step
      exact step.covered poised (Reaches.scheduled before poised scheduled) lodged ih

end

end Pass

namespace Model

section

variable {model : Model} {id : NodeId} (gathered : model.Gathered) (allotted : model.Allotted)
  (sourced : ∀ id, model.IsTag id -> (model.node id).source ≠ none)

include allotted sourced

theorem home_of_tag (tag : model.IsTag id) (plain : (model.node id).kind ≠ .schema) :
    ∃ source, (model.node id).source = some source ∧
      model.home id = some (model.source source).target ∧
      (model.scopes.get (model.scopes.surrounding (model.node id).scope)).home =
        some (model.source source).target := by
  obtain ⟨source, own⟩ := Option.ne_none_iff_exists'.mp (sourced id tag)
  exact ⟨source, own, allotted.homes id source own fun refused => plain refused.1,
    (allotted.around id source own plain).2⟩

include gathered

theorem home_of_parent {parent : NodeId} (inside : (model.node id).parent = some parent) :
    model.home parent = model.home id := by
  have shaped := gathered.shaped
  have stands := shaped.standsIn inside
  have plain : (model.node id).kind ≠ .schema := by
    intro schema
    exact Kind.not_holds_schema _ (schema ▸ stands.holds)
  obtain ⟨source, -, home, around⟩ :=
    home_of_tag allotted sourced (shaped.tag_of_parent inside) plain
  rw [shaped.surrounding_eq inside] at around
  exact around.trans home.symm

theorem lodged_of_deferred (tag : model.IsTag id)
    (deferred : (model.node id).kind.isDeferred = true) : model.Lodged id := by
  have shaped := gathered.shaped
  have plain : (model.node id).kind ≠ .schema := by
    intro schema
    rw [schema] at deferred
    cases deferred
  obtain ⟨source, own, home, -⟩ := home_of_tag allotted sourced tag plain
  obtain ⟨parent, stands, inside⟩ := shaped.parent_of_kind tag plain
  refine ⟨⟨_, home, allotted.targets source (allotted.sources id source own)⟩,
    ⟨_, stands.scope, home_of_parent gathered allotted sourced inside⟩, fun owner around => ?_,
    shaped.untyped tag plain (Kind.isType_of_isDeferred deferred)⟩
  -- the type around is a tag of the same source
  obtain ⟨above, isType⟩ := enclosing_spec around
  obtain ⟨outer, same⟩ := shaped.of_mem_ancestors above
  have typed : (model.node owner).kind ≠ .schema := by
    intro schema
    rw [schema] at isType
    cases isType
  obtain ⟨shared, owned, there, -⟩ := home_of_tag allotted sourced outer typed
  cases owned.symm.trans (same.trans own)
  exact ⟨outer, there.trans home.symm⟩

theorem covered_of_gathered (primitive : model.Primitive) (inner : model.Inner) :
    model.Covered := by
  have shaped := gathered.shaped
  -- before anything is looked up, a tag leads to what stands in it, which is of its namespace
  have inside {id target : NodeId} (member : target ∈ (model.node id).targets) :
      model.home id = model.home target :=
    home_of_parent gathered allotted sourced (inner.targets id target member)
  constructor
  case leads =>
    intro id target member
    refine .inl (inside ?_).symm
    unfold Node.targets
    rcases List.mem_append.mp member with refers | typed
    · exact List.mem_append_left _ (List.mem_append_left _ refers)
    · exact List.mem_append_right _ typed
  case heads =>
    intro head id member
    exact .inl (inside (List.mem_append_left _ (List.mem_append_right _ member)))
  case markers =>
    intro scope target marked
    obtain ⟨isType, around⟩ := inner.markers scope target marked
    have tag : model.IsTag target := by
      constructor
      · refine Nat.not_lt.mp fun below => ?_
        have same : (model.node target).scope = Builtin.scope :=
          (congrArg Node.scope (shaped.primitive target below).1 :)
        rw [same, shaped.outermost] at around
        cases around
      · refine Nat.not_le.mp fun outside => ?_
        rw [node_of_size_le model outside] at isType
        cases isType
    have plain : (model.node target).kind ≠ .schema := by
      intro schema
      rw [schema] at isType
      cases isType
    obtain ⟨source, -, home, outer⟩ := home_of_tag allotted sourced tag plain
    have surrounding : model.scopes.surrounding (model.node target).scope = scope := by
      simp [Scopes.surrounding, around]
    rw [surrounding] at outer
    exact home.trans outer.symm
  case entries =>
    intro scope kind name definition found
    rw [gathered.unworked.declared scope kind name definition found]
    suffices same : (model.scopes.get scope).home = model.home definition.target by
      unfold Stocks
      rw [same]
    -- entries are those of built-in types, or of tags that stand in the scope
    by_cases builtin : scope = Builtin.scope ∧ kind = .types
    next =>
      obtain ⟨rfl, rfl⟩ := builtin
      rw [primitive.types] at found
      obtain ⟨-, localName, listed, -⟩ := Builtin.target_of_table found
      have below : definition.target.index < Builtin.nodes.length := by
        rw [Builtin.length_nodes]
        exact (List.getElem?_eq_some_iff.mp listed).1
      have same : (model.node definition.target).scope = Builtin.scope :=
        (congrArg Node.scope (shaped.primitive definition.target below).1 :)
      unfold home
      rw [same]
    next =>
      obtain ⟨parent, stands, rfl⟩ :=
        gathered.homed scope kind name definition (not_and_or.mp builtin) found
      exact home_of_parent gathered allotted sourced stands

end

end Model

namespace Compilation

theorem covered_resolve {options : Options} {fetch : Fetch} {url : Url} {read : Compilation}
    (gathered : gather options fetch url = .ok read) : read.resolve.model.Covered := by
  have changes := (gather_arrives gathered).changes
  have sound := sound_gather gathered
  have sourced := changes.owned.tags
  have covered := Model.covered_of_gathered sound.gathered changes.allotted sourced
    (Model.primitive_empty.spared changes.spares) changes.inner
  exact (read.resolve_reaches.covered sound.poised sound.scheduled
    (fun _ => Model.lodged_of_deferred sound.gathered changes.allotted sourced)
    ⟨covered, nofun⟩).model

end Compilation

end XmlSchema

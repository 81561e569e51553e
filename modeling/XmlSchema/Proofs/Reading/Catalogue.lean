import Mathlib.Data.List.Induction
import XmlSchema.Proofs.Reading.Allotment

set_option autoImplicit false

namespace XmlSchema

namespace Table

variable {κ α : Type} [DecidableEq κ]

theorem find_append (key : κ) (one two : List (κ × α)) :
    find key (one ++ two) = (find key one).or (find key two) := by
  induction one with
  | nil => rfl
  | cons entry rest ih =>
    by_cases same : entry.1 = key <;> simp [find, same, ih]

end Table

namespace SymbolTable

theorem addAll_concat (table : SymbolTable) (entries : List (QName × Definition))
    (entry : QName × Definition) :
    table.addAll (entries ++ [entry]) = (table.addAll entries).add entry.1 entry.2 := by
  simp [addAll]

theorem keys_addAll (entries : List (QName × Definition)) :
    (addAll .empty entries).keys = (entries.map (·.1)).eraseDups := by
  induction entries using List.reverseRecOn with
  | nil => rfl
  | append_singleton entries entry ih =>
    have member : (addAll .empty entries).contains entry.1 = true ↔
        entry.1 ∈ entries.map (·.1) := by
      rw [Table.contains_iff, ih, List.mem_eraseDups]
    rw [addAll_concat, add, Table.keys_put, ih, List.map_append, List.eraseDups_append]
    -- a name that is there is entered in its old place, and `eraseDups` drops it at the end
    by_cases there : entry.1 ∈ entries.map (·.1)
    next =>
      rw [if_pos (member.mpr there)]
      simp [List.removeAll, there]
    next =>
      rw [if_neg (member.not.mpr there)]
      simp [List.removeAll, there, List.eraseDups_cons]

theorem get?_addAll_empty {entries : List (QName × Definition)}
    (plain : ∀ entry ∈ entries, entry.2.inherited = false) (name : QName) :
    ((addAll .empty entries).get? name).map (fun definition =>
        (definition.target, definition.inherited)) =
      (Table.find name entries).map fun definition => (definition.target, false) := by
  induction entries using List.reverseRecOn with
  | nil => rfl
  | append_singleton entries entry ih =>
    have before := ih fun other member => plain other (List.mem_append_left _ member)
    have own : entry.2.inherited = false := plain entry (by simp)
    rw [addAll_concat, Table.find_append]
    by_cases same : name = entry.1
    next =>
      subst same
      rw [add, Table.get?_put_self]
      -- two entries of one name add up their bounds, and the target of the first one stays
      cases there : (addAll .empty entries).get? entry.1 with
      | none =>
        rw [there] at before
        have absent : Table.find entry.1 entries = none :=
          Option.map_eq_none_iff.mp before.symm
        simp [Definition.merge, absent, Table.find, own]
      | some first =>
        rw [there] at before
        obtain ⟨origin, found, kept⟩ := Option.map_eq_some_iff.mp before.symm
        obtain ⟨target, inherited⟩ := Prod.mk.inj kept
        simp [Definition.merge, found, own, ← inherited, target]
    next =>
      rw [add, Table.get?_put_of_ne _ _ same, before]
      simp [Table.find, Ne.symm same]

end SymbolTable

namespace Node

def sign (node : Node) : Node :=
  { Node.fresh node.kind node.scope with name := node.name, occurs := node.occurs }

end Node

structure Namespaces.Seated (namespaces : Namespaces) (scopes : Scopes) : Prop where
  rooted : namespaces.Rooted scopes
  homeless : (scopes.get Builtin.scope).home = none
  root : ∀ scope home, (scopes.get scope).parent = some Builtin.scope ->
    (scopes.get scope).home = some home ->
      home.index < namespaces.size ∧ scope = (namespaces.get home).root

namespace Namespaces.Seated

variable {namespaces other : Namespaces} {scopes new : Scopes}

theorem congr (seated : namespaces.Seated scopes) (rooted : other.Rooted new)
    (size : other.size = namespaces.size)
    (root : ∀ id, (other.get id).root = (namespaces.get id).root)
    (parent : ∀ id, (new.get id).parent = (scopes.get id).parent)
    (home : ∀ id, (new.get id).home = (scopes.get id).home) : other.Seated new where
  rooted := rooted
  homeless := (home _).trans seated.homeless
  root scope id around belongs := by
    rw [parent] at around
    rw [home] at belongs
    rw [size, root]
    exact seated.root scope id around belongs

theorem createChild (seated : namespaces.Seated scopes) (floor : Builtin.scope.index < scopes.size)
    (outer : ScopeId) : namespaces.Seated (scopes.createChild outer) where
  rooted := by
    refine seated.rooted.grow (by simp [Scopes.createChild]) fun id inside => ?_
    exact Scopes.parent_create_of_lt _ _ _ inside
  homeless := by
    rw [Scopes.createChild, Scopes.get_create, if_neg]
    · exact seated.homeless
    · intro same
      exact Nat.lt_irrefl _ (same ▸ floor)
  root scope home around belongs := by
    rw [Scopes.createChild, Scopes.get_create] at around belongs
    split at around
    next last =>
      -- the new scope takes its home from the one around it, where built-in types have none
      rw [if_pos last] at belongs
      obtain rfl : outer = Builtin.scope := Option.some.inj around
      cases seated.homeless.symm.trans belongs
    next earlier =>
      rw [if_neg earlier] at belongs
      exact seated.root scope home around belongs

theorem push (seated : namespaces.Seated scopes) (floor : Builtin.scope.index < scopes.size) :
    ({ namespaces with all := namespaces.all.push (.fresh scopes.next) } : Namespaces).Seated
      (scopes.create (some namespaces.builtins) (some ⟨namespaces.size⟩)) where
  rooted := seated.rooted.push _
  homeless := by
    rw [Scopes.get_create, if_neg]
    · exact seated.homeless
    · intro same
      exact Nat.lt_irrefl _ (same ▸ floor)
  root scope home around belongs := by
    have size : ({ namespaces with all := namespaces.all.push (.fresh scopes.next) } :
        Namespaces).size = namespaces.size + 1 := Array.size_push ..
    rw [Scopes.get_create] at around belongs
    rw [size, get_push]
    split at around
    next last =>
      rw [if_pos last] at belongs
      obtain rfl : (⟨namespaces.size⟩ : NamespaceId) = home := Option.some.inj belongs
      rw [if_pos rfl]
      exact ⟨Nat.lt_succ_self _, last⟩
    next earlier =>
      rw [if_neg earlier] at belongs
      obtain ⟨within, root⟩ := seated.root scope home around belongs
      rw [if_neg (Nat.ne_of_lt within)]
      exact ⟨Nat.lt_succ_of_lt within, root⟩

theorem register (seated : namespaces.Seated scopes) (floor : Builtin.scope.index < scopes.size)
    (name url short : Option String) :
    (namespaces.register scopes name url short).namespaces.Seated
      (namespaces.register scopes name url short).scopes := by
  have rooted := seated.rooted.register name url short
  rcases namespaces.register_cases scopes name url short with ⟨id, -, same⟩ | ⟨-, same⟩ <;>
    rw [same] at rooted ⊢
  · exact seated.congr rooted (size_describe ..)
      (fun other => keeps_describe Namespace.root (fun _ _ _ _ => rfl) namespaces _ other ..)
      (fun _ => rfl) fun _ => rfl
  · exact (seated.push floor).congr rooted (size_describe ..)
      (fun other => keeps_describe Namespace.root (fun _ _ _ _ => rfl) _ _ other ..)
      (fun _ => rfl) fun _ => rfl

end Namespaces.Seated

namespace Model

def declaration? (model : Model) (scope : ScopeId) (kind : Symbols) (id : NodeId) :
    Option (QName × Definition) :=
  let node := model.node id
  if model.scopes.surrounding node.scope = scope ∧ node.kind.symbols? = some kind then
    node.name.map fun name => (name, ⟨id, node.occurs, false⟩)
  else none

def declarations (model : Model) (scope : ScopeId) (kind : Symbols) : List (QName × Definition) :=
  (List.range model.nodes.size).filterMap fun index => model.declaration? scope kind ⟨index⟩

structure Catalogued (model : Model) : Prop where
  seated : model.namespaces.Seated model.scopes
  floor : Builtin.scope.index < model.scopes.size
  builtins : Builtin.nodes.length ≤ model.nodes.size
  held : ∀ id, id.index < model.nodes.size -> (model.node id).scope.index < model.scopes.size
  tables : ∀ scope, scope ≠ Builtin.scope -> ∀ kind,
    model.scopes.table scope kind = SymbolTable.addAll .empty (model.declarations scope kind)

section

variable {old new : Model}

theorem declaration?_congr {id : NodeId} (sign : (new.node id).sign = (old.node id).sign)
    (around : new.scopes.surrounding (old.node id).scope =
      old.scopes.surrounding (old.node id).scope) (scope : ScopeId) (kind : Symbols) :
    new.declaration? scope kind id = old.declaration? scope kind id := by
  have same : (new.node id).kind = (old.node id).kind := (congrArg Node.kind sign :)
  have place : (new.node id).scope = (old.node id).scope := (congrArg Node.scope sign :)
  have name : (new.node id).name = (old.node id).name := (congrArg Node.name sign :)
  have occurs : (new.node id).occurs = (old.node id).occurs := (congrArg Node.occurs sign :)
  simp only [declaration?, same, place, around, name, occurs]

theorem declarations_congr (size : new.nodes.size = old.nodes.size) {scope : ScopeId}
    {kind : Symbols} (same : ∀ id : NodeId, id.index < old.nodes.size ->
      new.declaration? scope kind id = old.declaration? scope kind id) :
    new.declarations scope kind = old.declarations scope kind := by
  unfold declarations
  rw [size]
  exact List.filterMap_congr fun index member => same ⟨index⟩ (List.mem_range.mp member)

theorem declarations_succ {size : Nat} (grown : new.nodes.size = size + 1) (scope : ScopeId)
    (kind : Symbols) :
    new.declarations scope kind =
      ((List.range size).filterMap fun index => new.declaration? scope kind ⟨index⟩) ++
        (new.declaration? scope kind ⟨size⟩).toList := by
  unfold declarations
  rw [grown, List.range_succ, List.filterMap_append, List.filterMap_cons]
  cases new.declaration? scope kind ⟨size⟩ <;> rfl

namespace Catalogued

theorem grown (catalogued : old.Catalogued) (seated : new.namespaces.Seated new.scopes)
    (size : new.nodes.size = old.nodes.size)
    (sign : ∀ id, (new.node id).sign = (old.node id).sign)
    (scopes : old.scopes.size ≤ new.scopes.size)
    (parent : ∀ id, id.index < old.scopes.size ->
      (new.scopes.get id).parent = (old.scopes.get id).parent)
    (table : ∀ scope kind, new.scopes.table scope kind = old.scopes.table scope kind) :
    new.Catalogued where
  seated := seated
  floor := Nat.lt_of_lt_of_le catalogued.floor scopes
  builtins := size ▸ catalogued.builtins
  held id inside := by
    have place : (new.node id).scope = (old.node id).scope := (congrArg Node.scope (sign id) :)
    rw [place]
    exact Nat.lt_of_lt_of_le (catalogued.held id (size ▸ inside)) scopes
  tables scope apart kind := by
    rw [table, catalogued.tables scope apart, declarations_congr size fun id inside => ?_]
    refine declaration?_congr (sign id) ?_ scope kind
    rw [Scopes.surrounding, parent _ (catalogued.held id inside), ← Scopes.surrounding]

theorem signed (catalogued : old.Catalogued) (scopes : new.scopes = old.scopes)
    (seated : new.namespaces.Seated old.scopes) (size : new.nodes.size = old.nodes.size)
    (sign : ∀ id, (new.node id).sign = (old.node id).sign) : new.Catalogued :=
  catalogued.grown (scopes ▸ seated) size sign (scopes ▸ Nat.le_refl _) (fun _ _ => by rw [scopes])
    fun _ _ => by rw [scopes]

theorem changeNode (catalogued : old.Catalogued) (id : NodeId) {f : Node -> Node}
    (keeps : ∀ node, (f node).sign = node.sign) : (old.changeNode id f).Catalogued :=
  catalogued.signed rfl catalogued.seated (size_changeNode ..)
    fun other => keeps_changeNode Node.sign old id other keeps

theorem setType (catalogued : old.Catalogued) (scope : ScopeId) (id : NodeId) :
    Catalogued { old with scopes := old.scopes.setType scope id } := by
  have parent (other : ScopeId) := old.scopes.parent_setType scope other id
  refine catalogued.grown ?_ rfl (fun _ => rfl) (by simp) (fun other _ => parent other)
    fun other kind => Scopes.table_setType ..
  refine catalogued.seated.congr ?_ rfl (fun _ => rfl) parent fun other =>
    Scopes.keeps_change Scope.home old.scopes scope other fun _ => rfl
  exact catalogued.seated.rooted.grow (by simp) fun other _ => parent other

theorem createChild (catalogued : old.Catalogued) (outer : ScopeId) (skipped : Array Skipped) :
    Catalogued { old with scopes := old.scopes.createChild outer, skipped := skipped } :=
  catalogued.grown (catalogued.seated.createChild catalogued.floor outer) rfl (fun _ => rfl)
    (by simp [Scopes.createChild]) (fun _ inside => Scopes.parent_create_of_lt _ _ _ inside)
    fun _ _ => Scopes.table_create ..

theorem register (catalogued : old.Catalogued) (name url short : Option String) :
    (old.register name url short).1.Catalogued := by
  have seated := catalogued.seated.register catalogued.floor name url short
  rcases catalogued.seated.rooted.scopes_register name url short with same | ⟨home, same⟩
  next => exact catalogued.signed same (same ▸ seated) rfl fun _ => rfl
  next =>
    have scopes : (old.register name url short).1.scopes =
        old.scopes.create (some Builtin.scope) home := same
    refine catalogued.grown seated rfl (fun _ => rfl) ?_ (fun id inside => ?_) fun scope kind => ?_
    · simp [scopes]
    · rw [scopes]
      exact Scopes.parent_create_of_lt _ _ _ inside
    · rw [scopes]
      exact Scopes.table_create ..

theorem addNode (catalogued : old.Catalogued) {node : Node} (unnamed : node.name = none)
    (held : node.scope.index < old.scopes.size) : (old.addNode node).Catalogued where
  seated := catalogued.seated
  floor := catalogued.floor
  builtins := by
    rw [size_addNode]
    exact Nat.le_succ_of_le catalogued.builtins
  held id inside := by
    rw [node_addNode]
    split
    next => exact held
    next earlier =>
      rw [size_addNode] at inside
      have apart : id.index ≠ old.nodes.size := fun same => earlier (congrArg NodeId.mk same)
      exact catalogued.held id (by omega)
  tables scope apart kind := by
    have last : (old.addNode node).node ⟨old.nodes.size⟩ = node := node_addNode_next old node
    have none_ : (old.addNode node).declaration? scope kind ⟨old.nodes.size⟩ = none := by
      simp [declaration?, last, unnamed]
    have before (index : Nat) (inside : index < old.nodes.size) :
        (old.addNode node).declaration? scope kind ⟨index⟩ =
          old.declaration? scope kind ⟨index⟩ :=
      declaration?_congr (congrArg Node.sign (node_addNode_of_lt old node inside)) rfl scope kind
    rw [declarations_succ (size_addNode ..), none_, Option.toList_none, List.append_nil,
      List.filterMap_congr fun index member => before index (List.mem_range.mp member)]
    exact catalogued.tables scope apart kind

theorem assign (catalogued : old.Catalogued) {id : NodeId} (kind : (old.node id).kind = .schema)
    {target : NamespaceId} (within : target.index < old.namespaces.size) (source : SourceId) :
    Catalogued (old.changeNode id fun node =>
      { node with source := some source, scope := (old.namespaces.get target).root }) := by
  have look (other : NodeId) := node_changeNode old id other fun node =>
    { node with source := some source, scope := (old.namespaces.get target).root }
  refine ⟨catalogued.seated, catalogued.floor, by simpa using catalogued.builtins,
    fun other inside => ?_, fun scope apart among => ?_⟩
  · rw [look]
    split
    · exact catalogued.seated.rooted.inside target within
    · exact catalogued.held other (by simpa using inside)
  · refine (catalogued.tables scope apart among).trans (congrArg _ ?_)
    refine (declarations_congr (size_changeNode ..) fun other _ => ?_).symm
    unfold declaration?
    dsimp only
    rw [look]
    split
    next here =>
      obtain ⟨rfl, -⟩ := here
      simp [kind, Kind.symbols?]
    next => rfl

theorem setOccurs (catalogued : old.Catalogued) {id : NodeId} (unnamed : (old.node id).name = none)
    (occurs : Occurs) : (old.setOccurs id occurs).Catalogued := by
  have look (other : NodeId) := node_changeNode old id other fun node =>
    { node with occurs := occurs }
  refine ⟨catalogued.seated, catalogued.floor, ?_, fun other inside => ?_,
    fun scope apart among => ?_⟩
  · exact Nat.le_trans catalogued.builtins (Nat.le_of_eq (size_changeNode ..).symm)
  · have place : ((old.setOccurs id occurs).node other).scope = (old.node other).scope :=
      keeps_changeNode Node.scope old id other fun _ => rfl
    rw [place]
    exact catalogued.held other (Nat.lt_of_lt_of_eq inside (size_changeNode ..))
  · refine (catalogued.tables scope apart among).trans (congrArg _ ?_)
    refine (declarations_congr (size_changeNode ..) fun other _ => ?_).symm
    unfold declaration?
    dsimp only
    rw [look]
    split
    next here =>
      obtain ⟨rfl, -⟩ := here
      simp [unnamed]
    next => rfl

theorem enter (catalogued : old.Catalogued) {id : NodeId} (last : id.index + 1 = old.nodes.size)
    (unnamed : (old.node id).name = none) {kind : Symbols}
    (listed : (old.node id).kind.symbols? = some kind)
    (placed : (old.scopes.surrounding (old.node id).scope).index < old.scopes.size)
    (name : QName) : (old.enter id kind name).Catalogued := by
  have look (other : NodeId) : (old.enter id kind name).node other = _ :=
    node_changeNode old id other fun node => { node with name := some name }
  have size : (old.enter id kind name).nodes.size = id.index + 1 :=
    (size_changeNode ..).trans last.symm
  have parent (other : ScopeId) : ((old.enter id kind name).scopes.get other).parent =
      (old.scopes.get other).parent := Scopes.parent_changeTable ..
  have surrounding (other : ScopeId) : (old.enter id kind name).scopes.surrounding other =
      old.scopes.surrounding other := by rw [Scopes.surrounding, parent, ← Scopes.surrounding]
  have scopes : (old.enter id kind name).scopes.size = old.scopes.size :=
    Scopes.size_changeTable ..
  have self : (old.enter id kind name).node id = { old.node id with name := some name } :=
    (look id).trans (if_pos ⟨rfl, by omega⟩)
  have others (other : NodeId) (apart : other ≠ id) :
      (old.enter id kind name).node other = old.node other :=
    (look other).trans (if_neg fun both => apart both.1)
  refine ⟨?_, scopes ▸ catalogued.floor, by have := catalogued.builtins; omega,
    fun other inside => ?_, fun scope apart among => ?_⟩
  · refine catalogued.seated.congr ?_ rfl (fun _ => rfl) parent
      fun other => Scopes.home_changeTable ..
    exact catalogued.seated.rooted.grow (Nat.le_of_eq scopes.symm) fun other _ => parent other
  · have place : ((old.enter id kind name).node other).scope = (old.node other).scope :=
      keeps_changeNode Node.scope old id other fun _ => rfl
    rw [place, scopes]
    exact catalogued.held other (by omega)
  · -- of the declarations there are, only the last one is new
    have before (index : Nat) (inside : index < id.index) :
        (old.enter id kind name).declaration? scope among ⟨index⟩ =
          old.declaration? scope among ⟨index⟩ := by
      refine declaration?_congr (congrArg Node.sign (others _ ?_)) (surrounding _) scope among
      rintro rfl
      exact Nat.lt_irrefl _ inside
    have none_ : old.declaration? scope among ⟨id.index⟩ = none := by
      simp [declaration?, unnamed]
    have table := catalogued.tables scope apart among
    rw [declarations_succ last.symm, none_, Option.toList_none, List.append_nil] at table
    have own : (old.enter id kind name).declaration? scope among ⟨id.index⟩ =
        if old.scopes.surrounding (old.node id).scope = scope ∧ kind = among then
          some (name, ⟨id, (old.node id).occurs, false⟩)
        else none := by
      simp [declaration?, self, surrounding, listed]
    rw [declarations_succ size, own,
      List.filterMap_congr fun index member => before index (List.mem_range.mp member)]
    by_cases here : old.scopes.surrounding (old.node id).scope = scope ∧ kind = among
    next =>
      obtain ⟨rfl, rfl⟩ := here
      rw [if_pos ⟨rfl, rfl⟩, Option.toList_some, SymbolTable.addAll_concat, ← table]
      exact Scopes.table_changeTable_self _ _ _ placed
    next =>
      rw [if_neg here, Option.toList_none, List.append_nil, ← table]
      refine Scopes.table_changeTable_of_ne _ _ ?_
      by_cases there : scope = old.scopes.surrounding (old.node id).scope
      · exact .inr fun same => here ⟨there.symm, same.symm⟩
      · exact .inl there

end Catalogued

end

end Model

namespace Draft

variable {draft old new : Draft} {first : Nat} {id : NodeId}

structure Opening (draft : Draft) (id : NodeId) : Prop where
  last : id.index + 1 = draft.model.nodes.size
  placed : (draft.model.node id).kind ≠ .schema ->
    (draft.model.scopes.surrounding (draft.model.node id).scope).index < draft.model.scopes.size

theorem Opening.mono (opening : old.Opening id) (size : new.model.nodes.size = old.model.nodes.size)
    (kind : (new.model.node id).kind = (old.model.node id).kind)
    (scope : (old.model.node id).kind ≠ .schema ->
      (new.model.node id).scope = (old.model.node id).scope)
    (scopes : old.model.scopes.size ≤ new.model.scopes.size)
    (parent : (old.model.node id).scope.index < old.model.scopes.size ->
      (new.model.scopes.get (old.model.node id).scope).parent =
        (old.model.scopes.get (old.model.node id).scope).parent)
    (held : (old.model.node id).scope.index < old.model.scopes.size) : new.Opening id where
  last := opening.last.trans size.symm
  placed plain := by
    rw [kind] at plain
    rw [scope plain, Scopes.surrounding, parent held, ← Scopes.surrounding]
    exact Nat.lt_of_lt_of_le (opening.placed plain) scopes

theorem Edit.catalogued (edit : Edit first (some id) old new) (opening : old.Opening id)
    (catalogued : old.model.Catalogued) : new.model.Catalogued ∧ new.Opening id := by
  have held := catalogued.held id (opening.last ▸ Nat.lt_succ_self _)
  cases edit with
  | document =>
    exact ⟨catalogued, opening.mono rfl rfl (fun _ => rfl) (Nat.le_refl _) (fun _ => rfl) held⟩
  | noted _ other f keeps =>
    have core := Model.keeps_changeNode Node.core old.model other id keeps
    exact ⟨catalogued.changeNode other fun node => (congrArg Node.sign (keeps node) :),
      opening.mono (Model.size_changeNode ..) (congrArg Node.kind core :)
        (fun _ => (congrArg Node.scope core :)) (Nat.le_refl _) (fun _ => rfl) held⟩
  | registered _ name url short =>
    refine ⟨catalogued.register name url short, ?_⟩
    rcases catalogued.seated.rooted.scopes_register name url short with same | ⟨home, same⟩
    next =>
      refine opening.mono rfl rfl (fun _ => rfl) (Nat.le_of_eq (congrArg Scopes.size same).symm)
        (fun _ => ?_) held
      exact congrArg (fun scopes => (Scopes.get scopes _).parent) same
    next =>
      have scopes : (old.model.register name url short).1.scopes =
          old.model.scopes.create (some Builtin.scope) home := same
      refine opening.mono rfl rfl (fun _ => rfl) ?_ (fun inside => ?_) held
      · simp [scopes]
      · rw [scopes]
        exact Scopes.parent_create_of_lt _ _ _ inside
  | marked _ scope other =>
    exact ⟨catalogued.setType scope other,
      opening.mono rfl rfl (fun _ => rfl) (by simp) (fun _ => Scopes.parent_setType ..) held⟩
  | bounded _ _ occurs _ unnamed =>
    exact ⟨catalogued.setOccurs unnamed occurs, opening.mono (Model.size_changeNode ..)
      (Model.keeps_changeNode Node.kind old.model id id fun _ => rfl)
      (fun _ => Model.keeps_changeNode Node.scope old.model id id fun _ => rfl)
      (Nat.le_refl _) (fun _ => rfl) held⟩
  | named _ _ kind name _ unnamed listed =>
    have plain : (old.model.node id).kind ≠ .schema := by
      intro schema
      rw [schema] at listed
      cases listed
    exact ⟨catalogued.enter opening.last unnamed listed (opening.placed plain) name,
      opening.mono (Model.size_changeNode ..)
        (Model.keeps_changeNode Node.kind old.model id id fun _ => rfl)
        (fun _ => Model.keeps_changeNode Node.scope old.model id id fun _ => rfl)
        (Nat.le_of_eq (Scopes.size_changeTable ..).symm)
        (fun _ => Scopes.parent_changeTable ..) held⟩
  | sourced _ _ target source _ _ kind _ within =>
    have listed : Model.Catalogued { old.model with
        sources := old.model.sources.push source
        namespaces := old.model.namespaces.addSource target ⟨old.model.sources.size⟩ } := by
      refine catalogued.signed rfl ?_ rfl fun _ => rfl
      exact catalogued.seated.congr (catalogued.seated.rooted.change target fun _ => rfl)
        (Namespaces.size_addSource ..)
        (fun other => Namespaces.root_addSource ..)
        (fun _ => rfl) fun _ => rfl
    -- the scope of the tag becomes the root of its namespace; a schema tag itself stands nowhere
    have assigned := listed.assign kind
      (Nat.lt_of_lt_of_eq within (Namespaces.size_addSource ..).symm) ⟨old.model.sources.size⟩
    rw [Namespaces.root_addSource] at assigned
    refine ⟨assigned, opening.last.trans (Model.size_changeNode ..).symm, fun plain => ?_⟩
    refine absurd ?_ plain
    refine (congrArg Node.kind (Model.node_changeNode _ id id _)).trans ?_
    split <;> exact kind

theorem Declares.catalogued (declares : Declares first id old new) (opening : old.Opening id)
    (catalogued : old.model.Catalogued) : new.model.Catalogued := by
  -- an edit is only known to keep the tables right while the tag is the one that opened last
  have both : new.model.Catalogued ∧ new.Opening id := by
    induction declares with
    | refl => exact ⟨catalogued, opening⟩
    | tail _ edit ih => exact edit.catalogued ih.2 ih.1
  exact both.1

theorem Move.catalogued {attempt : Attempt Draft} (move : draft.Move attempt)
    (catalogued : draft.model.Catalogued) : attempt.state.model.Catalogued := by
  cases move with
  | root attributes => exact catalogued
  | still model tasks still =>
    exact catalogued.signed still.scopes (still.namespaces ▸ catalogued.seated) still.size
      fun id => (congrArg Node.sign (still.told id) :)
  | body outer skipped => exact catalogued.createChild outer skipped
  | tag outer node fresh scope source read outermost inside =>
    have created : draft.model.scopes.next.index < (draft.model.scopes.createChild outer).size := by
      simp [Scopes.createChild, Scopes.next]
    have unnamed : node.name = none := (congrArg Node.name fresh).symm
    have added : (draft.withTag outer node).model.Catalogued :=
      (catalogued.createChild outer draft.model.skipped).addNode unnamed (scope ▸ created)
    have self : (draft.withTag outer node).model.node draft.model.nextNode = node :=
      (node_withTag ..).trans (if_pos rfl)
    have size : (draft.withTag outer node).model.nodes.size = draft.model.nodes.size + 1 :=
      Model.size_addNode ..
    -- around the scope of the new tag is that of its parent, which was there before
    have opening : (draft.withTag outer node).Opening draft.model.nextNode := by
      refine ⟨size.symm, fun plain => ?_⟩
      rw [self] at plain ⊢
      obtain ⟨parent, -, there, rfl, -⟩ := inside plain
      have outer := catalogued.held parent there
      have around : ((draft.model.scopes.createChild (draft.model.node parent).scope).get
          node.scope).parent = some (draft.model.node parent).scope := by
        rw [scope, Scopes.createChild]
        exact Scopes.parent_create_next ..
      have surrounding :
          (draft.model.scopes.createChild (draft.model.node parent).scope).surrounding node.scope =
            (draft.model.node parent).scope := by
        rw [Scopes.surrounding, around, Option.getD_some]
      change ((draft.model.scopes.createChild _).surrounding node.scope).index <
        (draft.model.scopes.createChild _).size
      rw [surrounding]
      exact Nat.lt_trans outer created
    have edits : Declares draft.model.nodes.size draft.model.nextNode (draft.withTag outer node)
        ((draft.withTag outer node).declare draft.model.nextNode).state := by
      refine declare_edits added.seated.rooted ⟨⟨catalogued.builtins, ?_⟩, Nat.le_refl _⟩ ?_
        fun none_ => ⟨size, ?_⟩
      · exact Nat.lt_of_lt_of_eq (Nat.lt_succ_self _) size.symm
      · rw [self]
        exact unnamed
      · rw [self]
        exact outermost none_
    exact edits.catalogued opening added

end Draft

namespace Model

theorem catalogued_empty : empty.Catalogued := by
  have seated : (Namespaces.empty Builtin.scope).Seated Builtin.scopes := by
    refine ⟨rooted_builtin, rfl, fun scope home around => ?_⟩
    obtain ⟨index⟩ := scope
    cases index <;> cases around
  have floor : Builtin.scope.index < empty.scopes.size := shaped_empty.floor
  have builtin (id : NodeId) (inside : id.index < empty.nodes.size) :
      (empty.node id).scope = Builtin.scope := by
    rcases node_empty id with ⟨missing, -⟩ | ⟨localName, -, same⟩
    · rw [size_empty, Builtin.length_nodes] at inside
      exact absurd (List.getElem?_eq_none_iff.mp missing) (Nat.not_le.mpr inside)
    · rw [same]
      rfl
  have outermost : empty.scopes.surrounding Builtin.scope = Builtin.scope := by
    rw [Scopes.surrounding, shaped_empty.outermost, Option.getD_none]
  refine ⟨seated.register (by decide) .., floor, Nat.le_of_eq size_empty.symm, fun id inside => ?_,
    fun scope apart kind => ?_⟩
  · rw [builtin id inside]
    exact floor
  · have outside : Builtin.scopes.size ≤ scope.index :=
      Nat.pos_of_ne_zero fun zero => apart (congrArg ScopeId.mk zero)
    have nothing : empty.declarations scope kind = [] := by
      refine List.filterMap_eq_nil_iff.mpr fun index member => ?_
      unfold declaration?
      dsimp only
      rw [builtin _ (List.mem_range.mp member), outermost, if_neg fun here => apart here.1.symm]
    rw [nothing, table_empty_eq, Scopes.table, Scopes.get_of_size_le _ outside]
    cases kind <;> rfl

end Model

namespace Compilation

variable {options : Options} {fetch : Fetch} {old new : Compilation}

theorem Change.catalogued (change : Change options fetch old new)
    (catalogued : old.model.Catalogued) : new.model.Catalogued :=
  change.keeps_model catalogued
    (fun _ _ _ => (Draft.moves_read ..).1.keeps catalogued fun move => move.catalogued)
    fun _ _ read => read.signed rfl read.seated rfl fun _ => rfl

theorem Changes.catalogued (changes : Changes options fetch .empty new) : new.model.Catalogued :=
  changes.keeps Model.catalogued_empty fun change => change.catalogued

end Compilation

end XmlSchema

import XmlSchema.Proofs.Bounded
import XmlSchema.Proofs.Inlining
import XmlSchema.Proofs.Registering

set_option autoImplicit false

namespace XmlSchema

namespace Occurs

def MostLe : Option Count -> Option Count -> Prop
  | _, none => True
  | none, some _ => False
  | some low, some high => low ≤ high

structure Rises (old new : Occurs) : Prop where
  least : old.least ≤ new.least
  most : MostLe old.most new.most

namespace Rises

variable {a b c : Occurs}

theorem refl (a : Occurs) : a.Rises a := by
  refine ⟨Nat.le_refl _, ?_⟩
  cases a.most with
  | none => trivial
  | some most => exact Nat.le_refl most.val

theorem trans (first : a.Rises b) (second : b.Rises c) : a.Rises c := by
  refine ⟨Nat.le_trans first.least second.least, ?_⟩
  have low := first.most
  have high := second.most
  revert low high
  cases a.most <;> cases b.most <;> cases c.most <;>
    simp only [MostLe, false_implies, implies_true]
  exact Nat.le_trans

theorem add (a b : Occurs) : a.Rises (a + b) := by
  have le_add (low high : Count) : low ≤ low + high := by
    have bounded := low.le_top
    simp only [Count.le_iff, Count.val_add]
    omega
  refine ⟨le_add a.least b.least, ?_⟩
  rw [most_add]
  cases a.most with
  | none => trivial
  | some low =>
    cases b.most with
    | none => trivial
    | some high => exact le_add low high

end Rises

end Occurs

namespace Definition

/-- An entry after definitions have been offered to it one after the other. -/
def gather (there : Option Definition) (offered : List Definition) : Option Definition :=
  offered.foldl (fun there added => join (some added) there) there

def raised (definition : Definition) (added : List Definition) : Definition :=
  { definition with
    occurs := added.foldl (fun sum other => sum + other.occurs) definition.occurs }

theorem gather_append (there : Option Definition) (first second : List Definition) :
    gather there (first ++ second) = gather (gather there first) second :=
  List.foldl_append ..

theorem rises_raised (definition : Definition) (added : List Definition) :
    definition.occurs.Rises (definition.raised added).occurs := by
  induction added generalizing definition with
  | nil => exact .refl _
  | cons first rest ih =>
    exact (Occurs.Rises.add _ first.occurs).trans
      (ih { definition with occurs := definition.occurs + first.occurs })

theorem gather_own {own : Definition} (plain : own.inherited = false) (offered : List Definition) :
    gather (some own) offered = some (own.raised (offered.filter fun added => !added.inherited)) := by
  induction offered generalizing own with
  | nil => rfl
  | cons added rest ih =>
    cases inherited : added.inherited with
    | true =>
      have stays : join (some added) (some own) = some own := by simp [join, merge, plain, inherited]
      rw [gather, List.foldl_cons, stays, ← gather, ih plain, List.filter_cons_of_neg]
      simp [inherited]
    | false =>
      have adds : join (some added) (some own) =
          some { own with occurs := own.occurs + added.occurs } := by
        simp [join, merge, plain, inherited]
      have next := @ih { own with occurs := own.occurs + added.occurs } plain
      rw [gather, List.foldl_cons, adds, ← gather, next, List.filter_cons_of_pos]
      · rfl
      · simp [inherited]

theorem gather_inherited {copied : Definition} (inherited : copied.inherited = true)
    {offered : List Definition} (all : ∀ added ∈ offered, added.inherited = true) :
    gather (some copied) offered = some (copied.raised offered) := by
  induction offered generalizing copied with
  | nil => rfl
  | cons added rest ih =>
    have adds : join (some added) (some copied) =
        some { copied with occurs := copied.occurs + added.occurs } := by
      simp [join, merge, inherited, all added List.mem_cons_self]
    rw [gather, List.foldl_cons, adds, ← gather]
    exact ih inherited fun other member => all other (List.mem_cons_of_mem _ member)

theorem gather_replaced {copied own : Definition} (inherited : copied.inherited = true)
    {before : List Definition} (all : ∀ added ∈ before, added.inherited = true)
    (plain : own.inherited = false) (rest : List Definition) :
    gather (some copied) (before ++ own :: rest) = gather (some own) rest := by
  have replaces : join (some own) (some (copied.raised before)) = some own := by
    simp [join, merge, raised, inherited, plain]
  rw [gather_append, gather_inherited inherited all, gather, List.foldl_cons, replaces, ← gather]

theorem all_inherited_or_first_own (offered : List Definition) :
    (∀ added ∈ offered, added.inherited = true) ∨
      ∃ before own rest, offered = before ++ own :: rest ∧
        (∀ added ∈ before, added.inherited = true) ∧ own.inherited = false := by
  induction offered with
  | nil => exact .inl nofun
  | cons added rest ih =>
    cases inherited : added.inherited with
    | false => exact .inr ⟨[], added, rest, rfl, nofun, inherited⟩
    | true =>
      rcases ih with all | ⟨before, own, later, rfl, all, plain⟩
      · exact .inl (List.forall_mem_cons.mpr ⟨inherited, all⟩)
      · exact .inr ⟨added :: before, own, later, rfl,
          List.forall_mem_cons.mpr ⟨inherited, all⟩, plain⟩

end Definition

namespace SymbolTable

theorem keys_kept_add (table : SymbolTable) (name : QName) (definition : Definition) :
    table.keys <+: (table.add name definition).keys := by
  rw [add, Table.keys_put]
  split
  · exact List.prefix_rfl
  · exact List.prefix_append ..

theorem keys_kept_addAll (table : SymbolTable) (entries : List (QName × Definition)) :
    table.keys <+: (table.addAll entries).keys := by
  induction entries generalizing table with
  | nil => exact List.prefix_rfl
  | cons entry rest ih => exact (keys_kept_add table entry.1 entry.2).trans (ih _)

/-- A table gathers what is offered under each name. -/
theorem get?_addAll_gather (table : SymbolTable) (entries : List (QName × Definition))
    (name : QName) :
    (table.addAll entries).get? name =
      Definition.gather (table.get? name)
        ((entries.filter fun entry => entry.1 = name).map fun entry => entry.2) := by
  induction entries generalizing table with
  | nil => rfl
  | cons entry rest ih =>
    rw [addAll, List.foldl_cons, ← addAll, ih]
    by_cases same : entry.1 = name
    next =>
      subst same
      rw [List.filter_cons_of_pos (by simp), add, Table.get?_put_self]
      rfl
    next =>
      rw [List.filter_cons_of_neg (by simpa using same), add,
        Table.get?_put_of_ne _ _ (Ne.symm same)]

end SymbolTable

namespace Scopes

/-- Something that makes a scope, or fills a table of one, or marks one. -/
inductive Action where
  | create (parent : Option ScopeId) (home : Option NamespaceId)
  | createChild (parent : ScopeId)
  | register (asked : Namespaces.Asked)
  | define (id : ScopeId) (kind : Symbols) (name : QName) (target : NodeId) (occurs : Occurs)
  | add (id : ScopeId) (kind : Symbols) (name : QName) (definition : Definition)
  | inlineInto (target : ScopeId) (kind : Symbols) (factor : Occurs) (source : ScopeId)
      (inherited : Bool)
  | inlineIntoParent (id : ScopeId) (kind : Symbols) (factor : Occurs) (source : Option ScopeId)
  | setType (id : ScopeId) (node : NodeId)

structure Filling where
  scope : ScopeId
  kind : Symbols
  entries : List (QName × Definition)

def copies (scopes : Scopes) (source : ScopeId) (kind : Symbols) (factor : Occurs)
    (inherited : Bool) : List (QName × Definition) :=
  (scopes.table source kind).entries.map fun entry => (entry.1, entry.2.copied factor inherited)

/-- What an action fills into which table, if any. Copies are of the source as it is before. -/
def filling? (scopes : Scopes) : Action -> Option Filling
  | .define id kind name target occurs =>
      some ⟨scopes.surrounding id, kind, [(name, ⟨target, occurs, false⟩)]⟩
  | .add id kind name definition => some ⟨id, kind, [(name, definition)]⟩
  | .inlineInto target kind factor source inherited =>
      some ⟨target, kind, scopes.copies source kind factor inherited⟩
  | .inlineIntoParent id kind factor source =>
      (scopes.get id).parent.map fun parent =>
        ⟨parent, kind, scopes.copies (source.getD id) kind factor false⟩
  | _ => none

def offers (scopes : Scopes) (action : Action) (id : ScopeId) (kind : Symbols) (name : QName) :
    List Definition :=
  match scopes.filling? action with
  | none => []
  | some filling =>
      if filling.scope = id ∧ filling.kind = kind ∧ id.index < scopes.size then
        (filling.entries.filter fun entry => entry.1 = name).map fun entry => entry.2
      else []

end Scopes

namespace Namespaces.Registry

open Scopes (Action)

def act (registry : Registry) : Action -> Registry
  | .create parent home => { registry with scopes := registry.scopes.create parent home }
  | .createChild parent => { registry with scopes := registry.scopes.createChild parent }
  | .register asked => registry.account asked
  | .define id kind name target occurs =>
      { registry with scopes := registry.scopes.define id kind name target occurs }
  | .add id kind name definition =>
      { registry with scopes := registry.scopes.add id kind name definition }
  | .inlineInto target kind factor source inherited =>
      { registry with scopes := registry.scopes.inlineInto target kind factor source inherited }
  | .inlineIntoParent id kind factor source =>
      { registry with scopes := registry.scopes.inlineIntoParent id kind factor (source.getD id) }
  | .setType id node => { registry with scopes := registry.scopes.setType id node }

def acts : Registry -> List Action -> Registry
  | registry, [] => registry
  | registry, action :: rest => acts (registry.act action) rest

def offered (id : ScopeId) (kind : Symbols) (name : QName) : Registry -> List Action ->
    List Definition
  | _, [] => []
  | registry, action :: rest =>
      registry.scopes.offers action id kind name ++ offered id kind name (registry.act action) rest

theorem scopes_account (registry : Registry) (asked : Asked) :
    (registry.account asked).scopes = registry.scopes ∨
      ∃ parent home, (registry.account asked).scopes = registry.scopes.create parent home := by
  unfold account ask Namespaces.register
  dsimp only
  split
  · exact .inl rfl
  · exact .inr ⟨_, _, rfl⟩

theorem table_act (registry : Registry) (action : Action) :
    match registry.scopes.filling? action with
    | some filling => (registry.act action).scopes =
        registry.scopes.changeTable filling.scope filling.kind fun table =>
          table.addAll filling.entries
    | none => ∀ id kind, (registry.act action).scopes.table id kind = registry.scopes.table id kind := by
  cases action with
  | create parent home => exact fun id kind => Scopes.table_create ..
  | createChild parent => exact fun id kind => Scopes.table_create ..
  | register asked =>
    intro id kind
    show (registry.account asked).scopes.table id kind = _
    rcases registry.scopes_account asked with same | ⟨parent, home, made⟩
    · rw [same]
    · rw [made, Scopes.table_create]
  | define id kind name target occurs => rfl
  | add id kind name definition => rfl
  | inlineInto target kind factor source inherited => rfl
  | inlineIntoParent id kind factor source =>
    unfold Scopes.filling? act Scopes.inlineIntoParent
    dsimp only
    cases (registry.scopes.get id).parent with
    | none => exact fun id kind => rfl
    | some parent => rfl
  | setType id node => exact fun id kind => Scopes.table_setType ..

theorem get?_act (registry : Registry) (action : Action) (id : ScopeId) (kind : Symbols)
    (name : QName) :
    ((registry.act action).scopes.table id kind).get? name =
      Definition.gather ((registry.scopes.table id kind).get? name)
        (registry.scopes.offers action id kind name) := by
  have filled := registry.table_act action
  unfold Scopes.offers
  cases fills : registry.scopes.filling? action with
  | none =>
    rw [fills] at filled
    rw [filled]
    rfl
  | some filling =>
    rw [fills] at filled
    rw [filled]
    dsimp only
    split
    next here =>
      obtain ⟨rfl, rfl, within⟩ := here
      rw [Scopes.table_changeTable_self _ _ _ within]
      exact SymbolTable.get?_addAll_gather ..
    next elsewhere =>
      rcases Scopes.table_changeTable_cases registry.scopes filling.scope id filling.kind kind
          (fun table => table.addAll filling.entries) with same | ⟨rfl, rfl, within, -⟩
      · rw [same]
        rfl
      · exact absurd ⟨rfl, rfl, within⟩ elsewhere

theorem keys_act_prefix (registry : Registry) (action : Action) (id : ScopeId) (kind : Symbols) :
    (registry.scopes.table id kind).keys <+: ((registry.act action).scopes.table id kind).keys := by
  have filled := registry.table_act action
  cases fills : registry.scopes.filling? action with
  | none =>
    rw [fills] at filled
    rewrite [filled]
    exact List.prefix_rfl
  | some filling =>
    rw [fills] at filled
    rw [filled]
    rcases Scopes.table_changeTable_cases registry.scopes filling.scope id filling.kind kind
        (fun table => table.addAll filling.entries) with same | ⟨-, -, -, changed⟩
    · rewrite [same]
      exact List.prefix_rfl
    · rw [changed]
      exact SymbolTable.keys_kept_addAll ..

theorem typeOf_act {registry : Registry} {id : ScopeId} {marker : NodeId}
    (marked : registry.scopes.typeOf id = some marker) (action : Action) :
    (registry.act action).scopes.typeOf id = some marker := by
  cases action with
  | create parent home => exact (Scopes.typeOf_create ..).trans marked
  | createChild parent => exact (Scopes.typeOf_create ..).trans marked
  | register asked =>
    show (registry.account asked).scopes.typeOf id = _
    rcases registry.scopes_account asked with same | ⟨parent, home, made⟩
    · rw [same, marked]
    · rw [made, Scopes.typeOf_create, marked]
  | define owner kind name target occurs => exact (Scopes.typeOf_changeTable ..).trans marked
  | add into kind name definition => exact (Scopes.typeOf_changeTable ..).trans marked
  | inlineInto target kind factor source inherited =>
    exact (Scopes.typeOf_changeTable ..).trans marked
  | inlineIntoParent owner kind factor source =>
    unfold act Scopes.inlineIntoParent
    dsimp only
    split
    · exact (Scopes.typeOf_changeTable ..).trans marked
    · exact marked
  | setType into node =>
    unfold Scopes.typeOf at marked
    unfold act Scopes.setType Scopes.typeOf
    rw [Scopes.get_change]
    split
    · simp [marked]
    · exact marked

theorem get?_acts (registry : Registry) (actions : List Action) (id : ScopeId) (kind : Symbols)
    (name : QName) :
    ((registry.acts actions).scopes.table id kind).get? name =
      Definition.gather ((registry.scopes.table id kind).get? name)
        (offered id kind name registry actions) := by
  induction actions generalizing registry with
  | nil => rfl
  | cons action rest ih =>
    rw [acts, ih, get?_act, ← Definition.gather_append]
    rfl

theorem keys_acts_prefix (registry : Registry) (actions : List Action) (id : ScopeId)
    (kind : Symbols) :
    (registry.scopes.table id kind).keys <+: ((registry.acts actions).scopes.table id kind).keys := by
  induction actions generalizing registry with
  | nil => exact List.prefix_rfl
  | cons action rest ih => exact (registry.keys_act_prefix action id kind).trans (ih _)

theorem typeOf_acts {registry : Registry} {id : ScopeId} {marker : NodeId}
    (marked : registry.scopes.typeOf id = some marker) (actions : List Action) :
    (registry.acts actions).scopes.typeOf id = some marker := by
  induction actions generalizing registry with
  | nil => exact marked
  | cons action rest ih => exact ih (typeOf_act marked action)

/-- Whatever is done to scopes, the names of a table keep their places and each entry is what it was
merged with what was offered to it. An own entry stays own, with its target and with bounds that do not
fall. An inherited entry gains the bounds of what is offered as long as that is inherited, and the
first own definition that is offered takes its place. The type that a scope is marked with stays. -/
theorem acts_accumulate (registry : Registry) (actions : List Action) (id : ScopeId)
    (kind : Symbols) :
    let old := registry.scopes
    let new := (registry.acts actions).scopes
    (old.table id kind).keys <+: (new.table id kind).keys ∧
      (∀ name, (new.table id kind).get? name =
        Definition.gather ((old.table id kind).get? name)
          (offered id kind name registry actions)) ∧
      (∀ name entry, (old.table id kind).get? name = some entry -> entry.inherited = false ->
        ∃ later, (new.table id kind).get? name = some later ∧ later.inherited = false ∧
          later.target = entry.target ∧ entry.occurs.Rises later.occurs) ∧
      (∀ name entry, (old.table id kind).get? name = some entry -> entry.inherited = true ->
        (∀ added ∈ offered id kind name registry actions, added.inherited = true) ∧
            (new.table id kind).get? name =
              some (entry.raised (offered id kind name registry actions)) ∨
          ∃ before own rest, offered id kind name registry actions = before ++ own :: rest ∧
            (∀ added ∈ before, added.inherited = true) ∧ own.inherited = false ∧
            (new.table id kind).get? name =
              some (own.raised (rest.filter fun added => !added.inherited))) ∧
      ∀ marker, old.typeOf id = some marker -> new.typeOf id = some marker := by
  intro old new
  have gathers (name : QName) := registry.get?_acts actions id kind name
  refine ⟨registry.keys_acts_prefix actions id kind, gathers, fun name entry there plain => ?_,
    fun name entry there inherited => ?_, fun marker marked => typeOf_acts marked actions⟩
  · have gathered := gathers name
    rw [there, Definition.gather_own plain] at gathered
    exact ⟨_, gathered, plain, rfl, entry.rises_raised _⟩
  · have gathered := gathers name
    rw [there] at gathered
    rcases Definition.all_inherited_or_first_own (offered id kind name registry actions) with
      all | ⟨before, own, rest, same, all, plain⟩
    · exact .inl ⟨all, gathered.trans (Definition.gather_inherited inherited all)⟩
    · refine .inr ⟨before, own, rest, same, all, plain, gathered.trans ?_⟩
      rw [same, Definition.gather_replaced inherited all plain, Definition.gather_own plain]

end Namespaces.Registry

end XmlSchema

import XmlSchema.Proofs.Documents.Exposure
import XmlSchema.Proofs.Reading.Catalogue
import XmlSchema.Proofs.Resolution.Referents

set_option autoImplicit false

namespace XmlSchema

namespace Table

variable {κ α : Type} [DecidableEq κ]

theorem le_of_find (rank : α -> Nat) {entries : List (κ × α)}
    (sorted : entries.Pairwise fun one two => rank one.2 < rank two.2) {key : κ} {value : α}
    (found : find key entries = some value) :
    ∀ entry ∈ entries, entry.1 = key -> rank value ≤ rank entry.2 := by
  induction entries with
  | nil => exact nofun
  | cons first rest ih =>
    obtain ⟨lower, sorted⟩ := List.pairwise_cons.mp sorted
    intro entry member same
    unfold find at found
    split at found
    next =>
      obtain rfl := Option.some.inj found
      rcases List.mem_cons.mp member with rfl | later
      · exact Nat.le_refl _
      · exact Nat.le_of_lt (lower entry later)
    next apart =>
      rcases List.mem_cons.mp member with rfl | later
      · exact absurd same apart
      · exact ih sorted found entry later same

end Table

namespace Model

section

variable {model : Model} {id : NodeId}

theorem noted_prepare (absent : (model.node id).attribute? "ref" = none) :
    model.Noted (model.prepare id).1 := by
  obtain ⟨found, reached, -⟩ := Inquiry.Reached.prepare model id
  refine reached.keeps (P := fun inquiry => model.Noted inquiry.model) (.refl model) ?_
  intro one two _ step before
  refine before.trans ?_
  cases step with
  | follow after found kind written =>
      dsimp only
      exact .follow after id kind written
  | member _ refers => exact absurd absent refers
  | group _ refers => exact absurd absent refers
  | type => exact .setType ..
  | members => exact .setMemberTypes ..
  | head => exact .changeNode _ _ fun _ => rfl

end

/-- A tag of a kind that stands in a schema tag of a document that targets a namespace. -/
def isTop (model : Model) (home : NamespaceId) (kind : Symbols) (id : NodeId) : Bool :=
  decide ((model.node id).kind.symbols? = some kind) &&
    (model.node id).parent.any fun parent =>
      decide ((model.node parent).kind = .schema) &&
        decide ((model.sourceOf? parent).map Source.target = some home)

def topLevel (model : Model) (home : NamespaceId) (kind : Symbols) : List NodeId :=
  ((List.range model.nodes.size).map NodeId.mk).filter (model.isTop home kind)

def namedEntry (model : Model) (id : NodeId) : Option (QName × Definition) :=
  (model.node id).name.map fun name => (name, ⟨id, (model.node id).occurs, false⟩)

structure DeclaredFirst (model : Model) (home : NamespaceId) (kind : Symbols) (member : Member) :
    Prop where
  own : member.inherited = false
  isGlobal : model.IsGlobal member.node
  top : member.node ∈ model.topLevel home kind
  named : (model.node member.node).name = some member.name
  first : ∀ other ∈ model.topLevel home kind, (model.node other).name = some member.name ->
    member.node.index ≤ other.index

section

variable {old new model : Model} {home : NamespaceId} {kind : Symbols} {id : NodeId}

theorem mem_topLevel : id ∈ model.topLevel home kind ↔
    id.index < model.nodes.size ∧ model.isTop home kind id = true := by
  obtain ⟨index⟩ := id
  simp [topLevel]

theorem isTop_iff : model.isTop home kind id = true ↔
    (model.node id).kind.symbols? = some kind ∧ ∃ parent, (model.node id).parent = some parent ∧
      (model.node parent).kind = .schema ∧
        (model.sourceOf? parent).map Source.target = some home := by
  simp only [isTop, Bool.and_eq_true, decide_eq_true_eq, Option.any_eq_true]

theorem Alike.isTop (alike : old.Alike new) : new.isTop home kind = old.isTop home kind := by
  funext id
  simp only [Model.isTop, alike.kind, alike.parent, alike.sourceOf? alike.sources]

theorem Alike.topLevel (alike : old.Alike new) :
    new.topLevel home kind = old.topLevel home kind := by
  unfold Model.topLevel
  rw [alike.size, alike.isTop]

theorem Alike.declaredFirst (alike : old.Alike new) {member : Member}
    (declared : old.DeclaredFirst home kind member) : new.DeclaredFirst home kind member where
  own := declared.own
  isGlobal := (alike.isGlobal member.node).mpr declared.isGlobal
  top := alike.topLevel ▸ declared.top
  named := (alike.name member.node).trans declared.named
  first other beside named :=
    declared.first other (alike.topLevel ▸ beside) ((alike.name other).symm.trans named)

theorem surrounding_eq_root (shaped : model.Shaped) (allotted : model.Allotted)
    (seated : model.namespaces.Seated model.scopes)
    (sourced : ∀ id, model.IsTag id -> (model.node id).source ≠ none)
    (within : home.index < model.namespaces.size) (inside : id.index < model.nodes.size)
    (listed : (model.node id).kind.symbols? = some kind) :
    model.scopes.surrounding (model.node id).scope = (model.namespaces.get home).root ↔
      model.isTop home kind id = true := by
  have root : model.Outermost (model.namespaces.get home).root := shaped.registry.around home within
  have plain : (model.node id).kind ≠ .schema := by
    intro schema
    rw [schema] at listed
    cases listed
  rw [isTop_iff]
  by_cases builtin : id.index < Builtin.nodes.length
  next =>
    obtain ⟨standing, -⟩ := shaped.primitive id builtin
    have place : (model.node id).scope = Builtin.scope := (congrArg Node.scope standing :)
    have alone : (model.node id).parent = none := (congrArg Node.parent standing :)
    -- a built-in type has its body in the scope around all roots
    refine iff_of_false (fun same => ?_) (by simp [alone])
    rw [place, Scopes.surrounding, shaped.outermost, Option.getD_none] at same
    rw [← same] at root
    cases shaped.outermost.symm.trans root
  next =>
    have tag : model.IsTag id := ⟨Nat.not_lt.mp builtin, inside⟩
    obtain ⟨parent, stands, around⟩ := shaped.parent_of_kind tag plain
    obtain ⟨source, there⟩ := Option.ne_none_iff_exists'.mp (sourced id tag)
    have belongs := (allotted.around id source there plain).2
    have target : (model.sourceOf? parent).map Source.target =
        some (model.source source).target := by
      rw [sourceOf?, ← stands.source, there]
      rfl
    rw [shaped.surrounding_eq around] at belongs ⊢
    constructor
    · -- the scope of the parent is a root, so the parent is a schema tag
      intro same
      rw [same, allotted.housed.home home within] at belongs
      exact ⟨listed, parent, around, shaped.schema_of_outermost stands.tag (same ▸ root),
        target.trans belongs.symm⟩
    · rintro ⟨-, other, above, schema, targets⟩
      obtain rfl : parent = other := Option.some.inj (around.symm.trans above)
      rw [target] at targets
      rw [targets] at belongs
      exact (seated.root _ home (shaped.outermost_of_schema stands.tag schema) belongs).2

theorem declarations_root (shaped : model.Shaped) (allotted : model.Allotted)
    (seated : model.namespaces.Seated model.scopes)
    (sourced : ∀ id, model.IsTag id -> (model.node id).source ≠ none)
    (within : home.index < model.namespaces.size) :
    model.declarations (model.namespaces.get home).root kind =
      (model.topLevel home kind).filterMap model.namedEntry := by
  unfold declarations topLevel
  rw [List.filterMap_filter, List.filterMap_map]
  refine List.filterMap_congr fun index member => ?_
  by_cases listed : (model.node ⟨index⟩).kind.symbols? = some kind
  next =>
    have there := surrounding_eq_root shaped allotted seated sourced within
      (List.mem_range.mp member) listed
    simp [declaration?, namedEntry, there, listed]
  next =>
    have not_ : ¬ model.isTop home kind ⟨index⟩ = true := fun top => listed (isTop_iff.mp top).1
    simp [declaration?, listed, not_]

theorem topLevel_sorted (model : Model) (home : NamespaceId) (kind : Symbols) :
    (model.topLevel home kind).Pairwise fun one two => one.index < two.index := by
  have sorted : ((List.range model.nodes.size).map NodeId.mk).Pairwise
      fun one two => one.index < two.index := List.pairwise_map.mpr List.pairwise_lt_range
  exact sorted.filter _

theorem namedEntry_eq_some {entry : QName × Definition} : model.namedEntry id = some entry ↔
    (model.node id).name = some entry.1 ∧ entry.2 = ⟨id, (model.node id).occurs, false⟩ := by
  obtain ⟨name, definition⟩ := entry
  simp only [namedEntry, Option.map_eq_some_iff, Prod.mk.injEq]
  constructor
  · rintro ⟨_, named, rfl, rfl⟩
    exact ⟨named, rfl⟩
  · rintro ⟨named, rfl⟩
    exact ⟨name, named, rfl, rfl⟩

theorem isGlobal_of_mem_topLevel (top : id ∈ model.topLevel home kind) : model.IsGlobal id := by
  obtain ⟨-, parent, inside, schema, -⟩ := isTop_iff.mp (mem_topLevel.mp top).2
  exact ⟨parent, inside, schema⟩

theorem declaredFirst_of_find {member : Member} {first : Definition}
    (found : Table.find member.name ((model.topLevel home kind).filterMap model.namedEntry) =
      some first) (leads : member.node = first.target) (own : member.inherited = false) :
    model.DeclaredFirst home kind member := by
  have sorted : ((model.topLevel home kind).filterMap model.namedEntry).Pairwise
      fun one two => one.2.target.index < two.2.target.index := by
    refine (topLevel_sorted model home kind).filterMap _ fun one two before => ?_
    intro entry enters other again
    rw [(namedEntry_eq_some.mp enters).2, (namedEntry_eq_some.mp again).2]
    exact before
  obtain ⟨id, top, enters⟩ := List.mem_filterMap.mp (Table.mem_of_find found)
  obtain ⟨named, rfl⟩ := namedEntry_eq_some.mp enters
  obtain rfl : member.node = id := leads
  refine ⟨own, isGlobal_of_mem_topLevel top, top, named, fun other beside again => ?_⟩
  have among : (member.name, ⟨other, (model.node other).occurs, false⟩) ∈
      (model.topLevel home kind).filterMap model.namedEntry :=
    List.mem_filterMap.mpr ⟨other, beside, namedEntry_eq_some.mpr ⟨again, rfl⟩⟩
  exact Table.le_of_find (fun definition => definition.target.index) sorted found _ among rfl

theorem Catalogued.globals (catalogued : model.Catalogued) (shaped : model.Shaped)
    (allotted : model.Allotted)
    (sourced : ∀ id, model.IsTag id -> (model.node id).source ≠ none)
    (within : home.index < model.namespaces.size) :
    (model.globals home kind).map Member.name =
        ((model.topLevel home kind).filterMap fun id => (model.node id).name).eraseDups ∧
      ∀ member ∈ model.globals home kind, model.DeclaredFirst home kind member := by
  have root : model.Outermost (model.namespaces.get home).root := shaped.registry.around home within
  have apart : (model.namespaces.get home).root ≠ Builtin.scope := by
    intro same
    rw [same] at root
    cases shaped.outermost.symm.trans root
  have table := catalogued.tables _ apart kind
  have declared : model.declarations (model.namespaces.get home).root kind =
      (model.topLevel home kind).filterMap model.namedEntry :=
    declarations_root shaped allotted catalogued.seated sourced within
  unfold Model.globals
  constructor
  · have names : (Member.name ∘ Member.ofEntry : QName × Definition -> QName) = Prod.fst := rfl
    have keys := SymbolTable.keys_addAll (model.declarations (model.namespaces.get home).root kind)
    rw [List.map_map, names]
    refine (congrArg Table.keys table).trans (keys.trans (congrArg List.eraseDups ?_))
    rw [declared, List.map_filterMap]
    refine List.filterMap_congr fun id _ => ?_
    rw [namedEntry, Option.map_map]
    exact Option.map_id'
  · intro member listed
    obtain ⟨⟨name, definition⟩, entry, rfl⟩ := List.mem_map.mp listed
    have found : (model.scopes.table (model.namespaces.get home).root kind).get? name =
        some definition := Table.get?_of_mem _ entry
    have plain : ∀ entry ∈ model.declarations (model.namespaces.get home).root kind,
        entry.2.inherited = false := by
      rw [declared]
      intro entry among
      obtain ⟨id, -, enters⟩ := List.mem_filterMap.mp among
      rw [(namedEntry_eq_some.mp enters).2]
    -- the entry in the table may have other bounds than the first declaration, but its target
    have enters := SymbolTable.get?_addAll_empty plain name
    rw [← table, found] at enters
    obtain ⟨first, origin, same⟩ := Option.map_eq_some_iff.mp enters.symm
    obtain ⟨leads, own⟩ := Prod.mk.inj same
    rw [declared] at origin
    exact declaredFirst_of_find origin leads.symm own.symm

end

end Model

namespace Compilation

variable {options : Options} {fetch : Fetch} {url : Url} {read compilation : Compilation}
variable {pass : Pass}

theorem table_outermost (sound : read.Sound) (there : Pass.Reaches read.outset pass)
    (bare : ∀ id, read.model.IsGlobal id -> (read.model.node id).attribute? "ref" = none)
    {scope : ScopeId} (outermost : read.model.Outermost scope) (kind : Symbols) :
    pass.model.scopes.table scope kind = read.model.scopes.table scope kind := by
  have gathered := sound.gathered
  have shaped := gathered.shaped
  -- only a tag in a schema tag stands in an outermost scope, and then nothing is left to do on it
  have left {model : Model} {todo : List TaskId} {call : Call} {outer : List Call}
      (before : Pass.Reaches read.outset ⟨model, todo, call :: outer⟩) (complete : Bool) :
      (Pass.leave model call outer complete).model.scopes.table scope kind =
        model.scopes.table scope kind := by
    have scheduled := before.scheduled sound.poised sound.scheduled
    have alike := scheduled.alike
    obtain ⟨tag, deferred⟩ := scheduled.deferred_call gathered List.mem_cons_self
    by_cases here : scope = read.model.scopes.surrounding (read.model.node call.node).scope
    next =>
      have isGlobal := shaped.isGlobal tag deferred (here ▸ outermost)
      have nothing := remainder_of_global sound before (fun _ => bare call.node isGlobal) isGlobal
      change (model.finish call.node call.remainder complete).scopes.table scope kind = _
      rw [nothing]
      rfl
    next =>
      refine (scheduled.finished gathered complete).elsewhere scope kind ?_ fun owner _ around => ?_
      · rwa [alike.surrounding]
      · rw [alike.enclosing] at around
        obtain ⟨above, type⟩ := Model.enclosing_spec around
        rw [alike.scope]
        intro same
        have schema := shaped.schema_of_outermost (shaped.of_mem_ancestors above).1
          (same ▸ outermost)
        rw [schema] at type
        cases type
  induction there with
  | refl => rfl
  | tail before step ih =>
    have scheduled := Pass.Reaches.scheduled before sound.poised sound.scheduled
    refine Eq.trans ?_ ih
    cases step with
    | enter model task rest calls waits =>
      obtain ⟨tag, deferred⟩ := scheduled.deferred_task gathered waits
      have alike := scheduled.alike.trans (Model.Alike.mark model .running task)
      by_cases here : scope =
          read.model.scopes.surrounding (read.model.node (model.queue.get task).node).scope
      next =>
        have isGlobal := shaped.isGlobal tag deferred (here ▸ outermost)
        have absent := bare _ isGlobal
        rw [← alike.attribute] at absent
        exact congrArg (fun scopes => Scopes.table scopes scope kind)
          (Model.noted_prepare absent).scopes
      next =>
        refine (scheduled.prepared gathered waits).elsewhere scope kind ?_
        rwa [alike.surrounding]
    | skip => rfl
    | ignore => rfl
    | leave model call outer => exact left before true
    | circle model task rest call outer => exact left before false

/-- If no tag in a schema tag refers to another, then each namespace's tables are as reading left
them: its globals are what the tags at its top declare, each under its first declaration. -/
theorem compile_globals (compiled : compile options fetch url = .ok compilation)
    (bare : ∀ id, compilation.model.IsGlobal id ->
      (compilation.model.node id).attribute? "ref" = none) :
    ∃ read, gather options fetch url = .ok read ∧
      compilation.model.namespaces.size = read.model.namespaces.size ∧
      ∀ home : NamespaceId, home.index < compilation.model.namespaces.size -> ∀ kind,
        compilation.model.scopes.table (compilation.model.namespaces.get home).root kind =
            read.model.scopes.table (read.model.namespaces.get home).root kind ∧
          (compilation.model.globals home kind).map Member.name =
            ((compilation.model.topLevel home kind).filterMap fun id =>
              (compilation.model.node id).name).eraseDups ∧
          ∀ member ∈ compilation.model.globals home kind,
            compilation.model.DeclaredFirst home kind member := by
  obtain ⟨read, gathered, sound, rfl⟩ := compile_ok compiled
  have changes := (gather_arrives gathered).changes
  have alike := sound.ended.alike
  have absent : ∀ id, read.model.IsGlobal id -> (read.model.node id).attribute? "ref" = none := by
    intro id isGlobal
    rw [← alike.attribute]
    exact bare id ((alike.isGlobal id).mpr isGlobal)
  refine ⟨read, gathered, alike.registry.size, fun home within kind => ?_⟩
  have before : home.index < read.model.namespaces.size := alike.registry.size ▸ within
  have root : (read.resolve.model.namespaces.get home).root =
      (read.model.namespaces.get home).root :=
    (congrArg Namespace.root (alike.registry.core home) :)
  have outermost := sound.gathered.shaped.registry.around home before
  have table := table_outermost sound read.resolve_reaches absent outermost kind
  have same : read.resolve.model.globals home kind = read.model.globals home kind := by
    unfold Model.globals
    rw [root]
    exact congrArg (fun table => table.entries.map Member.ofEntry) table
  -- the globals after reading are known, and no table of a root scope has changed since
  obtain ⟨names, first⟩ := changes.catalogued.globals sound.gathered.shaped
    changes.allotted changes.owned.tags before
  refine ⟨root ▸ table, ?_, fun member listed => ?_⟩
  · rw [same, names, alike.topLevel]
    simp only [alike.name]
  · rw [same] at listed
    exact alike.declaredFirst (first member listed)

def repeatingText : String :=
  "<schema xmlns='http://www.w3.org/2001/XMLSchema' targetNamespace='u'>" ++
    "<element name='e'/><complexType name='T'><sequence><element name='f'/></sequence>" ++
      "</complexType><element name='e'/></schema>"

set_option maxRecDepth 100000 in
theorem compile_globals_repeating :
    ∃ compilation, compile .standard (serving repeatingText) someUrl = .ok compilation ∧
      (compilation.model.globals ⟨1⟩ .elements).map Member.name = [⟨some "u", "e"⟩] ∧
        ∀ member ∈ compilation.model.globals ⟨1⟩ .elements, member.node = ⟨47⟩ := by
  obtain ⟨compilation, compiled, -, plain, within, top, one, two⟩ :=
    @compile_of_checked repeatingText (fun model =>
      (∀ index, index < model.nodes.size -> model.isGlobal ⟨index⟩ = true ->
        (model.node ⟨index⟩).attribute? "ref" = none) ∧ 1 < model.namespaces.size ∧
        model.topLevel ⟨1⟩ .elements = [⟨47⟩, ⟨51⟩] ∧
        (model.node ⟨47⟩).name = some ⟨some "u", "e"⟩ ∧
        (model.node ⟨51⟩).name = some ⟨some "u", "e"⟩) _
      (by decide +kernel)
  have bare (id : NodeId) (isGlobal : compilation.model.IsGlobal id) :
      (compilation.model.node id).attribute? "ref" = none := by
    obtain ⟨parent, inside, schema⟩ := isGlobal
    have there : id.index < compilation.model.nodes.size := by
      by_contra outside
      rw [Model.node_of_size_le _ (Nat.not_lt.mp outside)] at inside
      cases inside
    exact plain id.index there (by simp [Model.isGlobal, inside, schema])
  obtain ⟨read, -, -, tells⟩ := compile_globals compiled bare
  obtain ⟨-, names, first⟩ := tells ⟨1⟩ within .elements
  refine ⟨compilation, compiled, ?_, fun member listed => ?_⟩
  · have once : [(⟨some "u", "e"⟩ : QName), ⟨some "u", "e"⟩].eraseDups = [⟨some "u", "e"⟩] := by
      decide
    rw [names, top, List.filterMap_cons, one, List.filterMap_cons, two]
    exact once
  · have declared := first member listed
    have among := declared.top
    rw [top] at among
    have before := declared.first ⟨47⟩ (by simp [top])
    rcases List.mem_pair.mp among with same | same
    · exact same
    · rw [same] at before
      have named := declared.named
      rw [same, two] at named
      exact absurd (before (one.trans named)) (by decide)

end Compilation

end XmlSchema

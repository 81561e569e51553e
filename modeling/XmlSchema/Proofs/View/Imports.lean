import XmlSchema.Proofs.Resolution.Coverage
import XmlSchema.Proofs.Resolution.Settlement
import XmlSchema.Proofs.View.Nesting

set_option autoImplicit false

namespace XmlSchema

def MemberView.labels (view : MemberView) : List String :=
  view.name :: view.typeName.toList

def TypeView.labels (view : TypeView) : List String :=
  view.name.toList ++ view.parent.toList ++ view.itemType.toList ++ view.memberTypes

mutual

inductive TypeView.Names (label : String) : TypeView -> Prop where
  | own {view} (printed : label ∈ view.labels) : TypeView.Names label view
  | member {view kind shown} (listed : shown ∈ view.listed kind)
      (inner : MemberView.Names label shown) : TypeView.Names label view

inductive MemberView.Names (label : String) : MemberView -> Prop where
  | own {view} (printed : label ∈ view.labels) : MemberView.Names label view
  | inner {view type} (carries : view.nameless = some type)
      (inner : TypeView.Names label type) : MemberView.Names label view

end

inductive NamespaceView.Names (view : NamespaceView) (label : String) : Prop where
  | member {shown : MemberView} (listed : shown ∈ view.elements ++ view.attributes)
      (inner : shown.Names label)
  | type {type : TypeView} (listed : type ∈ view.types) (inner : type.Names label)

namespace Model

/-- A printed name is that of something which a namespace has taken in, or which can be named where
something was that it has taken in. What leads nowhere is printed as such. -/
def Traces (model : Model) (home : Option NamespaceId) (label : String) : Prop :=
  (∃ name : QName, label = "unresolved:" ++ name.text) ∨
    ∃ target name used, (model.node target).name = some name ∧ label = name.text ∧
      Relation.ReflTransGen model.Draws home used ∧ model.Covers used target

structure Takes (model : Model) (home : Option NamespaceId) (member : Member) : Prop where
  node : Relation.ReflTransGen model.Draws home (model.home member.node)
  name : ∃ target, (model.node target).name = some member.name ∧
    Relation.ReflTransGen model.Draws home (model.home target)

section

variable {model : Model} {home other : Option NamespaceId} {id target : NodeId} {label : String}

theorem Traces.along (chain : Relation.ReflTransGen model.Draws home other)
    (traces : model.Traces other label) : model.Traces home label := by
  refine traces.imp_right ?_
  rintro ⟨target, name, used, named, same, further, covers⟩
  exact ⟨target, name, used, named, same, chain.trans further, covers⟩

theorem traces_name {name : QName} (named : (model.node id).name = some name) :
    model.Traces (model.home id) name.text :=
  .inr ⟨id, name, _, named, rfl, .refl, .inl rfl⟩

theorem draws_alternatives (member : target ∈ model.alternatives id) :
    Relation.ReflTransGen model.Draws (model.home id) (model.home target) :=
  (mem_alternatives.mp member).1.lift model.home fun _ _ listed => .replaces listed

theorem typeOf_cases {type : TypeRef} (typed : model.typeOf id = some type) :
    ∃ owner, type ∈ (model.node owner).types ∧
      Relation.ReflTransGen model.Draws (model.home id) (model.home owner) := by
  have own (owner : NodeId) (same : (model.node owner).typeRef = some type) :
      type ∈ (model.node owner).types := by simp [Node.types, same]
  unfold typeOf at typed
  dsimp only at typed
  split at typed
  -- a member that refers to another tag has the type of that one
  next owner refers => exact ⟨owner, own owner typed, .single (.refers refers)⟩
  next => exact ⟨id, own id typed, .refl⟩

namespace Covered

variable (covered : model.Covered)

include covered

theorem covers_type {type : NodeId} (member : .resolved type ∈ (model.node id).types) :
    model.Covers (model.home id) type :=
  covered.leads id type
    (List.mem_append_right _ (List.mem_filterMap.mpr ⟨.resolved type, member, rfl⟩))

theorem traces_type {type : TypeRef} (member : type ∈ (model.node id).types)
    (printed : model.typeLabel type = some label) : model.Traces (model.home id) label := by
  cases type with
  | resolved target =>
      obtain ⟨name, named, rfl⟩ := Option.map_eq_some_iff.mp printed
      exact .inr ⟨target, name, _, named, rfl, .refl, covered.covers_type member⟩
  | unresolved name =>
      cases printed
      exact .inl ⟨name, rfl⟩

theorem draws_nameless {ofGlobals : Bool} {type : NodeId}
    (inlines : model.Inlines ofGlobals id type) :
    Relation.ReflTransGen model.Draws (model.home id) (model.home type) := by
  obtain ⟨typed, unnamed, -⟩ := inlines
  obtain ⟨owner, member, chain⟩ := typeOf_cases typed
  -- only a type with a name can be covered in a namespace that it does not belong to
  rcases covered.covers_type member with own | ⟨name, named, -⟩
  · rw [own]
    exact chain
  · cases unnamed.symm.trans named

theorem traces_member {member : Member} (takes : model.Takes home member) {ofGlobals : Bool}
    {around : List NodeId} {expand : NodeId -> Option TypeView}
    (printed : label ∈ (model.memberView ofGlobals around expand member).labels) :
    model.Traces home label := by
  rcases List.mem_cons.mp printed with rfl | typeName
  · obtain ⟨target, named, chain⟩ := takes.name
    exact (traces_name named).along chain
  · obtain ⟨type, typed, there⟩ := Option.bind_eq_some_iff.mp (Option.mem_toList.mp typeName)
    obtain ⟨owner, member, chain⟩ := typeOf_cases typed
    exact (covered.traces_type member there).along (takes.node.trans chain)

theorem traces_typeLabels {attributes elements : List MemberView}
    (printed : label ∈ (model.typeWith id attributes elements).labels) :
    model.Traces (model.home id) label := by
  unfold TypeView.labels typeWith at printed
  simp only [List.mem_append, Option.mem_toList, itemType, Model.memberTypes] at printed
  rcases printed with ((name | parent) | item) | members
  · obtain ⟨name, named, rfl⟩ := Option.map_eq_some_iff.mp name
    exact traces_name named
  · obtain ⟨type, base, there⟩ := Option.bind_eq_some_iff.mp parent
    exact covered.traces_type (by simp [Node.types, base]) there
  · split at item
    next =>
      obtain ⟨type, base, there⟩ := Option.bind_eq_some_iff.mp item
      exact covered.traces_type (by simp [Node.types, base]) there
    next => cases item
  · split at members
    next =>
      obtain ⟨type, listed, there⟩ := List.mem_filterMap.mp members
      exact covered.traces_type (by simp [Node.types, listed]) there
    next => cases members

variable (filed : model.Filed)

include filed

theorem takes_entry {scope : ScopeId} {kind : Symbols} {entry : QName × Definition}
    (listed : entry ∈ (model.scopes.table scope kind).entries)
    (own : entry.2.inherited = false) :
    (model.node entry.2.target).name = some entry.1 ∧
      Relation.ReflTransGen model.Draws (model.scopes.get scope).home
        (model.home entry.2.target) := by
  have found : (model.scopes.table scope kind).get? entry.1 = some entry.2 :=
    Table.get?_of_mem _ listed
  have stocks := covered.entries scope kind entry.1 entry.2 found
  rw [own] at stocks
  exact ⟨(filed scope kind entry.1 entry.2 found).1, stocks⟩

theorem takes_own {kind : Symbols} {member : Member} (listed : member ∈ model.own id kind) :
    model.Takes (model.home id) member := by
  obtain ⟨listed, own⟩ := List.mem_filter.mp listed
  have plain (there : member ∈ (model.scopes.table (model.node id).scope kind).entries.map
      Member.ofEntry) : model.Takes (model.home id) member := by
    obtain ⟨entry, inside, rfl⟩ := List.mem_map.mp there
    obtain ⟨named, chain⟩ := covered.takes_entry filed inside (by simpa [Member.ofEntry] using own)
    exact ⟨chain, _, named, chain⟩
  unfold members at listed
  dsimp only at listed
  split at listed
  next =>
    obtain ⟨entry, inside, expanded⟩ := List.mem_flatMap.mp listed
    obtain ⟨other, alternative, rfl⟩ := List.mem_map.mp expanded
    obtain ⟨named, chain⟩ := covered.takes_entry filed inside (by simpa using own)
    have further := chain.trans (draws_alternatives alternative)
    refine ⟨further, ?_⟩
    -- what stands in for an element has a name of its own, or goes by that of the element
    dsimp only
    split
    next => exact ⟨_, named, chain⟩
    next =>
      cases called : (model.node other).name with
      | some name => exact ⟨other, called, further⟩
      | none => exact ⟨_, named, chain⟩
  next => exact plain listed

theorem takes_global (shaped : model.Shaped) (housed : model.namespaces.Housed model.scopes)
    {user : NamespaceId} (within : user.index < model.namespaces.size) {kind : Symbols}
    {member : Member} (listed : member ∈ model.globals user kind) :
    model.Takes (some user) member := by
  obtain ⟨entry, inside, rfl⟩ := List.mem_map.mp listed
  have own : entry.2.inherited = false := by
    -- the scope of a type stands in that of a tag, and not in that of the built-in types
    refine Bool.eq_false_iff.mpr fun inherited => ?_
    have stocks := covered.entries _ kind entry.1 entry.2 (Table.get?_of_mem _ inside)
    rw [inherited] at stocks
    obtain ⟨type, tag, isType, same⟩ := stocks
    have plain : (model.node type).kind ≠ .schema := by
      intro schema
      rw [schema] at isType
      cases isType
    obtain ⟨parent, stands, -⟩ := shaped.parent_of_kind tag plain
    have around := stands.scope
    rw [same, housed.rooted.around user within] at around
    exact shaped.scope_ne_builtin stands.tag (Option.some.inj around).symm
  obtain ⟨named, chain⟩ := covered.takes_entry filed inside own
  rw [housed.home user within] at chain
  exact ⟨chain, _, named, chain⟩

end Covered

end

end Model

section

variable {model : Model} {label : String}

mutual

theorem TypeView.Names.traces (covered : model.Covered) (filed : model.Filed)
    {view : TypeView} (names : view.Names label) :
    ∀ {around : List NodeId} {id : NodeId}, view = model.typeView around id ->
      model.Traces (model.home id) label := by
  -- by how the name comes to be printed; the stack of types around does not matter
  match names with
  | .own printed =>
      intro around id same
      rw [same, Model.typeView_eq] at printed
      exact covered.traces_typeLabels printed
  | @TypeView.Names.member _ _ kind shown listed inner =>
      intro around id same
      have inside : ∃ member ∈ model.own id kind,
          model.memberView false (id :: around) (model.nested (id :: around)) member = shown := by
        rw [same, Model.typeView_eq] at listed
        cases kind with
        | attributes => exact List.mem_map.mp listed
        | elements => exact List.mem_map.mp listed
        | _ => cases listed
      obtain ⟨member, own, shape⟩ := inside
      refine inner.traces covered filed (covered.takes_own filed own)
        (fun type view there => ?_) shape.symm
      unfold Model.nested at there
      exact ⟨_, (Option.some.inj (Option.ite_none_right_eq_some.mp there).2).symm⟩

theorem MemberView.Names.traces (covered : model.Covered) (filed : model.Filed)
    {shown : MemberView} (names : shown.Names label) :
    ∀ {home : Option NamespaceId} {ofGlobals : Bool} {around : List NodeId}
      {expand : NodeId -> Option TypeView} {member : Member}, model.Takes home member ->
      (∀ type view, expand type = some view -> ∃ stack, view = model.typeView stack type) ->
      shown = model.memberView ofGlobals around expand member -> model.Traces home label := by
  match names with
  | .own printed =>
      intro home ofGlobals around expand member takes expands same
      rw [same] at printed
      exact covered.traces_member takes printed
  | @MemberView.Names.inner _ _ view carries inner =>
      intro home ofGlobals around expand member takes expands same
      rw [same] at carries
      obtain ⟨type, nameless, expanded⟩ := Option.bind_eq_some_iff.mp carries
      -- the nameless type belongs where it stands, and the namespace has taken its member in
      obtain ⟨stack, shape⟩ := expands type view expanded
      exact (inner.traces covered filed shape).along
        (takes.node.trans (covered.draws_nameless (Model.namelessOf_eq_some.mp nameless)))

end

theorem NamespaceView.Names.traces (covered : model.Covered) (filed : model.Filed)
    (shaped : model.Shaped)
    (housed : model.namespaces.Housed model.scopes) {user : NamespaceId}
    (within : user.index < model.namespaces.size)
    (names : (model.namespaceView user).Names label) : model.Traces (some user) label := by
  cases names with
  | member listed inner =>
      have inside {kind : Symbols} {shown : MemberView} (inner : shown.Names label)
          (there : shown ∈ (model.globals user kind).map model.globalView) :
          model.Traces (some user) label := by
        obtain ⟨member, inside, shape⟩ := List.mem_map.mp there
        have takes := covered.takes_global filed shaped housed within inside
        refine inner.traces covered filed takes (fun type view there => ?_)
          shape.symm
        exact ⟨[], (Option.some.inj there).symm⟩
      rcases List.mem_append.mp listed with element | attribute_
      · exact inside inner element
      · exact inside inner attribute_
  | type listed inner =>
      obtain ⟨member, inside, shape⟩ := List.mem_map.mp listed
      have takes := covered.takes_global filed shaped housed within inside
      exact (inner.traces covered filed shape.symm).along takes.node

end

namespace Model

def Imports (model : Model) (user space : NamespaceId) : Prop :=
  space = user ∨ ∃ name ∈ (model.namespaceView user).references,
    (model.namespaces.get space).name = some name

def BelongsTo (model : Model) (target : NodeId) (space : NamespaceId) : Prop :=
  model.home target = some space ∨ ∃ name, (model.node target).name = some name ∧
    (model.namespaces.get space).name = some name.uriText

def Nameable (model : Model) (user : NamespaceId) (target : NodeId) : Prop :=
  (model.node target).isBuiltin = true ∨
    ∃ space, model.BelongsTo target space ∧ model.Imports user space

/-- A namespace lists whatever those list that it takes something in from. -/
def SelfContained (model : Model) (user : NamespaceId) : Prop :=
  ∀ used, Relation.ReflTransGen model.Draws (some user) (some used) ->
    ∀ space, model.Imports used space -> model.Imports user space

section

variable {model : Model} {user : NamespaceId} {target : NodeId}

theorem SelfContained.of_alone
    (alone : ∀ other, model.Draws (some user) other -> other = some user) :
    model.SelfContained user := by
  have stays (other : Option NamespaceId)
      (chain : Relation.ReflTransGen model.Draws (some user) other) : other = some user := by
    induction chain with
    | refl => rfl
    | tail before draws ih =>
        rw [ih] at draws
        exact alone _ draws
  intro used chain
  cases stays (some used) chain
  exact fun _ imports => imports

theorem names_substitute {id head other : NodeId} {name label : QName} {occurs : Occurs}
    (listed : (label, ⟨head, occurs, false⟩) ∈
      (model.scopes.table (model.node id).scope .elements).entries)
    (stands : other ∈ (model.node head).substitutes)
    (concrete : (model.node other).isAbstract = false) (apart : other ≠ head)
    (named : (model.node other).name = some name) (around : List NodeId) :
    (model.typeView around id).Names name.text := by
  have alternative : other ∈ model.alternatives head :=
    mem_alternatives.mpr ⟨.single stands, concrete⟩
  have own : ∃ member ∈ model.own id .elements, member.name = name := by
    refine ⟨_, List.mem_filter.mpr ⟨List.mem_flatMap.mpr
      ⟨_, listed, List.mem_map_of_mem alternative⟩, rfl⟩, ?_⟩
    simp [apart, named]
  obtain ⟨member, inside, rfl⟩ := own
  rw [typeView_eq]
  refine @TypeView.Names.member _ _ .elements _ (List.mem_map_of_mem inside) (.own ?_)
  exact List.mem_cons_self

theorem nameable_of_covers
    (known : ∀ {name id}, model.namespaces.find name = some id ->
      (model.namespaces.get id).name = some name)
    (covers : model.Covers (some user) target) : model.Nameable user target := by
  rcases covers with own | ⟨name, named, builtin | ⟨_, ⟨⟩, used, found, listed⟩⟩
  · exact .inr ⟨user, .inl own, .inl rfl⟩
  · exact .inl builtin
  · refine .inr ⟨used, .inr ⟨name, named, known found⟩, listed.imp_right fun member => ?_⟩
    exact ⟨name.uriText, List.mem_filterMap.mpr ⟨used, member, known found⟩, known found⟩

end

theorem home_of_name {model : Model} (allotted : model.Allotted)
    (sourced : ∀ id, model.IsTag id -> (model.node id).source ≠ none) (primitive : model.Primitive)
    {id : NodeId} {name : QName} (named : (model.node id).name = some name) :
    (model.node id).isBuiltin = true ∨ model.home id ≠ none := by
  by_cases below : id.index < Builtin.nodes.length
  next =>
    obtain ⟨localName, -, same⟩ :=
      List.mem_map.mp (List.mem_of_getElem? (primitive.nodes id below))
    refine .inl ?_
    rw [← same]
    rfl
  next =>
    have within : id.index < model.nodes.size := by
      refine Nat.not_le.mp fun outside => ?_
      rw [node_of_size_le model outside] at named
      cases named
    have tag : model.IsTag id := ⟨Nat.not_lt.mp below, within⟩
    obtain ⟨source, own⟩ := Option.ne_none_iff_exists'.mp (sourced id tag)
    obtain ⟨-, kind, symbols, -⟩ := allotted.names id source name own named
    have plain : (model.node id).kind ≠ .schema := by
      intro schema
      rw [schema] at symbols
      cases symbols
    obtain ⟨source, -, home, -⟩ := home_of_tag allotted sourced tag plain
    refine .inr ?_
    rw [home]
    exact Option.some_ne_none _

end Model

namespace Compilation

/-- What a view says is used, and what it prints. Whatever a tag refers to and the types that it has
can be named in the namespace of the tag. So a name that is printed for a namespace can be used there
or in another one that things have been taken in from, step by step: it can be used there itself if the
namespace lists what those list. -/
theorem compile_imports {options : Options} {fetch : Fetch} {url : Url} {compilation : Compilation}
    (compiled : compile options fetch url = .ok compilation) :
    (∀ id user, compilation.model.home id = some user ->
      ∀ target ∈ (compilation.model.node id).leads, compilation.model.Nameable user target) ∧
    ∀ user ∈ compilation.model.definedNamespaces, ∀ label,
      (compilation.model.namespaceView user).Names label ->
        (∃ name : QName, label = "unresolved:" ++ name.text) ∨
        ∃ target name, (compilation.model.node target).name = some name ∧ label = name.text ∧
          (∃ used, Relation.ReflTransGen compilation.model.Draws (some user) (some used) ∧
            compilation.model.Nameable used target) ∧
          (compilation.model.SelfContained user -> compilation.model.Nameable user target) := by
  obtain ⟨read, gathered, sound, rfl⟩ := compile_ok compiled
  have changes := (gather_arrives gathered).changes
  have covered := covered_resolve gathered
  have alike := sound.ended.alike
  have known {name : String} {id : NamespaceId}
      (found : read.resolve.model.namespaces.find name = some id) :
      (read.resolve.model.namespaces.get id).name = some name := by
    refine (congrArg Namespace.name (alike.registry.core id) :).trans ?_
    unfold Namespaces.find at found
    rw [alike.registry.byName] at found
    exact (changes.indexed.find name id).mp found
  refine ⟨fun id user home target member => ?_, fun user defined label names => ?_⟩
  · have covers := covered.leads id target member
    rw [home] at covers
    exact Model.nameable_of_covers known covers
  · have within : user.index < read.resolve.model.namespaces.size := by
      obtain ⟨index, inside, rfl⟩ := List.mem_map.mp (List.mem_of_mem_filter defined)
      exact List.mem_range.mp inside
    refine (names.traces covered sound.ended.filed
      (alike.shaped sound.gathered.shaped) (alike.housed changes.allotted.housed) within).imp_right ?_
    rintro ⟨target, name, used, named, same, chain, covers⟩
    refine ⟨target, name, named, same, ?_⟩
    -- nothing that is in no namespace has a name, but for the built-in types
    have there : ∃ used, Relation.ReflTransGen read.resolve.model.Draws (some user) (some used) ∧
        read.resolve.model.Nameable used target := by
      cases used with
      | some used => exact ⟨used, chain, Model.nameable_of_covers known covers⟩
      | none =>
          refine ⟨user, .refl, .inl ?_⟩
          rcases covers with own | ⟨_, -, builtin | ⟨_, ⟨⟩, -⟩⟩
          · rw [alike.name] at named
            rw [alike.home] at own
            have builtin := (Model.home_of_name changes.allotted changes.owned.tags
              (Model.primitive_empty.spared changes.spares) named).resolve_right (absurd own)
            exact (alike.isBuiltin target).trans builtin
          · exact builtin
    refine ⟨there, fun contained => ?_⟩
    obtain ⟨used, chain, nameable⟩ := there
    refine nameable.imp_right ?_
    rintro ⟨space, belongs, imports⟩
    exact ⟨space, belongs, contained used chain space imports⟩

def Paired (read : Compilation) : Prop :=
  read.documents.size = 2 ∧ (read.document ⟨0⟩).dependencies = #[⟨1⟩] ∧
    (read.document ⟨1⟩).dependencies = #[]

instance (read : Compilation) : Decidable read.Paired :=
  inferInstanceAs (Decidable (_ ∧ _ ∧ _))

theorem order_of_paired {read : Compilation} (paired : read.Paired) :
    read.order = [⟨1⟩, ⟨0⟩] := by
  obtain ⟨size, first, second⟩ := paired
  have outer : read.graph.successors 0 = [1] := by
    simp [Graph.successors, graph, size, first]
  have inner : read.graph.successors 1 = [] := by
    simp [Graph.successors, graph, size, second]
  simp [order, Graph.postorder, size, List.range_succ, Graph.walk, outer, inner]

theorem compile_of_paired {fetch : Fetch} {url : Url} {holds : Model -> Prop} [DecidablePred holds]
    (count : Nat)
    (checked : (Gathering.start .standard fetch url).toOption.any (fun gathering =>
      ((Gathering.advance .standard fetch)^[count] gathering).requests = [] ∧
        ((Gathering.advance .standard fetch)^[count] gathering).compilation.Paired ∧
          holds (((Gathering.advance .standard fetch)^[count] gathering).compilation.model.runAll
            (((Gathering.advance .standard fetch)^[count] gathering).compilation.duties ⟨1⟩ ++
              ((Gathering.advance .standard fetch)^[count] gathering).compilation.duties ⟨0⟩))) =
        true) :
    ∃ compilation, compile .standard fetch url = .ok compilation ∧ holds compilation.model := by
  obtain ⟨read, gathered, paired, there⟩ := @gather_of_served .standard fetch url
    (fun read => read.Paired ∧
      holds (read.model.runAll (read.duties ⟨1⟩ ++ read.duties ⟨0⟩))) _ count checked
  refine ⟨read.resolve, compile_of_gather gathered, ?_⟩
  rw [(resolve_eq read).1, agenda, order_of_paired paired]
  simpa using there

def substituteText : String :=
  "<schema xmlns='http://www.w3.org/2001/XMLSchema' xmlns:n='n' targetNamespace='m'>" ++
    "<import namespace='n' schemaLocation='b.xsd'/>" ++
    "<element name='s' substitutionGroup='n:e'/></schema>"

def headText : String :=
  "<schema xmlns='http://www.w3.org/2001/XMLSchema' xmlns:n='n' targetNamespace='n'>" ++
    "<element name='e'/>" ++
    "<complexType name='t'><sequence><element ref='n:e'/></sequence></complexType></schema>"

def servingSubstitute : Fetch := fun url =>
  if url.text = rootUrl.text then .ok ⟨substituteText.toUTF8.toList, rootUrl⟩
  else .ok ⟨headText.toUTF8.toList, Gathering.partUrl⟩

set_option maxRecDepth 100000 in
theorem compile_substitute :
    ∃ compilation : Compilation, compile .standard servingSubstitute rootUrl = .ok compilation ∧
      (⟨1⟩ : NamespaceId) ∈ compilation.model.definedNamespaces ∧
      (⟨2⟩ : NamespaceId) ∈ compilation.model.definedNamespaces ∧
      (compilation.model.namespaces.get ⟨1⟩).name = some "m" ∧
      (compilation.model.namespaces.get ⟨2⟩).references = [] ∧
      (compilation.model.node ⟨48⟩).name = some ⟨some "m", "s"⟩ ∧
      compilation.model.home ⟨48⟩ = some ⟨1⟩ ∧
      (compilation.model.node ⟨48⟩).isBuiltin = false ∧
      compilation.model.globals ⟨1⟩ .elements = [⟨⟨some "m", "s"⟩, ⟨48⟩, .once, false⟩] ∧
      (compilation.model.namespaceView ⟨2⟩).Names "{m}s" ∧
      compilation.model.SelfContained ⟨1⟩ := by
  obtain ⟨compilation, compiled, first, second, name, references, named, home, plain, elements, types,
      body, stands, concrete, apart⟩ := @compile_of_paired servingSubstitute rootUrl
    (fun model => (⟨1⟩ : NamespaceId) ∈ model.definedNamespaces ∧
      (⟨2⟩ : NamespaceId) ∈ model.definedNamespaces ∧
      (model.namespaces.get ⟨1⟩).name = some "m" ∧
      (model.namespaces.get ⟨2⟩).references = [] ∧
      (model.node ⟨48⟩).name = some ⟨some "m", "s"⟩ ∧ model.home ⟨48⟩ = some ⟨1⟩ ∧
      (model.node ⟨48⟩).isBuiltin = false ∧
      model.globals ⟨1⟩ .elements = [⟨⟨some "m", "s"⟩, ⟨48⟩, .once, false⟩] ∧
      model.globals ⟨2⟩ .types = [⟨⟨some "n", "t"⟩, ⟨51⟩, .once, false⟩] ∧
      (⟨some "n", "e"⟩, ⟨⟨50⟩, .once, false⟩) ∈
        (model.scopes.table (model.node ⟨51⟩).scope .elements).entries ∧
      (⟨48⟩ : NodeId) ∈ (model.node ⟨50⟩).substitutes ∧
      (model.node ⟨48⟩).isAbstract = false ∧
      ∀ id ∈ (List.range model.nodes.size).map NodeId.mk, model.home id = some ⟨1⟩ ->
        (model.node id).referent = none ∧ (model.node id).substitutes = [])
    _ 1 (by
      unfold servingSubstitute
      rw [toList_bytes, toList_bytes]
      decide +kernel)
  refine ⟨compilation, compiled, first, second, name, references, named, home, plain, elements, ?_, ?_⟩
  · refine .type (List.mem_map_of_mem (types ▸ List.mem_singleton_self _)) ?_
    exact Model.names_substitute body stands concrete (by decide) named []
  · refine .of_alone fun other draws => ?_
    have bare (id : NodeId) (same : some ⟨1⟩ = compilation.model.home id) :
        (compilation.model.node id).referent = none ∧
          (compilation.model.node id).substitutes = [] := by
      by_cases within : id.index < compilation.model.nodes.size
      next => exact apart id (List.mem_map.mpr ⟨_, List.mem_range.mpr within, rfl⟩) same.symm
      next =>
        rw [Model.node_of_size_le _ (Nat.not_lt.mp within)]
        exact ⟨rfl, rfl⟩
    generalize start : (some ⟨1⟩ : Option NamespaceId) = user at draws
    cases draws with
    | refers refers => cases (bare _ start).1.symm.trans refers
    | @replaces id head listed =>
        rw [(bare head start).2] at listed
        cases listed

theorem compile_imports_missing :
    ∃ compilation : Compilation, compile .standard servingSubstitute rootUrl = .ok compilation ∧
      ∃ user ∈ compilation.model.definedNamespaces, ∃ space ∈ compilation.model.definedNamespaces,
        space ≠ user ∧ ∃ target name, compilation.model.home target = some space ∧
          (compilation.model.node target).name = some name ∧
          (compilation.model.node target).isBuiltin = false ∧
          (compilation.model.namespaceView space).name = name.uriText ∧
          (compilation.model.namespaceView user).Names name.text ∧
          (compilation.model.namespaceView space).name ∉
            (compilation.model.namespaceView user).references := by
  obtain ⟨compilation, compiled, first, second, name, references, named, home, plain, -, names, -⟩ :=
    compile_substitute
  refine ⟨compilation, compiled, ⟨2⟩, second, ⟨1⟩, first, by decide, ⟨48⟩, _, home, named, plain,
    ?_, names, ?_⟩
  · simp [Model.namespaceView, name, QName.uriText]
  · simp [Model.namespaceView, references]

theorem compile_imports_substitute :
    ∃ compilation : Compilation, compile .standard servingSubstitute rootUrl = .ok compilation ∧
      (compilation.model.namespaceView ⟨1⟩).Names "{m}s" ∧
      ∃ target name, (compilation.model.node target).name = some name ∧ "{m}s" = name.text ∧
        compilation.model.Nameable ⟨1⟩ target := by
  obtain ⟨compilation, compiled, first, -, -, -, -, -, -, elements, -, contained⟩ :=
    compile_substitute
  have names : (compilation.model.namespaceView ⟨1⟩).Names "{m}s" := by
    refine .member (List.mem_append_left _ (List.mem_map_of_mem
      (elements ▸ List.mem_singleton_self _))) (.own ?_)
    exact List.mem_cons_self
  obtain ⟨-, printed⟩ := compile_imports compiled
  refine ⟨compilation, compiled, names, ?_⟩
  rcases printed ⟨1⟩ first "{m}s" names with ⟨name, unresolved⟩ | ⟨target, name, named, same, -, there⟩
  · have letters := congrArg String.toList unresolved
    rw [String.toList_append] at letters
    cases letters
  · exact ⟨target, name, named, same, there contained⟩

end Compilation

end XmlSchema

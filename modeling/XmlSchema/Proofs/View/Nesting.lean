import XmlSchema.Proofs.Documents.Exposure
import XmlSchema.Proofs.Content.Substitution
import XmlSchema.View.Basic

set_option autoImplicit false

namespace XmlSchema

def TypeView.listed (view : TypeView) : Symbols -> List MemberView
  | .attributes => view.attributes
  | .elements => view.elements
  | _ => []

namespace Model

section

variable {model : Model}

/-- A member has a nameless type of its own that is to be written out where the member is listed. -/
def Inlines (model : Model) (ofGlobals : Bool) (id type : NodeId) : Prop :=
  model.typeOf id = some (.resolved type) ∧ (model.node type).name = none ∧
    (ofGlobals = true ∨ model.isGlobal id = false)

theorem namelessOf_eq_some {ofGlobals : Bool} {id type : NodeId} :
    model.namelessOf ofGlobals id = some type ↔ model.Inlines ofGlobals id type := by
  unfold namelessOf Inlines
  split
  next target same =>
    rw [same]
    simp
    grind
  next other =>
    constructor
    · nofun
    · exact fun inlines => absurd inlines.1 (other type)

def memberWith (model : Model) (member : Member) (nameless : Option TypeView) (isRecursive : Bool) :
    MemberView :=
  { name := member.name.text
    typeName := (model.typeOf member.node).bind model.typeLabel
    nameless := nameless
    isRecursive := isRecursive
    isGlobal := model.isGlobal member.node
    occurs := member.occurs
    documentation := (model.node member.node).documentation }

def typeWith (model : Model) (id : NodeId) (attributes elements : List MemberView) : TypeView :=
  let node := model.node id
  { name := node.name.map QName.text
    category := category node
    parent := node.base.bind model.typeLabel
    derivation := node.derivation
    isAbstract := node.isAbstract
    attributes := attributes
    elements := elements
    anyContent := node.anyContent
    anyAttribute := node.anyAttribute
    enumeration := node.enumeration
    itemType := model.itemType node
    memberTypes := model.memberTypes node
    documentation := node.documentation }

mutual

/-- Writing out a type: it is pushed on the stack, its attributes and then its elements are written,
and the stack is popped. The last list is the stack that is left. -/
inductive WritesType (model : Model) : List NodeId -> NodeId -> TypeView -> List NodeId -> Prop where
  | type {stack between after id attributes elements}
      (first : WritesMembers model (id :: stack) (model.own id .attributes) attributes between)
      (second : WritesMembers model between (model.own id .elements) elements after) :
      WritesType model stack id (model.typeWith id attributes elements) after.tail

inductive WritesMembers (model : Model) :
    List NodeId -> List Member -> List MemberView -> List NodeId -> Prop where
  | nil {stack} : WritesMembers model stack [] [] stack
  | cons {stack between after member shown members views}
      (first : WritesMember model false stack member shown between)
      (rest : WritesMembers model between members views after) :
      WritesMembers model stack (member :: members) (shown :: views) after

inductive WritesMember (model : Model) :
    Bool -> List NodeId -> Member -> MemberView -> List NodeId -> Prop where
  | plain {ofGlobals stack member} (named : ∀ type, ¬ model.Inlines ofGlobals member.node type) :
      WritesMember model ofGlobals stack member (model.memberWith member none false) stack
  | recursive {ofGlobals stack member type} (inlines : model.Inlines ofGlobals member.node type)
      (around : type ∈ stack) :
      WritesMember model ofGlobals stack member (model.memberWith member none true) stack
  | expands {ofGlobals stack after member type view}
      (inlines : model.Inlines ofGlobals member.node type) (apart : type ∉ stack)
      (inner : WritesType model stack type view after) :
      WritesMember model ofGlobals stack member (model.memberWith member (some view) false) after

end

def nested (model : Model) (stack : List NodeId) (type : NodeId) : Option TypeView :=
  if type.index < model.nodes.size ∧ type.index ∉ stack.map NodeId.index then
    some (model.typeView stack type)
  else none

theorem typeView_eq (model : Model) (around : List NodeId) (id : NodeId) :
    model.typeView around id = model.typeWith id
      ((model.own id .attributes).map (model.memberView false (id :: around)
        (model.nested (id :: around))))
      ((model.own id .elements).map (model.memberView false (id :: around)
        (model.nested (id :: around)))) := by
  rw [typeView]
  rfl

def Typed (model : Model) : Prop :=
  ∀ id type, model.typeOf id = some (.resolved type) -> type.index < model.nodes.size

theorem Contained.typed (contained : model.Contained) : model.Typed := by
  intro id type there
  have typed (other : NodeId) (same : (model.node other).typeRef = some (.resolved type)) :
      type.index < model.nodes.size := by
    refine @within_of_type model contained other type ?_
    simp [Node.types, same]
  unfold typeOf at there
  dsimp only at there
  split at there <;> exact typed _ there

theorem memberView_of_not_inlines {ofGlobals : Bool} {stack : List NodeId}
    {expand : NodeId -> Option TypeView} {member : Member}
    (named : ∀ type, ¬ model.Inlines ofGlobals member.node type) :
    model.memberView ofGlobals stack expand member = model.memberWith member none false := by
  have none_ : model.namelessOf ofGlobals member.node = none :=
    Option.eq_none_iff_forall_ne_some.mpr fun type same =>
      named type (namelessOf_eq_some.mp same)
  simp [memberView, memberWith, none_]

theorem memberView_of_inlines {ofGlobals : Bool} {stack : List NodeId}
    {expand : NodeId -> Option TypeView} {member : Member} {type : NodeId}
    (inlines : model.Inlines ofGlobals member.node type) :
    model.memberView ofGlobals stack expand member =
      model.memberWith member (expand type) (stack.contains type) := by
  have nameless := namelessOf_eq_some.mpr inlines
  simp [memberView, memberWith, nameless]

theorem nested_of_inlines (typed : model.Typed) {ofGlobals : Bool} {id type : NodeId}
    (stack : List NodeId) (inlines : model.Inlines ofGlobals id type) :
    model.nested stack type = if type ∈ stack then none else some (model.typeView stack type) := by
  have within := typed id type inlines.1
  unfold nested
  simp only [within, true_and, index_mem_map]
  split <;> simp_all

mutual

theorem WritesType.unique (typed : model.Typed) {stack after : List NodeId} {id : NodeId}
    {view : TypeView} (writes : model.WritesType stack id view after) :
    view = model.typeView stack id ∧ after = stack := by
  cases writes with
  | type first second =>
      obtain ⟨rfl, rfl⟩ := first.unique typed
      obtain ⟨rfl, rfl⟩ := second.unique typed
      exact ⟨(model.typeView_eq stack id).symm, rfl⟩

theorem WritesMembers.unique (typed : model.Typed) {stack after : List NodeId}
    {members : List Member} {views : List MemberView}
    (writes : model.WritesMembers stack members views after) :
    views = members.map (model.memberView false stack (model.nested stack)) ∧ after = stack := by
  cases writes with
  | nil => exact ⟨rfl, rfl⟩
  | cons first rest =>
      obtain ⟨rfl, rfl⟩ := first.unique typed
      obtain ⟨rfl, rfl⟩ := rest.unique typed
      exact ⟨rfl, rfl⟩

theorem WritesMember.unique (typed : model.Typed) {ofGlobals : Bool} {stack after : List NodeId}
    {member : Member} {view : MemberView}
    (writes : model.WritesMember ofGlobals stack member view after) :
    view = model.memberView ofGlobals stack (model.nested stack) member ∧ after = stack := by
  cases writes with
  | plain named => exact ⟨(memberView_of_not_inlines named).symm, rfl⟩
  | recursive inlines around =>
      rw [memberView_of_inlines inlines, nested_of_inlines typed _ inlines]
      simp [around]
  | expands inlines apart inner =>
      obtain ⟨rfl, rfl⟩ := inner.unique typed
      rw [memberView_of_inlines inlines, nested_of_inlines typed _ inlines]
      simp [apart]

end

section

variable (typed : model.Typed)
include typed

theorem writesMember {stack : List NodeId}
    (inner : ∀ type : NodeId, type.index < model.nodes.size -> type ∉ stack ->
      model.WritesType stack type (model.typeView stack type) stack)
    (ofGlobals : Bool) (member : Member) :
    model.WritesMember ofGlobals stack member
      (model.memberView ofGlobals stack (model.nested stack) member) stack := by
  by_cases nameless : ∃ type, model.Inlines ofGlobals member.node type
  next =>
    obtain ⟨type, inlines⟩ := nameless
    rw [memberView_of_inlines inlines, nested_of_inlines typed _ inlines]
    by_cases around : type ∈ stack
    · simpa [around] using WritesMember.recursive inlines around
    · simpa [around] using WritesMember.expands inlines around
        (inner type (typed _ type inlines.1) around)
  next =>
    have named := not_exists.mp nameless
    rw [memberView_of_not_inlines named]
    exact .plain named

theorem writesMembers {stack : List NodeId}
    (inner : ∀ type : NodeId, type.index < model.nodes.size -> type ∉ stack ->
      model.WritesType stack type (model.typeView stack type) stack) (members : List Member) :
    model.WritesMembers stack members
      (members.map (model.memberView false stack (model.nested stack))) stack := by
  induction members with
  | nil => exact .nil
  | cons member rest ih => exact .cons (writesMember typed inner false member) ih

/-- Writing comes to an end: what is written out inside a type is one node less to write out. -/
theorem writesType (stack : List NodeId) (id : NodeId) :
    model.WritesType stack id (model.typeView stack id) stack := by
  have inner (type : NodeId) (within : type.index < model.nodes.size) (apart : type ∉ id :: stack) :
      model.WritesType (id :: stack) type (model.typeView (id :: stack) type) (id :: stack) :=
    writesType (id :: stack) type
  rw [typeView_eq]
  exact .type (writesMembers typed inner _) (writesMembers typed inner _)
termination_by Graph.unseen model.nodes.size ((id :: stack).map NodeId.index)
decreasing_by exact Graph.unseen_cons_lt within fun member => apart (index_mem_map.mp member)

theorem writesType_iff {stack after : List NodeId} {id : NodeId} {view : TypeView} :
    model.WritesType stack id view after ↔ view = model.typeView stack id ∧ after = stack := by
  constructor
  · exact fun writes => writes.unique typed
  · rintro ⟨rfl, rfl⟩
    exact writesType typed after id

theorem writesMember_iff {ofGlobals : Bool} {stack after : List NodeId} {member : Member}
    {view : MemberView} :
    model.WritesMember ofGlobals stack member view after ↔
      view = model.memberView ofGlobals stack (model.nested stack) member ∧ after = stack := by
  constructor
  · exact fun writes => writes.unique typed
  · rintro ⟨rfl, rfl⟩
    exact writesMember typed (fun type _ _ => writesType typed after type) ofGlobals member

theorem globalView_eq (member : Member) :
    model.globalView member = model.memberView true [] (model.nested []) member := by
  unfold globalView
  by_cases nameless : ∃ type, model.Inlines true member.node type
  next =>
    obtain ⟨type, inlines⟩ := nameless
    rw [memberView_of_inlines inlines, memberView_of_inlines inlines,
      nested_of_inlines typed _ inlines]
    simp
  next =>
    have named := not_exists.mp nameless
    rw [memberView_of_not_inlines named, memberView_of_not_inlines named]

end

theorem own_of_alone {id : NodeId} {entry : QName × Definition}
    (alone : (model.scopes.table (model.node id).scope .elements).entries = [entry])
    (plain : (model.node entry.2.target).substitutes = [])
    (concrete : (model.node entry.2.target).isAbstract = false)
    (here : entry.2.inherited = false) : model.own id .elements = [Member.ofEntry entry] := by
  have below : model.Explores [entry.2.target] (model.node entry.2.target).substitutes [] := by
    rw [plain]
    exact .nil
  have explores := @Explores.fresh model [] entry.2.target [] [] [] (by simp) below .nil
  have found : model.alternatives entry.2.target = [entry.2.target] := by
    simp [explores.alternatives, Model.concrete, concrete]
  simp [own, members, alone, expand, found, here, Member.ofEntry]

structure WritesNamespace (model : Model) (id : NamespaceId) (view : NamespaceView) : Prop where
  name : view.name = (model.namespaces.get id).name.getD ""
  url : view.url = (model.namespaces.get id).url
  short : view.short = (model.namespaces.get id).short
  references : view.references =
    (model.namespaces.get id).references.filterMap fun used => (model.namespaces.get used).name
  elements : List.Forall₂ (fun member shown => model.WritesMember true [] member shown [])
    (model.globals id .elements) view.elements
  attributes : List.Forall₂ (fun member shown => model.WritesMember true [] member shown [])
    (model.globals id .attributes) view.attributes
  types : List.Forall₂ (fun member shown => model.WritesType [] member.node shown [])
    (model.globals id .types) view.types

theorem forall₂_eq_map {α β : Type} {f : α -> β} {as : List α} {bs : List β} :
    List.Forall₂ (fun a b => b = f a) as bs ↔ bs = as.map f := by
  induction as generalizing bs with
  | nil => simp
  | cons a rest ih => cases bs <;> simp [ih]

theorem writesNamespace_iff (typed : model.Typed) {id : NamespaceId} {view : NamespaceView} :
    model.WritesNamespace id view ↔ view = model.namespaceView id := by
  have members {kind : Symbols} {views : List MemberView} :
      List.Forall₂ (fun member shown => model.WritesMember true [] member shown [])
        (model.globals id kind) views ↔ views = (model.globals id kind).map model.globalView := by
    simp only [writesMember_iff typed, ← globalView_eq typed, and_true, forall₂_eq_map]
  have types {views : List TypeView} :
      List.Forall₂ (fun member shown => model.WritesType [] member.node shown [])
        (model.globals id .types) views ↔
        views = (model.globals id .types).map fun member => model.typeView [] member.node := by
    simp only [writesType_iff typed, and_true, forall₂_eq_map]
  constructor
  · intro writes
    obtain ⟨name, url, short, references, elements, attributes, types_⟩ := view
    simp only [namespaceView, NamespaceView.mk.injEq]
    exact ⟨writes.name, writes.url, writes.short, writes.references, members.mp writes.elements,
      members.mp writes.attributes, types.mp writes.types⟩
  · rintro rfl
    exact ⟨rfl, rfl, rfl, rfl, members.mpr rfl, members.mpr rfl, types.mpr rfl⟩

structure Marks (model : Model) (ofGlobals : Bool) (around : List NodeId) (member : Member)
    (shown : MemberView) : Prop where
  recursive : shown.isRecursive = true ↔
    ∃ type, model.Inlines ofGlobals member.node type ∧ type ∈ around
  carries : ∀ inner, shown.nameless = some inner ↔
    ∃ type, model.Inlines ofGlobals member.node type ∧ type ∉ around ∧
      inner = model.typeView around type

theorem Inlines.unique {ofGlobals : Bool} {id type other : NodeId}
    (inlines : model.Inlines ofGlobals id type) (again : model.Inlines ofGlobals id other) :
    type = other :=
  TypeRef.resolved.inj (Option.some.inj (inlines.1.symm.trans again.1))

theorem marks_memberView (typed : model.Typed) (ofGlobals : Bool) (around : List NodeId)
    (member : Member) :
    model.Marks ofGlobals around member
      (model.memberView ofGlobals around (model.nested around) member) := by
  by_cases nameless : ∃ type, model.Inlines ofGlobals member.node type
  next =>
    obtain ⟨type, inlines⟩ := nameless
    have only (other : NodeId) : model.Inlines ofGlobals member.node other ↔ other = type :=
      ⟨fun again => again.unique inlines, fun same => same ▸ inlines⟩
    rw [memberView_of_inlines inlines, nested_of_inlines typed _ inlines]
    constructor
    · simp [memberWith, only]
    · by_cases inside : type ∈ around <;> simp [memberWith, only, inside, eq_comm]
  next =>
    have named := not_exists.mp nameless
    rw [memberView_of_not_inlines named]
    constructor <;> simp [memberWith, named]

theorem marks_typeView (typed : model.Typed) (around : List NodeId) (id : NodeId) {kind : Symbols}
    (listed : kind = .attributes ∨ kind = .elements) :
    List.Forall₂ (model.Marks false (id :: around)) (model.own id kind)
      ((model.typeView around id).listed kind) := by
  have marks (members : List Member) : List.Forall₂ (model.Marks false (id :: around)) members
      (members.map (model.memberView false (id :: around) (model.nested (id :: around)))) := by
    rw [List.forall₂_map_right_iff, List.forall₂_same]
    exact fun member _ => marks_memberView typed ..
  rw [typeView_eq]
  rcases listed with rfl | rfl
  · exact marks _
  · exact marks _

/-- A path of views inside each other, with the types that they are views of, innermost first. -/
inductive Nests (model : Model) : List NodeId -> TypeView -> Prop where
  | root (id : NodeId) : Nests model [id] (model.typeView [] id)
  | inner {around id type outer view kind member shown} (nests : Nests model (id :: around) outer)
      (pair : (member, shown) ∈ (model.own id kind).zip (outer.listed kind))
      (inlines : model.Inlines false member.node type) (carries : shown.nameless = some view) :
      Nests model (type :: id :: around) view

theorem Nests.spec (typed : model.Typed) {path : List NodeId} {view : TypeView}
    (nests : model.Nests path view) :
    path.Nodup ∧ ∀ id around, path = id :: around -> view = model.typeView around id := by
  induction nests with
  | root id =>
      refine ⟨by simp, ?_⟩
      rintro _ _ ⟨⟩
      rfl
  | @inner around id type outer view kind member shown nests pair inlines carries ih =>
      obtain ⟨nodup, same⟩ := ih
      obtain rfl := same id around rfl
      have listed : kind = .attributes ∨ kind = .elements := by
        cases kind <;> simp_all [TypeView.listed]
      -- what a member carries is the view of its own nameless type, which stands nowhere around it
      have marks := (List.forall₂_iff_zip.mp (marks_typeView typed around id listed)).2 pair
      obtain ⟨other, again, apart, rfl⟩ := (marks.carries view).mp carries
      obtain rfl := inlines.unique again
      refine ⟨List.nodup_cons.mpr ⟨apart, nodup⟩, ?_⟩
      rintro _ _ ⟨⟩
      rfl

end

end Model

namespace Compilation

structure Writes (compilation : Compilation) (view : SchemaView) : Prop where
  root : view.root = compilation.rootSource.bind fun source => source.prefixes.targetUri
  namespaces : List.Forall₂ compilation.model.WritesNamespace compilation.model.definedNamespaces
    view.namespaces

theorem writes_iff {compilation : Compilation} (typed : compilation.model.Typed)
    {view : SchemaView} : compilation.Writes view ↔ view = compilation.view := by
  have each : compilation.model.WritesNamespace =
      fun id shown => shown = compilation.model.namespaceView id := by
    funext id shown
    exact propext (Model.writesNamespace_iff typed)
  constructor
  · rintro ⟨root, namespaces⟩
    rw [each, Model.forall₂_eq_map] at namespaces
    obtain ⟨_, _⟩ := view
    simp_all [Compilation.view]
  · rintro rfl
    refine ⟨rfl, ?_⟩
    rw [each, Model.forall₂_eq_map]
    rfl

/-- The view of a compilation is finite and marks recursion. Writing out a type or a member ends with
its view and with the stack as it was, and so the view of the whole is written, too. Where nameless
types are written out inside each other no type comes twice; a member is marked if its nameless type
is one that it stands in, and carries the view of that type otherwise. -/
theorem compile_nests {options : Options} {fetch : Fetch} {url : Url} {compilation : Compilation}
    (compiled : compile options fetch url = .ok compilation) :
    (∀ stack id view after, compilation.model.WritesType stack id view after ↔
      view = compilation.model.typeView stack id ∧ after = stack) ∧
    (∀ ofGlobals stack member view after,
      compilation.model.WritesMember ofGlobals stack member view after ↔
        view = compilation.model.memberView ofGlobals stack (compilation.model.nested stack) member ∧
          after = stack) ∧
    (∀ view, compilation.Writes view ↔ view = compilation.view) ∧
    (∀ path view, compilation.model.Nests path view -> path.Nodup ∧
      ∀ id around, path = id :: around -> view = compilation.model.typeView around id ∧
        ∀ kind, kind = .attributes ∨ kind = .elements ->
          List.Forall₂ (compilation.model.Marks false path) (compilation.model.own id kind)
            (view.listed kind)) ∧
    ∀ home,
      List.Forall₂ (compilation.model.Marks true []) (compilation.model.globals home .attributes)
          (compilation.model.namespaceView home).attributes ∧
        List.Forall₂ (compilation.model.Marks true []) (compilation.model.globals home .elements)
          (compilation.model.namespaceView home).elements := by
  obtain ⟨read, gathered, sound, rfl⟩ := compile_ok compiled
  have contained := sound.contained_resolve (gather_arrives gathered).changes.contained
  have typed := contained.typed
  have globals (members : List Member) : List.Forall₂ (read.resolve.model.Marks true []) members
      (members.map read.resolve.model.globalView) := by
    rw [List.forall₂_map_right_iff, List.forall₂_same]
    intro member _
    rw [Model.globalView_eq typed]
    exact Model.marks_memberView typed ..
  refine ⟨fun _ _ _ _ => Model.writesType_iff typed, fun _ _ _ _ _ => Model.writesMember_iff typed,
    fun _ => writes_iff typed, fun path view nests => ?_, fun home => ⟨globals _, globals _⟩⟩
  obtain ⟨nodup, same⟩ := nests.spec typed
  refine ⟨nodup, fun id around shape => ?_⟩
  obtain rfl := same id around shape
  subst shape
  exact ⟨rfl, fun kind => Model.marks_typeView typed around id⟩

def reachingText : String :=
  "<schema xmlns='http://www.w3.org/2001/XMLSchema' xmlns:t='t' targetNamespace='t'>" ++
    "<group name='g'><choice><element name='i'>" ++
      "<complexType><group ref='t:g' minOccurs='0'/></complexType></element></choice></group>" ++
    "<element name='l'><complexType><group ref='t:g'/></complexType></element></schema>"

set_option maxRecDepth 100000 in
theorem compile_nests_reaching :
    ∃ compilation : Compilation, compile .standard (serving reachingText) someUrl = .ok compilation ∧
      ∃ view, compilation.model.Nests [⟨50⟩, ⟨53⟩] view ∧
        ∃ shown, view.elements = [shown] ∧ shown.isRecursive = true ∧ shown.nameless = none := by
  obtain ⟨compilation, compiled, -, first, second, plain, concrete, typed, unnamed, inner⟩ :=
    @compile_of_checked reachingText (fun model =>
      (model.scopes.table (model.node ⟨53⟩).scope .elements).entries =
          [(⟨some "t", "i"⟩, ⟨⟨49⟩, ⟨0, some 1⟩, false⟩)] ∧
        (model.scopes.table (model.node ⟨50⟩).scope .elements).entries =
          [(⟨some "t", "i"⟩, ⟨⟨49⟩, ⟨0, some 1⟩, false⟩)] ∧
        (model.node ⟨49⟩).substitutes = [] ∧ (model.node ⟨49⟩).isAbstract = false ∧
        model.typeOf ⟨49⟩ = some (.resolved ⟨50⟩) ∧ (model.node ⟨50⟩).name = none ∧
        model.isGlobal ⟨49⟩ = false) _ (by decide +kernel)
  have outside := Model.own_of_alone first plain concrete rfl
  have inside := Model.own_of_alone second plain concrete rfl
  have inlines : compilation.model.Inlines false ⟨49⟩ ⟨50⟩ := ⟨typed, unnamed, .inr inner⟩
  obtain ⟨-, -, -, nests, -⟩ := compile_nests compiled
  -- the type of the list has one element, which carries a type of its own
  obtain ⟨-, marks⟩ := (nests _ _ (.root ⟨53⟩)).2 ⟨53⟩ [] rfl
  have listed := marks .elements (.inr rfl)
  rw [outside] at listed
  obtain ⟨item, others, marked, rest, same⟩ := List.forall₂_cons_left_iff.mp listed
  have carries := (marked.carries _).mpr ⟨⟨50⟩, inlines, by simp, rfl⟩
  have deeper : compilation.model.Nests [⟨50⟩, ⟨53⟩] _ :=
    .inner (.root ⟨53⟩) (by rw [outside, same]; exact List.mem_cons_self) inlines carries
  -- the element stands in that type again
  obtain ⟨-, marks⟩ := (nests _ _ deeper).2 ⟨50⟩ [⟨53⟩] rfl
  have listed := marks .elements (.inr rfl)
  rw [inside] at listed
  obtain ⟨shown, others, marked, rest, same⟩ := List.forall₂_cons_left_iff.mp listed
  cases rest
  refine ⟨compilation, compiled, _, deeper, shown, same, ?_, ?_⟩
  · exact marked.recursive.mpr ⟨⟨50⟩, inlines, by simp⟩
  · refine Option.eq_none_iff_forall_ne_some.mpr fun inner carried => ?_
    obtain ⟨type, again, apart, -⟩ := (marked.carries inner).mp carried
    obtain rfl := inlines.unique again
    exact apart (by simp)

end Compilation

end XmlSchema

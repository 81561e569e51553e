import XmlSchema.Proofs.Documents.Invariants
import XmlSchema.Proofs.Reading.Bounded
import XmlSchema.Proofs.Resolution.Bounded
import XmlSchema.Proofs.Resolution.Completion
import XmlSchema.View.Basic

set_option autoImplicit false

namespace XmlSchema

inductive TypeView.Lists : TypeView -> MemberView -> Prop where
  | here {view : TypeView} {member : MemberView}
      (listed : member ∈ view.attributes ++ view.elements) : Lists view member
  | inside {view inner : TypeView} {outer member : MemberView}
      (listed : outer ∈ view.attributes ++ view.elements) (carries : outer.nameless = some inner)
      (further : Lists inner member) : Lists view member

inductive SchemaView.Exports (view : SchemaView) : MemberView -> Prop where
  | global {entry : NamespaceView} {member : MemberView} (among : entry ∈ view.namespaces)
      (listed : member ∈ entry.elements ++ entry.attributes) : Exports view member
  | inGlobal {entry : NamespaceView} {outer member : MemberView} {inner : TypeView}
      (among : entry ∈ view.namespaces) (listed : outer ∈ entry.elements ++ entry.attributes)
      (carries : outer.nameless = some inner) (further : inner.Lists member) : Exports view member
  | inType {entry : NamespaceView} {type : TypeView} {member : MemberView}
      (among : entry ∈ view.namespaces) (listed : type ∈ entry.types)
      (further : type.Lists member) : Exports view member

namespace Model

variable {model : Model}

namespace Bounded

theorem members (bounded : model.Bounded) {id : NodeId} {kind : Symbols} {member : Member}
    (among : member ∈ model.members id kind) : member.occurs.WellFormed := by
  have plain (there : member ∈ (model.scopes.table (model.node id).scope kind).entries.map
      Member.ofEntry) : member.occurs.WellFormed := by
    obtain ⟨entry, listed, rfl⟩ := List.mem_map.mp there
    exact bounded.scopes _ kind entry listed
  unfold Model.members at among
  dsimp only at among
  split at among
  next =>
    obtain ⟨entry, listed, expanded⟩ := List.mem_flatMap.mp among
    obtain ⟨other, -, rfl⟩ := List.mem_map.mp expanded
    dsimp only
    split
    · exact Occurs.wellFormed_optionalized _
    · exact bounded.scopes _ _ entry listed
  next => exact plain among

theorem globals (bounded : model.Bounded) {home : NamespaceId} {kind : Symbols} {member : Member}
    (among : member ∈ model.globals home kind) : member.occurs.WellFormed := by
  obtain ⟨entry, listed, rfl⟩ := List.mem_map.mp among
  exact bounded.scopes _ kind entry listed

end Bounded

theorem mem_typeView {around : List NodeId} {id : NodeId} {shown : MemberView}
    (listed : shown ∈ (model.typeView around id).attributes ++ (model.typeView around id).elements) :
    (∃ kind, ∃ member ∈ model.members id kind, shown.occurs = member.occurs) ∧
      ∀ inner, shown.nameless = some inner ->
        ∃ type, inner = model.typeView (id :: around) type := by
  have made {kind : Symbols} {expand : NodeId -> Option TypeView}
      (views : ∀ type inner, expand type = some inner -> inner = model.typeView (id :: around) type)
      (there : shown ∈ (model.own id kind).map (model.memberView false (id :: around) expand)) :
      (∃ kind, ∃ member ∈ model.members id kind, shown.occurs = member.occurs) ∧
        ∀ inner, shown.nameless = some inner ->
          ∃ type, inner = model.typeView (id :: around) type := by
    obtain ⟨member, own, rfl⟩ := List.mem_map.mp there
    refine ⟨⟨kind, member, (List.mem_filter.mp own).1, rfl⟩, fun inner carries => ?_⟩
    obtain ⟨type, -, expands⟩ := Option.bind_eq_some_iff.mp carries
    exact ⟨type, views type inner expands⟩
  rw [typeView] at listed
  rcases List.mem_append.mp listed with there | there <;>
  · refine made (fun type inner expands => ?_) there
    split at expands
    · exact (Option.some.inj expands).symm
    · cases expands

theorem Bounded.lists (bounded : model.Bounded) {view : TypeView} {shown : MemberView}
    (lists : view.Lists shown) {around : List NodeId} {id : NodeId}
    (same : view = model.typeView around id) : shown.occurs.WellFormed := by
  induction lists generalizing around id with
  | here listed =>
      subst same
      obtain ⟨⟨kind, member, among, same⟩, -⟩ := mem_typeView listed
      exact same ▸ bounded.members among
  | inside listed carries _ ih =>
      subst same
      obtain ⟨type, same⟩ := (mem_typeView listed).2 _ carries
      exact ih same

end Model

namespace Compilation

theorem exports_bounded {compilation : Compilation} (bounded : compilation.model.Bounded)
    {shown : MemberView} (exported : compilation.view.Exports shown) : shown.occurs.WellFormed := by
  have listed {home : NamespaceId} {outer : MemberView}
      (among : outer ∈ (compilation.model.namespaceView home).elements ++
        (compilation.model.namespaceView home).attributes) :
      outer.occurs.WellFormed ∧ ∀ inner, outer.nameless = some inner ->
        ∃ type, inner = compilation.model.typeView [] type := by
    rcases List.mem_append.mp among with there | there <;>
    · obtain ⟨member, global, rfl⟩ := List.mem_map.mp there
      refine ⟨bounded.globals global, fun inner carries => ?_⟩
      obtain ⟨type, -, expands⟩ := Option.bind_eq_some_iff.mp carries
      exact ⟨type, (Option.some.inj expands).symm⟩
  cases exported with
  | global among member =>
      obtain ⟨home, -, rfl⟩ := List.mem_map.mp among
      exact (listed member).1
  | inGlobal among outer carries further =>
      obtain ⟨home, -, rfl⟩ := List.mem_map.mp among
      obtain ⟨type, same⟩ := (listed outer).2 _ carries
      exact bounded.lists further same
  | inType among type further =>
      obtain ⟨home, -, rfl⟩ := List.mem_map.mp among
      obtain ⟨member, -, rfl⟩ := List.mem_map.mp type
      exact bounded.lists further rfl

theorem Reached.bounded {options : Options} {fetch : Fetch} {url : Url} {model : Model}
    (reached : Reached options fetch url model) : model.Bounded := by
  refine reached.keeps ⟨fun move => move.bounded, fun _ _ before => before.congr (fun _ => rfl) rfl⟩
    Model.bounded_empty fun gathered before reaches => ?_
  suffices bounded : Pass.Bounded _ from bounded.model
  induction reaches with
  | refl => exact ⟨before, nofun⟩
  | tail _ step ih => exact step.bounded ih

/-- Bounds are never crossed. In every state of a compilation this holds of the bounds of every node
and of every entry of every table, of the members of every node and every namespace, and of what is
listed anywhere in the view of a type or of the whole. -/
theorem reached_bounded {options : Options} {fetch : Fetch} {url : Url} {compilation : Compilation}
    (reached : Reached options fetch url compilation.model) :
    (∀ id, (compilation.model.node id).occurs.WellFormed) ∧
    (∀ scope kind, ∀ entry ∈ (compilation.model.scopes.table scope kind).entries,
      entry.2.occurs.WellFormed) ∧
    (∀ id kind, ∀ member ∈ compilation.model.members id kind, member.occurs.WellFormed) ∧
    (∀ home kind, ∀ member ∈ compilation.model.globals home kind, member.occurs.WellFormed) ∧
    (∀ id shown, (compilation.model.typeView [] id).Lists shown -> shown.occurs.WellFormed) ∧
    ∀ shown, compilation.view.Exports shown -> shown.occurs.WellFormed := by
  have bounded := reached.bounded
  exact ⟨bounded.nodes, bounded.scopes, fun _ _ _ => bounded.members, fun _ _ _ => bounded.globals,
    fun _ _ lists => bounded.lists lists rfl, fun _ => exports_bounded bounded⟩

def boundsText : String :=
  "<schema xmlns='http://www.w3.org/2001/XMLSchema'><complexType name='t'>" ++
    "<sequence minOccurs='2' maxOccurs='unbounded'>" ++
      "<element name='a' minOccurs='4294967294' maxOccurs='4294967295'/>" ++
      "<element name='a' minOccurs='4294967294' maxOccurs='4294967295'/>" ++
      "<element name='b' minOccurs='0' maxOccurs='0'/></sequence></complexType></schema>"

set_option maxRecDepth 100000 in
theorem reached_bounded_copied :
    ∃ compilation : Compilation, Reached .standard (serving boundsText) someUrl compilation.model ∧
      (compilation.model.scopes.table (compilation.model.node ⟨47⟩).scope .elements).entries.map
        (fun entry => entry.2.occurs) = [⟨.clip Count.top, none⟩, .prohibited] ∧
      ∀ member ∈ compilation.model.members ⟨47⟩ .elements, member.occurs.WellFormed := by
  obtain ⟨compilation, compiled, -, bounds⟩ := @compile_of_checked boundsText
    (fun model => (model.scopes.table (model.node ⟨47⟩).scope .elements).entries.map
      (fun entry => entry.2.occurs) = [⟨.clip Count.top, none⟩, .prohibited]) _ (by decide +kernel)
  have reached := reached_compile compiled
  obtain ⟨-, -, members, -⟩ := reached_bounded reached
  exact ⟨compilation, reached, bounds, members ⟨47⟩ .elements⟩

end Compilation

end XmlSchema

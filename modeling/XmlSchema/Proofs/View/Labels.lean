import XmlSchema.Proofs.Reading.Names
import XmlSchema.Proofs.Resolution.Completion
import XmlSchema.Proofs.Resolution.Names
import XmlSchema.View.Basic

set_option autoImplicit false

namespace XmlSchema

def TypeRef.isResolved : TypeRef -> Bool
  | .resolved _ => true
  | .unresolved _ => false

namespace Model

inductive Stores (model : Model) : TypeRef -> Prop where
  | typeRef {id : NodeId} {type : TypeRef} (own : (model.node id).typeRef = some type) :
      Stores model type
  | base {id : NodeId} {type : TypeRef} (own : (model.node id).base = some type) : Stores model type
  | memberType {id : NodeId} {type : TypeRef} (listed : type ∈ (model.node id).memberTypes) :
      Stores model type
  | marker {scope : ScopeId} {target : NodeId} (marked : model.scopes.typeOf scope = some target) :
      Stores model (.resolved target)

inductive Holds (model : Model) : QName -> Prop where
  | node {id : NodeId} {name : QName} (own : (model.node id).name = some name) : Holds model name
  | entry {scope : ScopeId} {kind : Symbols} {name : QName}
      (listed : name ∈ (model.scopes.table scope kind).keys) : Holds model name

def carried (model : Model) : TypeRef -> Option QName
  | .resolved target => (model.node target).name
  | .unresolved name => some name

variable {model : Model}

theorem Proper.stores (proper : model.Proper) {type : TypeRef} (stored : model.Stores type) :
    type.IsProper := by
  cases stored with
  | @typeRef id _ own => exact (proper id).typeRef type own
  | @base id _ own => exact (proper id).base type own
  | @memberType id _ listed => exact (proper id).memberTypes type listed
  | marker => trivial

theorem Proper.holds (proper : model.Proper) (filed : model.Filed) {name : QName}
    (held : model.Holds name) : name.IsProper := by
  cases held with
  | @node id _ own => exact (proper id).name name own
  | @entry scope kind _ listed =>
      rw [← Table.contains_iff, Table.contains, Option.isSome_iff_exists] at listed
      obtain ⟨definition, found⟩ := listed
      exact (proper definition.target).name name (filed scope kind name definition found).1

theorem typeLabel_eq (model : Model) (type : TypeRef) :
    model.typeLabel type = (model.carried type).map fun name =>
      (if type.isResolved then "" else "unresolved:") ++ name.text := by
  cases type with
  | resolved target => cases named : (model.node target).name <;>
      simp [typeLabel, carried, TypeRef.isResolved, named]
  | unresolved name => simp [typeLabel, carried, TypeRef.isResolved]

theorem Proper.carried (proper : model.Proper) {type : TypeRef} (stored : model.Stores type)
    {name : QName} (named : model.carried type = some name) : name.IsProper := by
  cases type with
  | resolved target => exact (proper target).name name named
  | unresolved missing =>
      cases named
      exact proper.stores stored

theorem Proper.eq_of_label (proper : model.Proper) {one other : TypeRef}
    (stored : model.Stores one) (again : model.Stores other) {label : String}
    (first : model.typeLabel one = some label) (second : model.typeLabel other = some label) :
    one.isResolved = other.isResolved ∧
      ∃ name, model.carried one = some name ∧ model.carried other = some name := by
  rw [typeLabel_eq, Option.map_eq_some_iff] at first second
  obtain ⟨name, named, rfl⟩ := first
  obtain ⟨name', named', same⟩ := second
  have fit := proper.carried stored named
  have fit' := proper.carried again named'
  cases resolved : one.isResolved <;> cases resolved' : other.isResolved <;>
    simp only [resolved, resolved', Bool.false_eq_true, if_false, if_true, String.empty_append]
      at same
  · have text : name'.text = name.text := by
      simpa [← String.toList_inj] using same
    exact ⟨rfl, name, named, (fit'.eq_of_text fit text) ▸ named'⟩
  · exact absurd same.symm (fit'.text_ne_unresolved _)
  · exact absurd same (fit.text_ne_unresolved _)
  · exact ⟨rfl, name, named, (fit'.eq_of_text fit same) ▸ named'⟩

end Model

namespace Compilation

variable {options : Options} {fetch : Fetch} {url : Url} {compilation : Compilation}

theorem compile_proper (compiled : compile options fetch url = .ok compilation) :
    compilation.model.Proper ∧ compilation.model.Filed := by
  obtain ⟨read, gathered, sound, rfl⟩ := compile_ok compiled
  have changes := (gather_arrives gathered).changes
  have proper := changes.keeps_model Draft.keeps_proper Model.proper_empty
  refine ⟨?_, sound.ended.filed⟩
  rw [(resolve_eq read).1]
  exact proper.runAll read.agenda

/-- What is printed can be told apart. Of the references to types that a compilation stores, those
that are printed alike all lead to types or all lead nowhere, and carry the same name; names of
nodes and in symbol tables that are printed alike are one name, whatever their namespaces; and no
type that there is not is printed like such a name. -/
theorem compile_labels (compiled : compile options fetch url = .ok compilation) :
    (∀ one other, compilation.model.Stores one -> compilation.model.Stores other ->
      ∀ label, compilation.model.typeLabel one = some label ->
        compilation.model.typeLabel other = some label ->
        one.isResolved = other.isResolved ∧ ∃ name, compilation.model.carried one = some name ∧
          compilation.model.carried other = some name) ∧
    (∀ one other, compilation.model.Holds one -> compilation.model.Holds other ->
      one.text = other.text -> one = other) ∧
    ∀ missing held, compilation.model.Stores (.unresolved missing) ->
      compilation.model.Holds held ->
        compilation.model.typeLabel (.unresolved missing) ≠ some held.text := by
  obtain ⟨proper, filed⟩ := compile_proper compiled
  refine ⟨?stored, ?held, ?apart⟩
  case stored =>
    intro one other stored again label first second
    exact proper.eq_of_label stored again first second
  case held =>
    intro one other held again same
    exact (proper.holds filed held).eq_of_text (proper.holds filed again) same
  case apart =>
    intro missing held _ there same
    exact (proper.holds filed there).text_ne_unresolved _ (Option.some.inj same)

def bracedText : String :=
  "<x:schema xmlns:x='http://www.w3.org/2001/XMLSchema' targetNamespace='a\x7db'>" ++
    "<x:element name='one' type='c'/><x:element name='two' type=' c '/>" ++
      "<x:simpleType name='string'/></x:schema>"

set_option maxRecDepth 100000 in
theorem compile_labels_braced :
    ∃ compilation, compile .standard (serving bracedText) someUrl = .ok compilation ∧
      compilation.model.typeLabel (.unresolved ⟨some "a\x7db", "c"⟩) =
        some "unresolved:\x7ba\x7db\x7dc" ∧
      (∀ type, compilation.model.Stores type ->
        compilation.model.typeLabel type = some "unresolved:\x7ba\x7db\x7dc" ->
          type.isResolved = false ∧
            compilation.model.carried type = some ⟨some "a\x7db", "c"⟩) ∧
      ∀ name, compilation.model.Holds name -> name.text = "\x7ba\x7db\x7dstring" ->
        name = ⟨some "a\x7db", "string"⟩ := by
  obtain ⟨compilation, compiled, -, missing, named⟩ :=
    @compile_of_checked bracedText (fun model =>
      (model.node ⟨48⟩).typeRef = some (.unresolved ⟨some "a\x7db", "c"⟩) ∧
        (model.node ⟨49⟩).name = some ⟨some "a\x7db", "string"⟩) _ (by decide +kernel)
  obtain ⟨stored, held, -⟩ := compile_labels compiled
  have label : compilation.model.typeLabel (.unresolved ⟨some "a\x7db", "c"⟩) =
      some "unresolved:\x7ba\x7db\x7dc" := by rfl
  refine ⟨compilation, compiled, label, fun type there printed => ?_, fun name there printed => ?_⟩
  · obtain ⟨unresolved, name, carried, same⟩ :=
      stored type _ there (.typeRef missing) _ printed label
    exact ⟨unresolved, carried.trans same.symm⟩
  · exact held name _ there (.node named) (printed.trans rfl)

end Compilation

end XmlSchema

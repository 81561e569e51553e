import XmlSchema.Proofs.Json.Keys
import XmlSchema.Proofs.Json.Writing
import XmlSchema.View.Json

set_option autoImplicit false

namespace XmlSchema

open Json

def textsJson (values : List String) : Option Json :=
  match values with
  | [] => none
  | _ => some (.list (values.map .text))

def flagJson (value : Bool) : Option Json := if value then some (.bool true) else none

def MemberView.table (view : MemberView) : List (String × Option Json) :=
  [("name", some (.text view.name)), ("type", view.typeName.map .text),
    ("anonymousType", view.nameless.map TypeView.json), ("recursive", flagJson view.isRecursive),
    ("global", some (.bool view.isGlobal)), ("min", some (.number view.occurs.least.val)),
    ("max", some (boundJson view.occurs.most)), ("documentation", textsJson view.documentation)]

def TypeView.table (view : TypeView) : List (String × Option Json) :=
  [("name", view.name.map .text), ("kind", some (.text view.category.text)),
    ("parent", view.parent.map .text),
    ("derivation", (view.derivation.map Derivation.text).map .text),
    ("abstract", some (.bool view.isAbstract)),
    ("attributes", some (.list (memberJsons view.attributes))),
    ("elements", some (.list (memberJsons view.elements))),
    ("anyContent", some (.bool view.anyContent)), ("anyAttribute", some (.bool view.anyAttribute)),
    ("enumeration", textsJson view.enumeration), ("itemType", view.itemType.map .text),
    ("memberTypes", textsJson view.memberTypes), ("documentation", textsJson view.documentation)]

def NamespaceView.table (view : NamespaceView) : List (String × Option Json) :=
  [("name", some (.text view.name)), ("url", view.url.map .text), ("short", view.short.map .text),
    ("references", some (.list (view.references.map .text))),
    ("elements", some (.list (memberJsons view.elements))),
    ("attributes", some (.list (memberJsons view.attributes))),
    ("types", some (.list (view.types.map TypeView.json)))]

def SchemaView.table (view : SchemaView) : List (String × Option Json) :=
  [("root", some ((view.root.map Json.text).getD .null)),
    ("namespaces", some (.list (view.namespaces.map NamespaceView.json)))]

theorem optional_eq (key : String) (value : Option String) :
    Fields.optional key value = written [(key, value.map .text)] := by
  cases value <;> rfl

theorem texts_eq (key : String) (values : List String) :
    Fields.texts key values = written [(key, textsJson values)] := by
  cases values <;> rfl

theorem flag_eq (key : String) (value : Bool) :
    Fields.flag key value = written [(key, flagJson value)] := by
  cases value <;> rfl

theorem namelessFields_eq (type : Option TypeView) :
    namelessFields type = written [("anonymousType", type.map TypeView.json)] := by
  cases type <;> rfl

theorem MemberView.json_eq (view : MemberView) : view.json = .object (written view.table) := by
  obtain ⟨⟩ := view
  simp [MemberView.json, table, written_cons, optional_eq, texts_eq, flag_eq, namelessFields_eq]

theorem TypeView.json_eq (view : TypeView) : view.json = .object (written view.table) := by
  obtain ⟨⟩ := view
  simp [TypeView.json, table, written_cons, optional_eq, texts_eq]

theorem NamespaceView.json_eq (view : NamespaceView) :
    view.json = .object (written view.table) := by
  simp [NamespaceView.json, table, written_cons, optional_eq]

theorem SchemaView.json_eq (view : SchemaView) : view.json = .object (written view.table) := rfl

theorem rel_optional {value other : Option String} :
    Option.Rel Agrees (value.map .text) (other.map .text) ↔ value = other := by
  cases value <;> cases other <;> simp

theorem rel_texts {values others : List String} :
    Option.Rel Agrees (textsJson values) (textsJson others) ↔ values = others := by
  cases values <;> cases others <;> simp [textsJson]

theorem rel_flag {value other : Bool} :
    Option.Rel Agrees (flagJson value) (flagJson other) ↔ value = other := by
  cases value <;> cases other <;> simp [flagJson]

theorem agrees_bound {most other : Option Count} :
    (boundJson most).Agrees (boundJson other) ↔ most = other := by
  constructor
  · intro agrees
    cases most <;> cases other
    next => rfl
    next => cases agrees
    next => cases agrees
    next => exact congrArg some (Count.ext (agrees_number.mp agrees))
  · rintro rfl
    exact .refl _

theorem agrees_root {root other : Option String} :
    ((root.map Json.text).getD .null).Agrees ((other.map Json.text).getD .null) ↔
      root = other := by
  constructor
  · intro agrees
    cases root <;> cases other
    next => rfl
    next => cases agrees
    next => cases agrees
    next => exact congrArg some (agrees_text.mp agrees)
  · rintro rfl
    exact .refl _

theorem TypeCategory.text_inj {category other : TypeCategory} :
    category.text = other.text ↔ category = other := by
  cases category <;> cases other <;> simp [text]

theorem Derivation.text_injective : Function.Injective Derivation.text := by
  intro derivation other same
  cases derivation <;> cases other <;> simp_all [text]

theorem MemberView.keys_nodup (view : MemberView) : (view.table.map Prod.fst).Nodup := by
  simp [table]

theorem TypeView.keys_nodup (view : TypeView) : (view.table.map Prod.fst).Nodup := by
  simp [table]

theorem NamespaceView.keys_nodup (view : NamespaceView) : (view.table.map Prod.fst).Nodup := by
  simp [table]

theorem SchemaView.keys_nodup (view : SchemaView) : (view.table.map Prod.fst).Nodup := by
  simp [table]

theorem MemberView.agrees_iff {view other : MemberView} :
    view.json.Agrees other.json ↔ view.name = other.name ∧ view.typeName = other.typeName ∧
      Option.Rel Agrees (view.nameless.map TypeView.json) (other.nameless.map TypeView.json) ∧
      view.isRecursive = other.isRecursive ∧ view.isGlobal = other.isGlobal ∧
      view.occurs.least.val = other.occurs.least.val ∧ view.occurs.most = other.occurs.most ∧
      view.documentation = other.documentation := by
  have keys : view.table.map Prod.fst = other.table.map Prod.fst := rfl
  rw [json_eq, json_eq, agrees_written keys view.keys_nodup]
  simp [table, rel_optional, rel_texts, rel_flag, agrees_bound]

theorem TypeView.agrees_iff {view other : TypeView} :
    view.json.Agrees other.json ↔ view.name = other.name ∧ view.category = other.category ∧
      view.parent = other.parent ∧ view.derivation = other.derivation ∧
      view.isAbstract = other.isAbstract ∧
      List.Forall₂ Agrees (memberJsons view.attributes) (memberJsons other.attributes) ∧
      List.Forall₂ Agrees (memberJsons view.elements) (memberJsons other.elements) ∧
      view.anyContent = other.anyContent ∧ view.anyAttribute = other.anyAttribute ∧
      view.enumeration = other.enumeration ∧ view.itemType = other.itemType ∧
      view.memberTypes = other.memberTypes ∧ view.documentation = other.documentation := by
  have keys : view.table.map Prod.fst = other.table.map Prod.fst := rfl
  rw [json_eq, json_eq, agrees_written keys view.keys_nodup]
  simp only [table, List.map_cons, List.map_nil, List.forall₂_cons, List.forall₂_nil_left_iff,
    Option.rel_some_some, agrees_text, rel_optional, rel_texts, agrees_bool, agrees_list,
    TypeCategory.text_inj, (Option.map_injective Derivation.text_injective).eq_iff, and_true]

theorem NamespaceView.agrees_iff {view other : NamespaceView} :
    view.json.Agrees other.json ↔ view.name = other.name ∧ view.url = other.url ∧
      view.short = other.short ∧ view.references = other.references ∧
      List.Forall₂ Agrees (memberJsons view.elements) (memberJsons other.elements) ∧
      List.Forall₂ Agrees (memberJsons view.attributes) (memberJsons other.attributes) ∧
      List.Forall₂ Agrees (view.types.map TypeView.json) (other.types.map TypeView.json) := by
  have keys : view.table.map Prod.fst = other.table.map Prod.fst := rfl
  rw [json_eq, json_eq, agrees_written keys view.keys_nodup]
  simp [table, rel_optional]

theorem SchemaView.agrees_iff {view other : SchemaView} :
    view.json.Agrees other.json ↔ view.root = other.root ∧
      List.Forall₂ Agrees (view.namespaces.map NamespaceView.json)
        (other.namespaces.map NamespaceView.json) := by
  have keys : view.table.map Prod.fst = other.table.map Prod.fst := rfl
  rw [json_eq, json_eq, agrees_written keys view.keys_nodup]
  simp [table, agrees_root]

mutual

theorem MemberView.eq_of_agrees {view other : MemberView} (agrees : view.json.Agrees other.json) :
    view = other := by
  match view, other with
  | ⟨name, typeName, nameless, isRecursive, isGlobal, ⟨least, most⟩, documentation⟩,
    ⟨_, _, nameless', _, _, ⟨least', _⟩, _⟩ =>
      obtain ⟨rfl, rfl, types, rfl, rfl, bound, rfl, rfl⟩ := MemberView.agrees_iff.mp agrees
      -- A count is its number; that it is in range is no further data.
      obtain rfl := Count.ext bound
      cases eq_of_nameless types
      rfl

theorem eq_of_nameless {type other : Option TypeView}
    (agrees : Option.Rel Agrees (type.map TypeView.json) (other.map TypeView.json)) :
    type = other := by
  match type, other with
  | none, none => rfl
  | none, some other => cases agrees
  | some type, none => cases agrees
  | some type, some other =>
      rw [TypeView.eq_of_agrees (Option.rel_some_some.mp agrees)]

theorem TypeView.eq_of_agrees {view other : TypeView} (agrees : view.json.Agrees other.json) :
    view = other := by
  match view, other with
  | ⟨_, _, _, _, _, attributes, elements, _, _, _, _, _, _⟩,
    ⟨_, _, _, _, _, attributes', elements', _, _, _, _, _, _⟩ =>
      obtain ⟨rfl, rfl, rfl, rfl, rfl, first, second, rfl, rfl, rfl, rfl, rfl, rfl⟩ :=
        TypeView.agrees_iff.mp agrees
      cases eq_of_memberJsons first
      cases eq_of_memberJsons second
      rfl

theorem eq_of_memberJsons {members others : List MemberView}
    (agrees : List.Forall₂ Agrees (memberJsons members) (memberJsons others)) :
    members = others := by
  match members, others with
  | [], [] => rfl
  | [], _ :: _ => cases agrees
  | _ :: _, [] => cases agrees
  | member :: members, other :: others =>
      obtain ⟨first, rest⟩ := List.forall₂_cons.mp agrees
      rw [MemberView.eq_of_agrees first, eq_of_memberJsons rest]

end

theorem eq_of_forall₂_map {View : Type} {json : View -> Json} {views others : List View}
    (tells : ∀ view other : View, (json view).Agrees (json other) -> view = other)
    (agrees : List.Forall₂ Agrees (views.map json) (others.map json)) : views = others := by
  rw [List.forall₂_map_left_iff, List.forall₂_map_right_iff] at agrees
  rw [← List.forall₂_eq_eq_eq]
  exact agrees.imp tells

theorem NamespaceView.eq_of_agrees {view other : NamespaceView}
    (agrees : view.json.Agrees other.json) : view = other := by
  obtain ⟨_, _, _, _, elements, attributes, types⟩ := view
  obtain ⟨_, _, _, _, elements', attributes', types'⟩ := other
  obtain ⟨rfl, rfl, rfl, rfl, first, second, third⟩ := agrees_iff.mp agrees
  cases eq_of_memberJsons first
  cases eq_of_memberJsons second
  cases eq_of_forall₂_map (fun _ _ => TypeView.eq_of_agrees) third
  rfl

theorem SchemaView.eq_of_agrees {view other : SchemaView} (agrees : view.json.Agrees other.json) :
    view = other := by
  obtain ⟨_, namespaces⟩ := view
  obtain ⟨_, namespaces'⟩ := other
  obtain ⟨rfl, listed⟩ := agrees_iff.mp agrees
  cases eq_of_forall₂_map (fun _ _ => NamespaceView.eq_of_agrees) listed
  rfl

theorem distinct_said {json : Json} (distinct : json.Distinct) (value : Json)
    (said : some json = some value) : value.Distinct := by
  cases said
  exact distinct

theorem distinct_text {text : Option String} (value : Json)
    (said : text.map Json.text = some value) : value.Distinct := by
  obtain ⟨text, -, rfl⟩ := Option.map_eq_some_iff.mp said
  exact .text text

theorem distinct_texts (values : List String) : (Json.list (values.map .text)).Distinct := by
  apply Distinct.list
  simp [Distinct.text]

theorem distinct_textsJson {values : List String} (value : Json)
    (said : textsJson values = some value) : value.Distinct := by
  cases values with
  | nil => cases said
  | cons first values =>
      cases said
      exact distinct_texts (first :: values)

theorem distinct_flag {flag : Bool} (value : Json) (said : flagJson flag = some value) :
    value.Distinct := by
  cases flag with
  | true =>
      cases said
      exact .bool true
  | false => cases said

theorem distinct_bound (most : Option Count) : (boundJson most).Distinct := by
  cases most with
  | none => exact .null
  | some most => exact .number most.val

mutual

theorem MemberView.distinct (view : MemberView) : view.json.Distinct := by
  match view with
  | ⟨name, typeName, nameless, isRecursive, isGlobal, occurs, documentation⟩ =>
      rw [MemberView.json_eq]
      apply distinct_written (MemberView.keys_nodup _)
      simp only [MemberView.table, List.forall_mem_cons]
      exact ⟨distinct_said (.text name), distinct_text, distinct_nameless nameless,
        distinct_flag, distinct_said (.bool isGlobal), distinct_said (.number _),
        distinct_said (distinct_bound _), distinct_textsJson, List.forall_mem_nil _⟩

theorem distinct_nameless (type : Option TypeView) (value : Json)
    (said : type.map TypeView.json = some value) : value.Distinct := by
  match type with
  | none => cases said
  | some type =>
      cases said
      exact type.distinct

theorem TypeView.distinct (view : TypeView) : view.json.Distinct := by
  match view with
  | ⟨_, category, _, _, isAbstract, attributes, elements, anyContent, anyAttribute, _, _, _, _⟩ =>
      rw [TypeView.json_eq]
      apply distinct_written (TypeView.keys_nodup _)
      simp only [TypeView.table, List.forall_mem_cons]
      exact ⟨distinct_text, distinct_said (.text category.text), distinct_text, distinct_text,
        distinct_said (.bool isAbstract), distinct_said (.list (distinct_memberJsons attributes)),
        distinct_said (.list (distinct_memberJsons elements)), distinct_said (.bool anyContent),
        distinct_said (.bool anyAttribute), distinct_textsJson, distinct_text, distinct_textsJson,
        distinct_textsJson, List.forall_mem_nil _⟩

theorem distinct_memberJsons (members : List MemberView) :
    ∀ json ∈ memberJsons members, json.Distinct := by
  match members with
  | [] => simp [memberJsons]
  | member :: members =>
      have first := member.distinct
      have rest := distinct_memberJsons members
      simpa [memberJsons] using ⟨first, rest⟩

end

theorem NamespaceView.distinct (view : NamespaceView) : view.json.Distinct := by
  have types : ∀ json ∈ view.types.map TypeView.json, json.Distinct := by
    simp [TypeView.distinct]
  rw [json_eq]
  apply distinct_written view.keys_nodup
  simp only [table, List.forall_mem_cons]
  exact ⟨distinct_said (.text view.name), distinct_text, distinct_text,
    distinct_said (distinct_texts view.references),
    distinct_said (.list (distinct_memberJsons view.elements)),
    distinct_said (.list (distinct_memberJsons view.attributes)), distinct_said (.list types),
    List.forall_mem_nil _⟩

theorem SchemaView.distinct (view : SchemaView) : view.json.Distinct := by
  have namespaces : ∀ json ∈ view.namespaces.map NamespaceView.json, json.Distinct := by
    simp [NamespaceView.distinct]
  have root : ((view.root.map Json.text).getD .null).Distinct := by
    cases view.root with
    | none => exact .null
    | some root => exact .text root
  rw [json_eq]
  apply distinct_written view.keys_nodup
  simp only [table, List.forall_mem_cons]
  exact ⟨distinct_said root, distinct_said (.list namespaces), List.forall_mem_nil _⟩

theorem SchemaView.agrees_iff_eq {view other : SchemaView} :
    view.json.Agrees other.json ↔ view = other := by
  constructor
  · exact eq_of_agrees
  · rintro rfl
    exact .refl view.json

theorem SchemaView.json_inj {view other : SchemaView} :
    view.json = other.json ↔ view = other := by
  constructor
  · intro same
    apply eq_of_agrees
    rw [same]
    exact .refl other.json
  · rintro rfl
    rfl

/-- A view is known from its text, on one line or spread out. Both texts denote one and the same
value, whose objects have each key once. That value is not the one of another view either to a
reader who finds fields by their keys. -/
theorem SchemaView.json_lossless (view other : SchemaView) :
    (view.json.compact = other.json.compact ↔ view = other) ∧
      (view.json.pretty = other.json.pretty ↔ view = other) ∧
      (∀ json, Denotes view.json.compact json ↔ json = view.json) ∧
      (∀ json, Denotes view.json.pretty json ↔ json = view.json) ∧
      view.json.Distinct ∧ (view.json.Agrees other.json ↔ view = other) := by
  refine ⟨?_, ?_, fun json => denotes_write_iff, fun json => denotes_write_iff, view.distinct,
    agrees_iff_eq⟩
  · rw [compact, compact, write_inj, json_inj]
  · rw [pretty, pretty, write_inj, json_inj]

end XmlSchema

import XmlSchema.Proofs.Shape

set_option autoImplicit false

namespace XmlSchema

namespace Place

inductive Spelled : List String -> Kind -> Prop where
  | schema : Spelled [Kind.schema.tagName] .schema
  | inside {names : List String} {outer inner : Kind} (around : Spelled names outer)
      (holds : outer.Holds inner) : Spelled (names ++ [inner.tagName]) inner

theorem follow_append (start : Option Place) (path further : List QName) :
    follow start (path ++ further) = follow (follow start path) further :=
  List.foldl_append

theorem follow_none (path : List QName) : follow none path = none := by
  induction path with
  | nil => rfl
  | cons name rest ih => exact ih

theorem follow_anything (path : List QName) : follow (some .anything) path = some .anything := by
  induction path with
  | nil => rfl
  | cons name rest ih => exact ih

theorem lookup_tags_iff {kinds : List Kind} {name : String} {found : Place} :
    (kinds.map fun kind => (kind.tagName, Place.tag kind)).lookup name = some found ↔
      ∃ kind ∈ kinds, kind.tagName = name ∧ found = .tag kind := by
  induction kinds with
  | nil => simp
  | cons first rest ih =>
    rw [List.map_cons, List.lookup_cons]
    by_cases same : name = first.tagName
    next =>
      subst same
      have alone (kind : Kind) : kind.tagName = first.tagName ↔ kind = first :=
        ⟨Kind.tagName_injective, congrArg Kind.tagName⟩
      simp only [BEq.rfl, alone]
      constructor
      · intro hit
        exact ⟨first, List.mem_cons_self, rfl, (Option.some.inj hit).symm⟩
      · rintro ⟨kind, -, rfl, rfl⟩
        rfl
    next =>
      simp [beq_false_of_ne same, ih, Ne.symm same]

theorem child_eq_tag_iff {place : Place} {name : QName} {kind : Kind} :
    place.child name = some (.tag kind) ↔
      kind ∈ place.childKinds ∧ kind.tagName = name.localName := by
  rw [child_eq, Option.or_eq_some_iff, byLocalName, lookup_tags_iff]
  constructor
  · rintro (⟨other, member, named, same⟩ | ⟨-, free⟩)
    · cases same
      exact ⟨member, named⟩
    · unfold wildcard at free
      split at free
      · cases free
      · cases free
  · rintro ⟨member, named⟩
    exact .inl ⟨kind, member, named, rfl⟩

theorem child_eq_anything {place : Place} {name : QName} (child : place.child name = some .anything) :
    place = .tag .documentation ∨ place = .anything := by
  rw [child_eq, Option.or_eq_some_iff, byLocalName, lookup_tags_iff] at child
  rcases child with ⟨kind, -, -, same⟩ | ⟨-, free⟩
  · cases same
  · cases place with
    | document => cases free
    | anything => exact .inr rfl
    | tag kind => exact .inl (by cases kind <;> first | rfl | cases free)

theorem child_ne_document (place : Place) (name : QName) : place.child name ≠ some .document := by
  intro child
  rcases child_cases child with free | ⟨kind, -, same⟩
  · cases free
  · cases same

theorem Spelled.follow {names : List String} {outer inner : Kind} {path : List QName}
    (around : Spelled names outer)
    (leads : Place.follow (some (.tag outer)) path = some (.tag inner)) :
    Spelled (names ++ path.map (·.localName)) inner := by
  induction path generalizing names outer with
  | nil =>
    cases leads
    simpa using around
  | cons name rest ih =>
    change Place.follow ((Place.tag outer).child name) rest = _ at leads
    cases child : (Place.tag outer).child name with
    | none => cases (follow_none rest).symm.trans (child ▸ leads)
    | some next =>
      rw [child] at leads
      cases next with
      | document => exact absurd child (child_ne_document _ _)
      | anything => cases (follow_anything rest).symm.trans leads
      | tag kind =>
        obtain ⟨holds, named⟩ := child_eq_tag_iff.mp child
        have further := ih (around.inside holds) leads
        rw [named] at further
        simpa using further

theorem follow_eq_tag_iff {path : List QName} {kind : Kind} :
    follow (some .document) path = some (.tag kind) ↔ Spelled (path.map (·.localName)) kind := by
  constructor
  · intro leads
    cases path with
    | nil => cases leads
    | cons name rest =>
      change follow (Place.document.child name) rest = _ at leads
      cases child : Place.document.child name with
      | none => cases (follow_none rest).symm.trans (child ▸ leads)
      | some next =>
        rw [child] at leads
        cases next with
        | document => exact absurd child (child_ne_document _ _)
        | anything => cases (follow_anything rest).symm.trans leads
        | tag outer =>
          obtain ⟨member, named⟩ := child_eq_tag_iff.mp child
          obtain rfl := List.mem_singleton.mp member
          have further := Spelled.schema.follow leads
          rw [named] at further
          simpa using further
  · intro spelled
    generalize written : path.map (·.localName) = names at spelled
    induction spelled generalizing path with
    | schema =>
      obtain ⟨name, rfl, named⟩ := List.map_eq_singleton_iff.mp written
      exact child_eq_tag_iff.mpr ⟨List.mem_singleton_self _, named.symm⟩
    | inside around holds ih =>
      obtain ⟨before, last, rfl, former, latter⟩ := List.map_eq_append_iff.mp written
      obtain ⟨name, rfl, named⟩ := List.map_eq_singleton_iff.mp latter
      rw [follow_append, ih former]
      exact child_eq_tag_iff.mpr ⟨holds, named.symm⟩

theorem follow_eq_document_iff {path : List QName} :
    follow (some .document) path = some .document ↔ path = [] := by
  constructor
  · intro leads
    rcases path.eq_nil_or_concat with empty | ⟨before, name, rfl⟩
    · exact empty
    · rw [List.concat_eq_append, follow_append] at leads
      obtain ⟨place, -, child⟩ := Option.bind_eq_some_iff.mp leads
      exact absurd child (child_ne_document place name)
  · rintro rfl
    rfl

theorem follow_congr (start : Option Place) {path other : List QName}
    (same : other.map (·.localName) = path.map (·.localName)) :
    follow start other = follow start path := by
  have bare (path : List QName) : follow start path =
      (path.map (·.localName)).foldl
        (fun place name => place.bind fun place => place.child (.unqualified name)) start := by
    rw [List.foldl_map]
    simp only [follow, child_eq, QName.unqualified]
  rw [bare, bare, same]

theorem exists_documentation {place : Place} (outside : place ≠ .anything) {path : List QName}
    (leads : follow (some place) path = some .anything) :
    ∃ before name after, path = before ++ name :: after ∧
      follow (some place) before = some (.tag .documentation) := by
  induction path generalizing place with
  | nil => exact absurd (Option.some.inj leads) outside
  | cons name rest ih =>
    change follow (place.child name) rest = _ at leads
    cases child : place.child name with
    | none => cases (follow_none rest).symm.trans (child ▸ leads)
    | some next =>
      rw [child] at leads
      by_cases free : next = .anything
      next =>
        subst free
        obtain rfl := (child_eq_anything child).resolve_right outside
        exact ⟨[], name, rest, rfl, rfl⟩
      next =>
        obtain ⟨before, last, after, rfl, documents⟩ := ih free leads
        refine ⟨name :: before, last, after, rfl, ?_⟩
        change follow (place.child name) before = _
        rw [child]
        exact documents

theorem follow_eq_anything_iff {path : List QName} :
    follow (some .document) path = some .anything ↔
      ∃ before name after, path = before ++ name :: after ∧
        follow (some .document) before = some (.tag .documentation) := by
  constructor
  · exact exists_documentation (by decide)
  · rintro ⟨before, name, after, rfl, documents⟩
    rw [follow_append, documents]
    change follow ((Place.tag .documentation).child name) after = _
    rw [child_free (.inl rfl), follow_anything]

end Place

end XmlSchema

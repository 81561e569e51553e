import XmlSchema.Grammar.RuleSet
import XmlSchema.Proofs.Grammar.Spelling

set_option autoImplicit false

namespace XmlSchema

namespace RuleSet

variable {rules before after : RuleSet} {source touched id : RuleId}

def Stands (rules : RuleSet) (id : RuleId) : Place -> Prop
  | .document => id = root
  | .tag kind => rules.made.get? kind = some id
  | .anything => rules.anything = some id

theorem Stands.unique {other : RuleId} {place : Place} (stands : rules.Stands id place)
    (further : rules.Stands other place) : id = other := by
  cases place with
  | document => exact stands.trans further.symm
  | tag kind => exact Option.some.inj (stands.symm.trans further)
  | anything => exact Option.some.inj (stands.symm.trans further)

structure Lists (rules : RuleSet) (rule : Rule) (kinds : List Kind) : Prop where
  byName : ∀ name, Option.Rel rules.Stands (rule.byName.get? name)
    ((kinds.map fun kind => (QName.inNamespace schemaUri kind.tagName, Place.tag kind)).lookup name)
  byLocalName : ∀ name, Option.Rel rules.Stands (rule.byLocalName.get? name)
    ((kinds.map fun kind => (kind.tagName, Place.tag kind)).lookup name)

structure Mirrors (rules : RuleSet) (rule : Rule) (place : Place) : Prop where
  kind : rule.kind = place.kind?
  lists : rules.Lists rule place.childKinds
  wildcard : Option.Rel rules.Stands rule.wildcard place.wildcard

theorem rel_unique {found other : Option RuleId} {place : Option Place}
    (rel : Option.Rel rules.Stands found place) (further : Option.Rel rules.Stands other place) :
    found = other := by
  cases rel with
  | none =>
    cases further
    rfl
  | some stands =>
    cases further with
    | some same => exact congrArg some (stands.unique same)

theorem rel_mono {found : Option RuleId} {place : Option Place}
    (kept : ∀ id place, before.Stands id place -> after.Stands id place)
    (rel : Option.Rel before.Stands found place) : Option.Rel after.Stands found place := by
  cases rel with
  | some stands => exact .some (kept _ _ stands)
  | none => exact .none

theorem Lists.mono {rule : Rule} {kinds : List Kind}
    (kept : ∀ id place, before.Stands id place -> after.Stands id place)
    (lists : before.Lists rule kinds) : after.Lists rule kinds where
  byName name := rel_mono kept (lists.byName name)
  byLocalName name := rel_mono kept (lists.byLocalName name)

theorem Mirrors.mono {rule : Rule} {place : Place}
    (kept : ∀ id place, before.Stands id place -> after.Stands id place)
    (mirrors : before.Mirrors rule place) : after.Mirrors rule place where
  kind := mirrors.kind
  lists := mirrors.lists.mono kept
  wildcard := rel_mono kept mirrors.wildcard

theorem lists_nothing (rules : RuleSet) (kind : Option Kind) (wildcard : Option RuleId) :
    rules.Lists ⟨kind, .empty, .empty, wildcard⟩ [] where
  byName _ := .none
  byLocalName _ := .none

theorem rel_insert {κ : Type} [DecidableEq κ] {label : Kind -> κ}
    (injective : ∀ a b, label a = label b -> a = b) {table : Table κ RuleId} {kinds : List Kind}
    {kind : Kind} (stands : rules.Stands id (.tag kind)) (key : κ)
    (listed : Option.Rel rules.Stands (table.get? key)
      ((kinds.map fun kind => (label kind, Place.tag kind)).lookup key)) :
    Option.Rel rules.Stands ((table.insert (label kind) id).get? key)
      (((kinds ++ [kind]).map fun kind => (label kind, Place.tag kind)).lookup key) := by
  rw [List.map_append, List.lookup_append]
  by_cases same : key = label kind
  next =>
    subst same
    rw [Table.insert, Table.get?_put_self]
    cases there : (kinds.map fun kind => (label kind, Place.tag kind)).lookup (label kind) with
    | none => simpa using Option.Rel.some stands
    | some place =>
      obtain ⟨former, latter, split, -⟩ := List.lookup_eq_some_iff.mp there
      have member : (label kind, place) ∈ kinds.map fun kind => (label kind, Place.tag kind) := by
        rw [split]
        exact List.mem_append_right _ List.mem_cons_self
      obtain ⟨other, -, written⟩ := List.mem_map.mp member
      obtain ⟨labels, rfl⟩ := Prod.mk.inj written
      rw [injective _ _ labels]
      exact .some stands
  next =>
    rw [Table.insert, Table.get?_put_of_ne _ _ same]
    simpa [List.lookup_cons, beq_false_of_ne same] using listed

structure Grows (touched : RuleId) (before after : RuleSet) : Prop where
  size : before.all.size ≤ after.all.size
  rule : ∀ id, id.index < before.all.size -> id ≠ touched -> after.rule id = before.rule id
  kept : ∀ id place, before.Stands id place -> after.Stands id place
  fresh : ∀ id place, after.Stands id place -> before.Stands id place ∨
    (before.all.size ≤ id.index ∧ id.index < after.all.size ∧ after.Mirrors (after.rule id) place)

structure Links (source : RuleId) (kinds : List Kind) (before after : RuleSet) : Prop
    extends Grows source before after where
  kind : (after.rule source).kind = (before.rule source).kind
  wildcard : (after.rule source).wildcard = (before.rule source).wildcard
  lists : ∀ done, before.Lists (before.rule source) done ->
    after.Lists (after.rule source) (done ++ kinds)

namespace Grows

theorem refl (touched : RuleId) (rules : RuleSet) : Grows touched rules rules where
  size := Nat.le_refl _
  rule _ _ _ := rfl
  kept _ _ stands := stands
  fresh _ _ stands := .inl stands

theorem trans {middle : RuleSet} (first : Grows touched before middle)
    (second : Grows touched middle after) (old : touched.index < before.all.size) :
    Grows touched before after where
  size := Nat.le_trans first.size second.size
  rule id inside apart :=
    (second.rule id (Nat.lt_of_lt_of_le inside first.size) apart).trans (first.rule id inside apart)
  kept id place stands := second.kept id place (first.kept id place stands)
  fresh id place stands := by
    rcases second.fresh id place stands with there | ⟨late, inside, mirrors⟩
    · rcases first.fresh id place there with older | ⟨late, inside, mirrors⟩
      · exact .inl older
      · have apart : id ≠ touched := fun same => Nat.not_lt.mpr late (same ▸ old)
        refine .inr ⟨late, Nat.lt_of_lt_of_le inside second.size, ?_⟩
        rw [second.rule id inside apart]
        exact mirrors.mono second.kept
    · exact .inr ⟨Nat.le_trans first.size late, inside, mirrors⟩

theorem links (grows : Grows touched before after) (new : before.all.size ≤ touched.index)
    (old : source.index < before.all.size) : Links source [] before after := by
  have same (id : RuleId) (inside : id.index < before.all.size) :
      after.rule id = before.rule id :=
    grows.rule id inside fun same => Nat.not_lt.mpr new (same ▸ inside)
  exact {
    size := grows.size
    rule id inside _ := same id inside
    kept := grows.kept
    fresh := grows.fresh
    kind := congrArg Rule.kind (same source old)
    wildcard := congrArg Rule.wildcard (same source old)
    lists done lists := by
      rw [same source old, List.append_nil]
      exact lists.mono grows.kept }

end Grows

namespace Links

theorem refl (source : RuleId) (rules : RuleSet) : Links source [] rules rules where
  toGrows := .refl source rules
  kind := rfl
  wildcard := rfl
  lists done lists := by rwa [List.append_nil]

theorem trans {middle : RuleSet} {former latter : List Kind}
    (first : Links source former before middle) (second : Links source latter middle after)
    (old : source.index < before.all.size) : Links source (former ++ latter) before after where
  toGrows := first.toGrows.trans second.toGrows old
  kind := second.kind.trans first.kind
  wildcard := second.wildcard.trans first.wildcard
  lists done lists := by
    rw [← List.append_assoc]
    exact second.lists _ (first.lists done lists)

end Links

theorem rule_modify (rules : RuleSet) (source id : RuleId) (change : Rule -> Rule) :
    ({ rules with all := rules.all.modify source.index change } : RuleSet).rule id =
      if id = source ∧ id.index < rules.all.size then change (rules.rule id)
      else rules.rule id := by
  have same : id.index = source.index ↔ id = source :=
    ⟨fun same => congrArg RuleId.mk same, congrArg RuleId.index⟩
  simp only [rule, Numbered.getD_modify, same]

theorem grows_modify (rules : RuleSet) (source : RuleId) (change : Rule -> Rule) :
    Grows source rules { rules with all := rules.all.modify source.index change } where
  size := Nat.le_of_eq Array.size_modify.symm
  rule id _ apart := by rw [rule_modify, if_neg fun both => apart both.1]
  kept id place stands := by cases place <;> exact stands
  fresh id place stands := .inl (by cases place <;> exact stands)

theorem links_link {kind : Kind} {target : RuleId} (old : source.index < rules.all.size)
    (stands : rules.Stands target (.tag kind)) :
    Links source [kind] rules (rules.link source kind target) where
  toGrows := grows_modify rules source _
  kind := by rw [link, rule_modify, if_pos ⟨rfl, old⟩]
  wildcard := by rw [link, rule_modify, if_pos ⟨rfl, old⟩]
  lists done lists := by
    have kept := (grows_modify rules source fun rule =>
      { rule with
        byName := rule.byName.insert (.inNamespace schemaUri kind.tagName) target
        byLocalName := rule.byLocalName.insert kind.tagName target }).kept
    have tagged : ∀ a b : Kind, QName.inNamespace schemaUri a.tagName =
        .inNamespace schemaUri b.tagName -> a = b :=
      fun a b same => Kind.tagName_injective (congrArg QName.localName same)
    rw [link, rule_modify, if_pos ⟨rfl, old⟩]
    exact ⟨fun name => rel_mono kept (rel_insert tagged stands name (lists.byName name)),
      fun name => rel_mono kept
        (rel_insert (fun _ _ => Kind.tagName_injective) stands name (lists.byLocalName name))⟩

theorem rule_push (rules : RuleSet) (made : Table Kind RuleId) (anything : Option RuleId)
    (rule : Rule) (id : RuleId) :
    (⟨rules.all.push rule, made, anything⟩ : RuleSet).rule id =
      if id = rules.next then rule else rules.rule id := by
  have same : id.index = rules.all.size ↔ id = rules.next :=
    ⟨fun same => congrArg RuleId.mk same, congrArg RuleId.index⟩
  simp only [RuleSet.rule, Numbered.getD_push, same]

theorem next_ne (inside : id.index < rules.all.size) : id ≠ rules.next :=
  fun same => Nat.lt_irrefl _ (same ▸ inside : rules.next.index < rules.all.size)

theorem grows_free (touched : RuleId) (rules : RuleSet) :
    Grows touched rules rules.free.1 ∧ rules.free.1.Stands rules.free.2 .anything := by
  unfold free
  cases there : rules.anything with
  | some id => exact ⟨.refl touched rules, there⟩
  | none =>
    refine ⟨{ size := ?_, rule := ?_, kept := ?_, fresh := ?_ }, rfl⟩
    · simp
    · intro id inside _
      exact (rule_push ..).trans (if_neg (next_ne inside))
    · intro id place stands
      cases place with
      | document => exact stands
      | tag kind => exact stands
      | anything => cases there.symm.trans stands
    · intro id place stands
      cases place with
      | document => exact .inl stands
      | tag kind => exact .inl stands
      | anything =>
        obtain rfl := Option.some.inj stands
        refine .inr ⟨Nat.le_refl _, by simp [next], ?_⟩
        rw [rule_push, if_pos rfl]
        exact ⟨rfl, lists_nothing .., .some rfl⟩

theorem Grows.of_enter {kind : Kind} (absent : rules.made.get? kind = none)
    (grows : Grows rules.next (rules.enter kind) after)
    (mirrors : after.Mirrors (after.rule rules.next) (.tag kind)) :
    Grows rules.next rules after ∧ after.Stands rules.next (.tag kind) := by
  have size : (rules.enter kind).all.size = rules.all.size + 1 := Array.size_push _
  have entered (id : RuleId) (place : Place) :
      (rules.enter kind).Stands id place ↔
        rules.Stands id place ∨ (id = rules.next ∧ place = .tag kind) := by
    cases place with
    | document => simp [Stands]
    | anything => simp [Stands, enter]
    | tag other =>
      by_cases same : other = kind
      · simp [Stands, enter, Table.insert, same, absent, eq_comm]
      · simp [Stands, enter, Table.insert, Table.get?_put_of_ne _ _ same, same]
  refine ⟨{ size := ?_, rule := ?_, kept := ?_, fresh := ?_ },
    grows.kept _ _ ((entered _ _).mpr (.inr ⟨rfl, rfl⟩))⟩
  · exact Nat.le_trans (size ▸ Nat.le_succ _) grows.size
  · intro id inside apart
    refine (grows.rule id (size ▸ Nat.lt_succ_of_lt inside) apart).trans ?_
    exact (rule_push ..).trans (if_neg apart)
  · exact fun id place stands => grows.kept id place ((entered id place).mpr (.inl stands))
  · intro id place stands
    rcases grows.fresh id place stands with there | ⟨late, inside, mirrored⟩
    · rcases (entered id place).mp there with older | ⟨rfl, rfl⟩
      · exact .inl older
      · exact .inr ⟨Nat.le_refl _, Nat.lt_of_lt_of_le (size ▸ Nat.lt_succ_self _) grows.size, mirrors⟩
    · exact .inr ⟨Nat.le_trans (size ▸ Nat.le_succ _) late, inside, mirrored⟩

theorem Links.mirrors {kind : Kind} {kinds : List Kind} (links : Links source kinds before after)
    (content : kind.content = .kinds kinds)
    (bare : before.rule source = ⟨some kind, .empty, .empty, none⟩) :
    after.Mirrors (after.rule source) (.tag kind) where
  kind := links.kind.trans (congrArg Rule.kind bare)
  lists := by
    have lists := links.lists [] (bare ▸ lists_nothing ..)
    simpa [Place.childKinds, Place.content, content] using lists
  wildcard := by
    rw [links.wildcard, bare]
    simp [Place.wildcard, Place.content, content]

theorem linkFree_mirrors {kind : Kind} (old : source.index < rules.all.size)
    (content : kind.content = .anything)
    (bare : rules.rule source = ⟨some kind, .empty, .empty, none⟩) :
    Grows source rules (rules.linkFree source) ∧
      (rules.linkFree source).Mirrors ((rules.linkFree source).rule source) (.tag kind) := by
  obtain ⟨freed, stands⟩ := grows_free rules.next rules
  have same : rules.free.1.rule source = rules.rule source :=
    freed.rule source old (next_ne old)
  have modified := grows_modify rules.free.1 source fun rule =>
    { rule with wildcard := some rules.free.2 }
  refine ⟨(freed.links (Nat.le_refl _) old).toGrows.trans modified old, ?_⟩
  have there := Nat.lt_of_lt_of_le old freed.size
  rw [linkFree, linkWildcard, rule_modify, if_pos ⟨rfl, there⟩, same, bare]
  refine ⟨rfl, ?_, ?_⟩
  · simpa [Place.childKinds, Place.content, content] using lists_nothing ..
  · have further := Option.Rel.some (modified.kept _ _ stands)
    simpa [Place.wildcard, Place.content, content] using further

mutual

theorem make_grows (rules : RuleSet) (kind : Kind) :
    Grows rules.next rules (rules.make kind).val.1 ∧
      (rules.make kind).val.1.Stands (rules.make kind).val.2 (.tag kind) := by
  unfold make
  split
  next id there => exact ⟨.refl _ _, there⟩
  next absent =>
    have inside : rules.next.index < (rules.enter kind).all.size := by simp [enter, next]
    have bare : (rules.enter kind).rule rules.next = ⟨some kind, .empty, .empty, none⟩ :=
      (rule_push ..).trans (if_pos rfl)
    have fewer := unmade_enter absent
    split
    next kinds content =>
      have links := linkAll_links (rules.enter kind) inside kinds
      exact links.toGrows.of_enter absent (links.mirrors content bare)
    next content =>
      obtain ⟨grows, mirrors⟩ := linkFree_mirrors inside content bare
      exact grows.of_enter absent mirrors
termination_by (rules.unmade, 0)
decreasing_by exact Prod.Lex.left _ _ fewer

theorem linkAll_links (rules : RuleSet) {source : RuleId} (old : source.index < rules.all.size)
    (kinds : List Kind) : Links source kinds rules (rules.linkAll source kinds).val := by
  match kinds with
  | [] =>
    unfold linkAll
    exact .refl source rules
  | kind :: rest =>
    unfold linkAll
    obtain ⟨grows, stands⟩ := make_grows rules kind
    have there := Nat.lt_of_lt_of_le old grows.size
    have first := (grows.links (Nat.le_refl _) old).trans (links_link there stands) old
    exact first.trans (linkAll_links _ (by simpa [link] using there) rest) old
termination_by (rules.unmade, kinds.length + 1)
decreasing_by
  · exact Prod.Lex.right _ (Nat.succ_pos _)
  · exact Prod.Lex.right' _ (rules.make kind).property (Nat.lt_succ_self _)

end

theorem mirrors_build {place : Place} (stands : build.Stands id place) :
    build.Mirrors (build.rule id) place := by
  have links : Links root [.schema] outset build := linkAll_links outset (Nat.lt_succ_self 0) _
  rcases links.fresh id place stands with first | ⟨-, -, mirrors⟩
  · cases place with
    | document =>
      obtain rfl := first
      refine ⟨links.kind, links.lists [] (lists_nothing ..), ?_⟩
      rw [links.wildcard]
      exact .none
    | tag kind => cases first
    | anything => cases first
  · exact mirrors

theorem rel_or {found further : Option RuleId} {place other : Option Place}
    (first : Option.Rel rules.Stands found place) (second : Option.Rel rules.Stands further other) :
    Option.Rel rules.Stands (found.or further) (place.or other) := by
  cases first with
  | some stands => exact .some stands
  | none => exact second

theorem rel_child {place : Place} (stands : build.Stands id place) (name : QName) :
    Option.Rel build.Stands (build.child id name) (place.child name) := by
  have mirrors := mirrors_build stands
  have rel := rel_or (rel_or (mirrors.lists.byName name)
    (mirrors.lists.byLocalName name.localName)) mirrors.wildcard
  have same : place.child name =
      ((place.byName.lookup name).or (place.byLocalName.lookup name.localName)).or
        place.wildcard := by
    unfold Place.child
    cases place.byName.lookup name with
    | some found => rfl
    | none => cases place.byLocalName.lookup name.localName <;> rfl
  exact same ▸ rel

/-- A path of tags leads through the graph to the rule of the place it leads to. -/
theorem rel_follow {start : Option RuleId} {place : Option Place}
    (rel : Option.Rel build.Stands start place) (path : List QName) :
    Option.Rel build.Stands (build.follow start path) (Place.follow place path) := by
  induction path generalizing start place with
  | nil => exact rel
  | cons name rest ih =>
    refine ih ?_
    cases rel with
    | some stands => exact rel_child stands name
    | none => exact .none

theorem follow_append (rules : RuleSet) (start : Option RuleId) (path further : List QName) :
    rules.follow start (path ++ further) = rules.follow (rules.follow start path) further :=
  List.foldl_append

theorem follow_none (rules : RuleSet) (path : List QName) : rules.follow none path = none := by
  induction path with
  | nil => rfl
  | cons name rest ih => exact ih

def Reaches (rules : RuleSet) (path : List QName) (kind : Kind) : Prop :=
  ∃ id, rules.follow (some root) path = some id ∧ (rules.rule id).kind = some kind

def ReachesFree (rules : RuleSet) (path : List QName) : Prop :=
  ∃ id, rules.follow (some root) path = some id ∧ rules.anything = some id

theorem rel_document (path : List QName) :
    Option.Rel build.Stands (build.follow (some root) path) (Place.follow (some .document) path) :=
  rel_follow (.some (show build.Stands root .document from rfl)) path

theorem reaches_iff {path : List QName} {kind : Kind} :
    build.Reaches path kind ↔ Place.follow (some .document) path = some (.tag kind) := by
  have rel := rel_document path
  unfold Reaches
  generalize build.follow (some root) path = found at rel ⊢
  generalize Place.follow (some .document) path = place at rel ⊢
  cases rel with
  | none => simp
  | @some id place stands =>
    have same := (mirrors_build stands).kind
    cases place <;> simp [same, Place.kind?, eq_comm]

theorem reachesFree_iff {path : List QName} :
    build.ReachesFree path ↔ Place.follow (some .document) path = some .anything := by
  have rel := rel_document path
  unfold ReachesFree
  generalize build.follow (some root) path = found at rel ⊢
  generalize Place.follow (some .document) path = place at rel ⊢
  cases rel with
  | none => simp
  | @some id place stands =>
    have mirrors := mirrors_build stands
    constructor
    · rintro ⟨_, same, free⟩
      obtain rfl := Option.some.inj same
      have other := mirrors_build (show build.Stands id .anything from free)
      cases place with
      | anything => rfl
      | tag kind => cases mirrors.kind.symm.trans other.kind
      | document =>
        have lacks := mirrors.wildcard
        have has := other.wildcard
        generalize (build.rule _).wildcard = wildcard at lacks has
        cases lacks
        cases has
    · intro same
      cases same
      exact ⟨id, rfl, stands⟩

theorem follow_eq_none_iff {path : List QName} :
    build.follow (some root) path = none ↔
      path ≠ [] ∧ (∀ kind, ¬ build.Reaches path kind) ∧ ¬ build.ReachesFree path := by
  have rel := rel_document path
  simp only [reaches_iff, reachesFree_iff, ne_eq, ← @Place.follow_eq_document_iff path]
  generalize build.follow (some root) path = found at rel ⊢
  generalize Place.follow (some .document) path = place at rel ⊢
  cases rel with
  | none => simp
  | @some id place stands => cases place <;> simp

theorem byName_eq {id : RuleId} {place : Place} (stands : build.Stands id place) (name : QName) :
    (build.rule id).byName.get? name =
      if name.uri = some schemaUri then (build.rule id).byLocalName.get? name.localName
      else none := by
  have lists := (mirrors_build stands).lists
  have full : Option.Rel build.Stands _ (place.byName.lookup name) := lists.byName name
  rw [Place.lookup_byName] at full
  by_cases home : name.uri = some schemaUri
  next =>
    rw [if_pos home] at full ⊢
    exact rel_unique full (lists.byLocalName name.localName)
  next =>
    rw [if_neg home] at full ⊢
    exact rel_unique full .none

/-- The graph is the declared grammar. A path of tags leads to the rule of a kind where its local
names spell it, to that of free content where it goes on behind a documentation, and any other tags
lead to none, and so do tags inside them. The namespaces of the tags have no part in it: what a rule
lists under a full name of the namespace of schema tags it lists under the local part, and it lists
no other full name. -/
theorem follow_build (path : List QName) :
    (∀ kind, build.Reaches path kind ↔ Place.Spelled (path.map (·.localName)) kind) ∧
      (build.ReachesFree path ↔
        ∃ before name after, path = before ++ name :: after ∧
          build.Reaches before .documentation) ∧
      (build.follow (some root) path = none ↔
        path ≠ [] ∧ (∀ kind, ¬ build.Reaches path kind) ∧ ¬ build.ReachesFree path) ∧
      (build.follow (some root) path = none ->
        ∀ further, build.follow (some root) (path ++ further) = none) ∧
      (∀ other, other.map (·.localName) = path.map (·.localName) ->
        build.follow (some root) other = build.follow (some root) path) ∧
      (∀ id name, build.follow (some root) path = some id ->
        (build.rule id).byName.get? name =
          if name.uri = some schemaUri then (build.rule id).byLocalName.get? name.localName
          else none) := by
  refine ⟨fun kind => reaches_iff.trans Place.follow_eq_tag_iff, ?_, follow_eq_none_iff, ?_, ?_, ?_⟩
  · simp only [reachesFree_iff, reaches_iff]
    exact Place.follow_eq_anything_iff
  · intro lost further
    rw [follow_append, lost, follow_none]
  · intro other same
    have rel := rel_document other
    rw [Place.follow_congr _ same] at rel
    exact rel_unique rel (rel_document path)
  · intro id name leads
    have rel := rel_document path
    rw [leads] at rel
    generalize Place.follow (some .document) path = place at rel
    cases rel with
    | some stands => exact byName_eq stands name

end RuleSet

end XmlSchema

import Mathlib.Logic.Basic
import XmlSchema.Proofs.Registry

set_option autoImplicit false

namespace XmlSchema.Namespaces

structure Extends (old new : Namespaces) : Prop where
  name : ∀ id name, (old.get id).name = some name -> (new.get id).name = some name
  url : ∀ id, (old.get id).url ≠ none -> (new.get id).url ≠ none
  find : ∀ name id, old.find name = some id -> new.find name = some id

/-- Every namespace has a name and is what that name leads to, and what a URL leads to has that
URL. -/
structure Labelled (namespaces : Namespaces) : Prop where
  named : ∀ id, id.index < namespaces.size -> (namespaces.get id).name ≠ none
  find : ∀ name id, namespaces.find name = some id ↔ (namespaces.get id).name = some name
  findByUrl : ∀ url id, namespaces.findByUrl url = some id -> (namespaces.get id).url = some url

def Located (namespaces : Namespaces) (name : String) : Prop :=
  ∃ id, namespaces.find name = some id ∧ (namespaces.get id).url ≠ none

theorem within_of_name {namespaces : Namespaces} {id : NamespaceId} {name : String}
    (there : (namespaces.get id).name = some name) : id.index < namespaces.size := by
  refine Nat.not_le.mp fun outside => ?_
  rw [get_of_size_le namespaces outside] at there
  cases there

theorem within_of_url {namespaces : Namespaces} {id : NamespaceId}
    (there : (namespaces.get id).url ≠ none) : id.index < namespaces.size := by
  refine Nat.not_le.mp fun outside => there ?_
  rw [get_of_size_le namespaces outside]
  rfl

section

variable {namespaces : Namespaces} {id : NamespaceId}

theorem withName_of_named (named : (namespaces.get id).name ≠ none) (name : Option String) :
    namespaces.withName id name = namespaces := by
  unfold withName
  split
  next unnamed => exact absurd unnamed named
  next => rfl

theorem withUrl_of_located (located : (namespaces.get id).url ≠ none) (url : Option String) :
    namespaces.withUrl id url = namespaces := by
  unfold withUrl
  split
  next unlocated => exact absurd unlocated located
  next => rfl

theorem withName_of_unnamed (unnamed : (namespaces.get id).name = none) (name : String) :
    namespaces.withName id (some name) =
      { namespaces.change id fun entry => { entry with name := some name } with
        byName := namespaces.byName.insertNew name id } := by
  unfold withName
  rw [unnamed]

theorem withUrl_of_unlocated (unlocated : (namespaces.get id).url = none) (url : String) :
    namespaces.withUrl id (some url) =
      { namespaces.change id fun entry => { entry with url := some url } with
        byUrl := namespaces.byUrl.insertNew url id } := by
  unfold withUrl
  rw [unlocated]

theorem get_withShort (short : Option String) (other : NamespaceId) :
    ((namespaces.withShort id short).get other).name = (namespaces.get other).name ∧
      ((namespaces.withShort id short).get other).url = (namespaces.get other).url := by
  unfold withShort
  split
  · exact ⟨keeps_change Namespace.name namespaces id other fun _ => rfl,
      keeps_change Namespace.url namespaces id other fun _ => rfl⟩
  · exact ⟨rfl, rfl⟩

theorem find_withShort (short : Option String) :
    (namespaces.withShort id short).find = namespaces.find ∧
      (namespaces.withShort id short).findByUrl = namespaces.findByUrl := by
  unfold withShort
  split <;> exact ⟨rfl, rfl⟩

theorem find_withUrl (url : Option String) : (namespaces.withUrl id url).find = namespaces.find := by
  unfold withUrl
  split <;> rfl

theorem name_withUrl (url : Option String) (other : NamespaceId) :
    ((namespaces.withUrl id url).get other).name = (namespaces.get other).name := by
  unfold withUrl
  split
  · exact keeps_change Namespace.name namespaces id other fun _ => rfl
  · rfl

theorem of_findByUrl_withUrl {url : Option String} {place : String} {other : NamespaceId}
    (found : (namespaces.withUrl id url).findByUrl place = some other) :
    namespaces.findByUrl place = some other ∨
      url = some place ∧ other = id ∧ (namespaces.get other).url = none := by
  unfold withUrl at found
  split at found
  next url unlocated =>
    unfold findByUrl at found ⊢
    rw [Table.get?_insertNew] at found
    split at found
    next same =>
      cases before : namespaces.byUrl.get? place with
      | some first =>
          rw [before, Option.getD_some] at found
          exact .inl found
      | none =>
          rw [before, Option.getD_none] at found
          obtain rfl := Option.some.inj found
          exact .inr ⟨congrArg some same.symm, rfl, unlocated⟩
    next => exact .inl found
  next => exact .inl found

theorem findByUrl_withName (name : Option String) :
    (namespaces.withName id name).findByUrl = namespaces.findByUrl := by
  unfold withName
  split <;> rfl

theorem url_withName (name : Option String) (other : NamespaceId) :
    ((namespaces.withName id name).get other).url = (namespaces.get other).url := by
  unfold withName
  split
  · exact keeps_change Namespace.url namespaces id other fun _ => rfl
  · rfl

def withNew (namespaces : Namespaces) (root : ScopeId) (name : String) : Namespaces :=
  ({ namespaces with all := namespaces.all.push (.fresh root) } : Namespaces).withName
    ⟨namespaces.size⟩ (some name)

theorem size_withNew (root : ScopeId) (name : String) :
    (namespaces.withNew root name).size = namespaces.size + 1 :=
  (size_withName ..).trans (Array.size_push ..)

theorem withNew_eq (root : ScopeId) (name : String) :
    namespaces.withNew root name =
      { ({ namespaces with all := namespaces.all.push (.fresh root) } : Namespaces).change
          ⟨namespaces.size⟩ fun entry => { entry with name := some name } with
        byName := namespaces.byName.insertNew name ⟨namespaces.size⟩ } := by
  refine withName_of_unnamed ?_ name
  rw [get_push, if_pos rfl]
  rfl

theorem name_withNew (root : ScopeId) (name : String) (id : NamespaceId) :
    ((namespaces.withNew root name).get id).name =
      if id.index = namespaces.size then some name else (namespaces.get id).name := by
  have size : ({ namespaces with all := namespaces.all.push (.fresh root) } : Namespaces).size =
      namespaces.size + 1 := Array.size_push ..
  rw [withNew_eq]
  refine (congrArg Namespace.name (get_change _ _ id _)).trans ?_
  by_cases same : id.index = namespaces.size
  · rw [if_pos ⟨congrArg NamespaceId.mk same, by omega⟩, if_pos same]
  · rw [if_neg fun both => same (congrArg NamespaceId.index both.1), if_neg same, get_push,
      if_neg same]

theorem url_withNew {root : ScopeId} {name : String} {id : NamespaceId}
    (earlier : id.index ≠ namespaces.size) :
    ((namespaces.withNew root name).get id).url = (namespaces.get id).url := by
  unfold withNew
  rw [url_withName, get_push, if_neg earlier]

theorem find_withNew {root : ScopeId} {name : String} (fresh : namespaces.find name = none)
    (label : String) :
    (namespaces.withNew root name).find label =
      if label = name then some ⟨namespaces.size⟩ else namespaces.find label := by
  rw [withNew_eq]
  refine (Table.get?_insertNew ..).trans ?_
  by_cases same : label = name
  · subst same
    rw [if_pos rfl, if_pos rfl, show namespaces.byName.get? label = none from fresh,
      Option.getD_none]
  · rw [if_neg same, if_neg same]
    rfl

theorem findByUrl_withNew (root : ScopeId) (name : String) :
    (namespaces.withNew root name).findByUrl = namespaces.findByUrl := findByUrl_withName _

end

namespace Extends

variable {namespaces middle other : Namespaces} {id : NamespaceId}

theorem refl (namespaces : Namespaces) : namespaces.Extends namespaces :=
  ⟨fun _ _ => id, fun _ => id, fun _ _ => id⟩

theorem trans (first : namespaces.Extends middle) (second : middle.Extends other) :
    namespaces.Extends other where
  name id name there := second.name id name (first.name id name there)
  url id there := second.url id (first.url id there)
  find name id there := second.find name id (first.find name id there)

theorem located (grown : namespaces.Extends other) {name : String}
    (located : namespaces.Located name) : other.Located name := by
  obtain ⟨id, found, there⟩ := located
  exact ⟨id, grown.find name id found, grown.url id there⟩

theorem withName (namespaces : Namespaces) (id : NamespaceId) (name : Option String) :
    namespaces.Extends (namespaces.withName id name) := by
  refine ⟨fun other before there => ?_, fun other there => ?_, fun label other there => ?_⟩
  · unfold Namespaces.withName
    split
    next unnamed =>
      -- the namespace that gets a name had none
      refine (congrArg Namespace.name (get_change namespaces id other _)).trans ?_
      rw [if_neg]
      · exact there
      · rintro ⟨rfl, -⟩
        cases unnamed.symm.trans there
    next => exact there
  · rw [url_withName]
    exact there
  · unfold Namespaces.withName
    split
    · unfold Namespaces.find at there ⊢
      rw [Table.get?_insertNew, there]
      split <;> rfl
    · exact there

theorem withUrl (namespaces : Namespaces) (id : NamespaceId) (url : Option String) :
    namespaces.Extends (namespaces.withUrl id url) := by
  refine ⟨fun other before there => (name_withUrl url other).trans there, fun other there => ?_,
    fun label other there => (congrFun (find_withUrl url) label).trans there⟩
  unfold Namespaces.withUrl
  split
  · refine (congrArg Namespace.url (get_change namespaces id other _)).trans_ne ?_
    split
    · exact Option.some_ne_none _
    · exact there
  · exact there

theorem withShort (namespaces : Namespaces) (id : NamespaceId) (short : Option String) :
    namespaces.Extends (namespaces.withShort id short) :=
  ⟨fun other _ there => (get_withShort short other).1.trans there,
    fun other there => (get_withShort short other).2.trans_ne there,
    fun label _ there => (congrFun (find_withShort short).1 label).trans there⟩

theorem describe (namespaces : Namespaces) (id : NamespaceId) (name url short : Option String) :
    namespaces.Extends (namespaces.describe id name url short) :=
  ((withName namespaces id name).trans (withUrl _ id url)).trans (withShort _ id short)

theorem change (namespaces : Namespaces) (id : NamespaceId) {f : Namespace -> Namespace}
    (name : ∀ entry, (f entry).name = entry.name) (url : ∀ entry, (f entry).url = entry.url) :
    namespaces.Extends (namespaces.change id f) :=
  ⟨fun other _ there => (keeps_change Namespace.name namespaces id other name).trans there,
    fun other there => (keeps_change Namespace.url namespaces id other url).trans_ne there,
    fun _ _ there => there⟩

theorem push (namespaces : Namespaces) (entry : Namespace) :
    namespaces.Extends { namespaces with all := namespaces.all.push entry } := by
  have before {id : NamespaceId} (inside : id.index < namespaces.size) :
      ({ namespaces with all := namespaces.all.push entry } : Namespaces).get id =
        namespaces.get id := by
    rw [get_push, if_neg (Nat.ne_of_lt inside)]
  refine ⟨fun id name there => ?_, fun id there => ?_, fun _ _ => id⟩
  · rw [before (within_of_name there)]
    exact there
  · rw [before (within_of_url there)]
    exact there

theorem register (namespaces : Namespaces) (scopes : Scopes) (name url short : Option String) :
    namespaces.Extends (namespaces.register scopes name url short).namespaces := by
  rcases namespaces.register_cases scopes name url short with ⟨id, -, same⟩ | ⟨-, same⟩ <;> rw [same]
  · exact describe ..
  · exact (push namespaces _).trans (describe ..)

end Extends

namespace Labelled

variable {namespaces : Namespaces} {id : NamespaceId} {name : String}

theorem congr {other : Namespaces} (labelled : namespaces.Labelled)
    (size : other.size = namespaces.size)
    (name : ∀ id, (other.get id).name = (namespaces.get id).name)
    (url : ∀ id, (other.get id).url = (namespaces.get id).url)
    (find : other.find = namespaces.find) (findByUrl : other.findByUrl = namespaces.findByUrl) :
    other.Labelled where
  named id within := by
    rw [name]
    exact labelled.named id (size ▸ within)
  find label id := by
    rw [find, name]
    exact labelled.find label id
  findByUrl located id found := by
    rw [url]
    exact labelled.findByUrl located id (findByUrl ▸ found)

theorem change (labelled : namespaces.Labelled) (id : NamespaceId) {f : Namespace -> Namespace}
    (name : ∀ entry, (f entry).name = entry.name) (url : ∀ entry, (f entry).url = entry.url) :
    (namespaces.change id f).Labelled :=
  labelled.congr (size_change ..) (fun other => keeps_change Namespace.name namespaces id other name)
    (fun other => keeps_change Namespace.url namespaces id other url) rfl rfl

theorem withShort (labelled : namespaces.Labelled) (id : NamespaceId) (short : Option String) :
    (namespaces.withShort id short).Labelled :=
  labelled.congr (size_withShort ..) (fun other => (get_withShort short other).1)
    (fun other => (get_withShort short other).2) (find_withShort short).1 (find_withShort short).2

theorem withUrl (labelled : namespaces.Labelled) (within : id.index < namespaces.size)
    (url : Option String) : (namespaces.withUrl id url).Labelled := by
  cases url with
  | none => exact labelled
  | some url =>
      by_cases located : (namespaces.get id).url = none
      next =>
        refine ⟨fun other inside => ?_, fun label other => ?_, fun place other found => ?_⟩
        · rw [name_withUrl]
          exact labelled.named other (size_withUrl namespaces id _ ▸ inside)
        · rw [find_withUrl, name_withUrl]
          exact labelled.find label other
        · rw [withUrl_of_unlocated located]
          refine (congrArg Namespace.url (get_change namespaces id other _)).trans ?_
          rcases of_findByUrl_withUrl found with before | ⟨same, rfl, -⟩
          next =>
            have there := labelled.findByUrl place other before
            rw [if_neg]
            · exact there
            · rintro ⟨rfl, -⟩
              cases located.symm.trans there
          next => rw [if_pos ⟨rfl, within⟩, ← same]
      next =>
        rw [withUrl_of_located located]
        exact labelled

theorem withNew (labelled : namespaces.Labelled) (fresh : namespaces.find name = none)
    (root : ScopeId) : (namespaces.withNew root name).Labelled := by
  constructor
  case named =>
    intro id within
    rw [name_withNew]
    split
    next => exact Option.some_ne_none _
    next earlier =>
      rw [size_withNew] at within
      exact labelled.named id (by omega)
  case find =>
    intro label id
    rw [find_withNew fresh, name_withNew]
    by_cases same : label = name <;> by_cases here : id.index = namespaces.size
    next =>
      rw [if_pos same, if_pos here, same]
      exact iff_of_true (congrArg (fun index => some (NamespaceId.mk index)) here.symm) rfl
    next =>
      rw [if_pos same, if_neg here, ← labelled.find, same, fresh]
      refine iff_of_false (fun found => here ?_) nofun
      exact (congrArg NamespaceId.index (Option.some.inj found)).symm
    next =>
      rw [if_neg same, if_pos here, labelled.find,
        get_of_size_le namespaces (Nat.le_of_eq here.symm)]
      exact iff_of_false nofun fun found => same (Option.some.inj found).symm
    next => rw [if_neg same, if_neg here, labelled.find]
  case findByUrl =>
    intro place id found
    rw [findByUrl_withNew] at found
    have there := labelled.findByUrl place id found
    have inside := within_of_url (there.trans_ne (Option.some_ne_none _))
    rw [url_withNew (Nat.ne_of_lt inside)]
    exact there

theorem within_known (labelled : namespaces.Labelled) {name url : Option String}
    (known : namespaces.known name url = some id) : id.index < namespaces.size := by
  rcases known_cases known with named | ⟨-, located⟩
  · obtain ⟨label, -, there⟩ := Option.bind_eq_some_iff.mp named
    exact within_of_name ((labelled.find label _).mp there)
  · obtain ⟨place, -, there⟩ := Option.bind_eq_some_iff.mp located
    exact within_of_url ((labelled.findByUrl place _ there).trans_ne (Option.some_ne_none _))

theorem register (labelled : namespaces.Labelled) (scopes : Scopes) (name : String)
    (url short : Option String) :
    (namespaces.register scopes (some name) url short).namespaces.Labelled := by
  rcases namespaces.register_cases scopes (some name) url short with ⟨id, known, same⟩ |
    ⟨unknown, same⟩ <;> rw [same, describe]
  · have within := labelled.within_known known
    rw [withName_of_named (labelled.named id within)]
    exact (labelled.withUrl within _).withShort id _
  · have added := labelled.withNew (find_of_unknown unknown) scopes.next
    refine (added.withUrl ?_ _).withShort _ _
    rw [size_withNew]
    exact Nat.lt_succ_self _

end Labelled

theorem labelled_empty (builtins : ScopeId) : (empty builtins).Labelled where
  named _ within := absurd within (Nat.not_lt_zero _)
  find name id := iff_of_false nofun fun named => Nat.not_lt_zero _ (within_of_name named)
  findByUrl _ _ found := by cases found

section

variable {namespaces : Namespaces} {name : String} {url short : Option String}

theorem id_register_of_find (scopes : Scopes) {id : NamespaceId}
    (found : namespaces.find name = some id) :
    (namespaces.register scopes (some name) url short).id = id := by
  have known : namespaces.known (some name) (nonempty url) = some id := by
    unfold known
    rw [Option.bind_some, found]
  unfold register
  dsimp only
  rw [known]

theorem name_register (labelled : namespaces.Labelled) (scopes : Scopes)
    (apart : namespaces.find name ≠ none ∨ (nonempty url).bind namespaces.findByUrl = none) :
    ((namespaces.register scopes (some name) url short).namespaces.get
      (namespaces.register scopes (some name) url short).id).name = some name := by
  cases found : namespaces.find name with
  | some id =>
      rw [id_register_of_find scopes found]
      exact (Extends.register ..).name id name ((labelled.find name id).mp found)
  | none =>
      have unknown : namespaces.known (some name) (nonempty url) = none := by
        unfold known
        rw [Option.bind_some, found]
        exact apart.resolve_left (absurd found)
      unfold register describe
      dsimp only
      rw [unknown]
      dsimp only
      rw [(get_withShort ..).1, name_withUrl]
      have within : namespaces.size < (namespaces.all.push (.fresh scopes.next)).size := by
        rw [Array.size_push]
        exact Nat.lt_succ_self _
      rw [withName_of_unnamed]
      · refine (congrArg Namespace.name (get_change ..)).trans ?_
        rw [if_pos ⟨rfl, within⟩]
      · rw [get_push, if_pos rfl]
        rfl

theorem url_register (labelled : namespaces.Labelled) (scopes : Scopes) {place : String}
    (given : nonempty url = some place) :
    ((namespaces.register scopes (some name) url short).namespaces.get
      (namespaces.register scopes (some name) url short).id).url ≠ none := by
  have described {namespaces : Namespaces} {id : NamespaceId} (within : id.index < namespaces.size) :
      ((namespaces.describe id (some name) (nonempty url) (nonempty short)).get id).url ≠ none := by
    unfold describe
    rw [(get_withShort ..).2, given]
    have inside : id.index < (namespaces.withName id (some name)).size := by
      rw [size_withName]
      exact within
    by_cases located : ((namespaces.withName id (some name)).get id).url = none
    next =>
      rw [withUrl_of_unlocated located]
      refine (congrArg Namespace.url (get_change ..)).trans_ne ?_
      rw [if_pos ⟨rfl, inside⟩]
      exact Option.some_ne_none _
    next =>
      rw [withUrl_of_located located]
      exact located
  rcases namespaces.register_cases scopes (some name) url short with ⟨id, known, same⟩ |
    ⟨-, same⟩ <;> rw [same]
  · exact described (labelled.within_known known)
  · refine described ?_
    simp [size]

theorem findByUrl_register (scopes : Scopes) {place : String} {id : NamespaceId}
    (found : (namespaces.register scopes (some name) url short).namespaces.findByUrl place = some id) :
    namespaces.findByUrl place = some id ∨ nonempty url = some place ∧
      id = (namespaces.register scopes (some name) url short).id ∧ (namespaces.get id).url = none := by
  have described {namespaces : Namespaces} {other : NamespaceId}
      (found : (namespaces.describe other (some name) (nonempty url) (nonempty short)).findByUrl
        place = some id) :
      namespaces.findByUrl place = some id ∨
        nonempty url = some place ∧ id = other ∧ (namespaces.get id).url = none := by
    unfold describe at found
    rw [(find_withShort ..).2] at found
    have learned := of_findByUrl_withUrl found
    rw [findByUrl_withName, url_withName] at learned
    exact learned
  rcases namespaces.register_cases scopes (some name) url short with ⟨known, -, same⟩ |
    ⟨-, same⟩ <;> rw [same] at found ⊢
  · exact described found
  · refine (described found).imp_right fun ⟨given, last, _⟩ => ⟨given, last, ?_⟩
    have outside : namespaces.size ≤ id.index := Nat.le_of_eq (congrArg NamespaceId.index last).symm
    rw [get_of_size_le namespaces outside]
    rfl

end

end XmlSchema.Namespaces

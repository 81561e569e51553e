import XmlSchema.Builtin
import XmlSchema.Namespaces

set_option autoImplicit false

namespace XmlSchema.Namespaces

structure Rooted (namespaces : Namespaces) (scopes : Scopes) : Prop where
  builtins : namespaces.builtins = Builtin.scope
  byName : ∀ name id, namespaces.byName.get? name = some id -> id.index < namespaces.size
  byUrl : ∀ url id, namespaces.byUrl.get? url = some id -> id.index < namespaces.size
  inside : ∀ id, id.index < namespaces.size ->
    (namespaces.get id).root.index < scopes.size
  around : ∀ id, id.index < namespaces.size ->
    (scopes.get (namespaces.get id).root).parent = some Builtin.scope

section

variable {namespaces : Namespaces} {name url : Option String} {id : NamespaceId}

theorem known_cases (known : namespaces.known name url = some id) :
    name.bind namespaces.find = some id ∨
      name.bind namespaces.find = none ∧ url.bind namespaces.findByUrl = some id := by
  unfold Namespaces.known at known
  split at known
  next found =>
    cases known
    exact .inl found
  next unknown => exact .inr ⟨unknown, known⟩

theorem find_of_unknown (unknown : namespaces.known name url = none) :
    name.bind namespaces.find = none := by
  unfold known at unknown
  split at unknown
  next => cases unknown
  next fresh => exact fresh

theorem register_cases (namespaces : Namespaces) (scopes : Scopes) (name url short : Option String) :
    (∃ id, namespaces.known name (nonempty url) = some id ∧
      namespaces.register scopes name url short =
        ⟨namespaces.describe id name (nonempty url) (nonempty short), scopes, id⟩) ∨
    namespaces.known name (nonempty url) = none ∧
      namespaces.register scopes name url short =
        ⟨({ namespaces with all := namespaces.all.push (.fresh scopes.next) } :
          Namespaces).describe ⟨namespaces.size⟩ name (nonempty url) (nonempty short),
        scopes.create (some namespaces.builtins) (some ⟨namespaces.size⟩), ⟨namespaces.size⟩⟩ := by
  unfold register
  dsimp only
  split
  next id known => exact .inl ⟨id, known, rfl⟩
  next unknown => exact .inr ⟨unknown, rfl⟩

end

theorem get_change (namespaces : Namespaces) (id other : NamespaceId)
    (f : Namespace -> Namespace) :
    (namespaces.change id f).get other =
      if other = id ∧ other.index < namespaces.size then f (namespaces.get other)
      else namespaces.get other := by
  obtain ⟨i⟩ := id
  obtain ⟨j⟩ := other
  simpa [get, change, size] using Numbered.getD_modify namespaces.all i j f

theorem get_push (namespaces : Namespaces) (entry : Namespace) (id : NamespaceId) :
    ({ namespaces with all := namespaces.all.push entry } : Namespaces).get id =
      if id.index = namespaces.size then entry else namespaces.get id :=
  Numbered.getD_push namespaces.all entry id.index

theorem get_of_size_le (namespaces : Namespaces) {id : NamespaceId}
    (outside : namespaces.size ≤ id.index) : namespaces.get id = default :=
  Numbered.getD_of_size_le namespaces.all outside

@[simp] theorem size_change (namespaces : Namespaces) (id : NamespaceId)
    (f : Namespace -> Namespace) : (namespaces.change id f).size = namespaces.size := by
  simp [change, size]

theorem keeps_change {α : Type} (look : Namespace -> α) (namespaces : Namespaces)
    (id other : NamespaceId) {f : Namespace -> Namespace}
    (keeps : ∀ entry, look (f entry) = look entry) :
    look ((namespaces.change id f).get other) = look (namespaces.get other) := by
  rw [get_change]
  split
  · exact keeps _
  · rfl

namespace Rooted

variable {namespaces : Namespaces} {scopes : Scopes}

theorem change (rooted : namespaces.Rooted scopes) (id : NamespaceId) {f : Namespace -> Namespace}
    (keeps : ∀ entry, (f entry).root = entry.root) : (namespaces.change id f).Rooted scopes where
  builtins := rooted.builtins
  byName name other found := by simpa using rooted.byName name other found
  byUrl url other found := by simpa using rooted.byUrl url other found
  inside other within := by
    rw [keeps_change Namespace.root namespaces id other keeps]
    exact rooted.inside other (by simpa using within)
  around other within := by
    rw [keeps_change Namespace.root namespaces id other keeps]
    exact rooted.around other (by simpa using within)

theorem withName (rooted : namespaces.Rooted scopes) {id : NamespaceId}
    (within : id.index < namespaces.size) (name : Option String) :
    (namespaces.withName id name).Rooted scopes := by
  unfold Namespaces.withName
  split
  next name _ =>
    have changed := rooted.change id (f := fun entry => { entry with name := some name })
      fun _ => rfl
    refine ⟨changed.builtins, ?_, changed.byUrl, changed.inside, changed.around⟩
    intro other found get
    rcases Table.of_get?_insertNew get with rfl | there
    · exact Nat.lt_of_lt_of_eq within (size_change ..).symm
    · exact changed.byName other found there
  next => exact rooted

theorem withUrl (rooted : namespaces.Rooted scopes) {id : NamespaceId}
    (within : id.index < namespaces.size) (url : Option String) :
    (namespaces.withUrl id url).Rooted scopes := by
  unfold Namespaces.withUrl
  split
  next url _ =>
    have changed := rooted.change id (f := fun entry => { entry with url := some url })
      fun _ => rfl
    refine ⟨changed.builtins, changed.byName, ?_, changed.inside, changed.around⟩
    intro other found get
    rcases Table.of_get?_insertNew get with rfl | there
    · exact Nat.lt_of_lt_of_eq within (size_change ..).symm
    · exact changed.byUrl other found there
  next => exact rooted

theorem withShort (rooted : namespaces.Rooted scopes) (id : NamespaceId) (short : Option String) :
    (namespaces.withShort id short).Rooted scopes := by
  unfold Namespaces.withShort
  split
  next => exact rooted.change id fun _ => rfl
  next => exact rooted

end Rooted

@[simp] theorem size_withName (namespaces : Namespaces) (id : NamespaceId)
    (name : Option String) : (namespaces.withName id name).size = namespaces.size := by
  unfold withName
  split
  · exact size_change namespaces id _
  · rfl

@[simp] theorem size_withUrl (namespaces : Namespaces) (id : NamespaceId)
    (url : Option String) : (namespaces.withUrl id url).size = namespaces.size := by
  unfold withUrl
  split
  · exact size_change namespaces id _
  · rfl

@[simp] theorem size_withShort (namespaces : Namespaces) (id : NamespaceId)
    (short : Option String) : (namespaces.withShort id short).size = namespaces.size := by
  unfold withShort
  split
  · exact size_change namespaces id _
  · rfl

@[simp] theorem size_describe (namespaces : Namespaces) (id : NamespaceId)
    (name url short : Option String) :
    (namespaces.describe id name url short).size = namespaces.size := by
  simp [describe]

theorem size_register_le (namespaces : Namespaces) (scopes : Scopes)
    (name url short : Option String) :
    namespaces.size ≤ (namespaces.register scopes name url short).namespaces.size := by
  rcases namespaces.register_cases scopes name url short with ⟨id, -, same⟩ | ⟨-, same⟩
  · simp [same]
  · rw [same, size_describe]
    simp [size]

namespace Rooted

variable {namespaces : Namespaces} {scopes : Scopes}

theorem describe (rooted : namespaces.Rooted scopes) {id : NamespaceId}
    (within : id.index < namespaces.size) (name url short : Option String) :
    (namespaces.describe id name url short).Rooted scopes := by
  have named := rooted.withName within name
  have still : id.index < (namespaces.withName id name).size := by simpa using within
  have located := named.withUrl still url
  exact located.withShort id short

theorem known (rooted : namespaces.Rooted scopes) {name url : Option String} {id : NamespaceId}
    (found : namespaces.known name url = some id) : id.index < namespaces.size := by
  rcases known_cases found with named | ⟨-, located⟩
  · obtain ⟨name, -, there⟩ := Option.bind_eq_some_iff.mp named
    exact rooted.byName name id there
  · obtain ⟨url, -, there⟩ := Option.bind_eq_some_iff.mp located
    exact rooted.byUrl url id there

theorem grow (rooted : namespaces.Rooted scopes) {larger : Scopes}
    (more : scopes.size ≤ larger.size)
    (keeps : ∀ id, id.index < scopes.size -> (larger.get id).parent = (scopes.get id).parent) :
    namespaces.Rooted larger where
  builtins := rooted.builtins
  byName := rooted.byName
  byUrl := rooted.byUrl
  inside id within := Nat.lt_of_lt_of_le (rooted.inside id within) more
  around id within := by
    rw [keeps _ (rooted.inside id within)]
    exact rooted.around id within

theorem push (rooted : namespaces.Rooted scopes) (home : Option NamespaceId) :
    ({ namespaces with all := namespaces.all.push (.fresh scopes.next) } : Namespaces).Rooted
      (scopes.create (some namespaces.builtins) home) := by
  have grown : namespaces.Rooted (scopes.create (some namespaces.builtins) home) := by
    refine rooted.grow (by simp) fun id within => ?_
    rw [Scopes.get_create, if_neg]
    rintro rfl
    exact Nat.lt_irrefl _ within
  generalize added : ({ namespaces with
    all := namespaces.all.push (.fresh scopes.next) } : Namespaces) = larger
  have size : larger.size = namespaces.size + 1 := by simp [← added, Namespaces.size]
  have get (id : NamespaceId) : larger.get id =
      if id.index = namespaces.size then .fresh scopes.next else namespaces.get id := by
    subst added
    exact Numbered.getD_push ..
  have root (id : NamespaceId) (within : id.index < larger.size) :
      (larger.get id).root.index < (scopes.create (some namespaces.builtins) home).size ∧
        ((scopes.create (some namespaces.builtins) home).get (larger.get id).root).parent =
          some Builtin.scope := by
    rw [get]
    split
    next =>
      have fresh : (Namespace.fresh scopes.next).root = scopes.next := rfl
      rw [fresh, Scopes.get_create, if_pos rfl, rooted.builtins]
      exact ⟨by simp [Scopes.next], rfl⟩
    next earlier =>
      have below : id.index < namespaces.size := by omega
      exact ⟨grown.inside id below, grown.around id below⟩
  refine ⟨?_, ?_, ?_, fun id within => (root id within).1, fun id within => (root id within).2⟩
  · simpa [← added] using rooted.builtins
  · intro name id found
    have below := rooted.byName name id (by simpa [← added] using found)
    omega
  · intro url id found
    have below := rooted.byUrl url id (by simpa [← added] using found)
    omega

theorem scopes_register (rooted : namespaces.Rooted scopes) (name url short : Option String) :
    (namespaces.register scopes name url short).scopes = scopes ∨
      ∃ home, (namespaces.register scopes name url short).scopes =
        scopes.create (some Builtin.scope) home := by
  rcases namespaces.register_cases scopes name url short with ⟨id, -, same⟩ | ⟨-, same⟩ <;> rw [same]
  · exact .inl rfl
  · exact .inr ⟨_, by rw [rooted.builtins]⟩

theorem register (rooted : namespaces.Rooted scopes) (name url short : Option String) :
    (namespaces.register scopes name url short).namespaces.Rooted
      (namespaces.register scopes name url short).scopes := by
  rcases namespaces.register_cases scopes name url short with ⟨id, known, same⟩ | ⟨-, same⟩ <;>
    rw [same]
  · exact rooted.describe (rooted.known known) ..
  · exact (rooted.push _).describe (by simp [size]) ..

theorem id_register (rooted : namespaces.Rooted scopes) (name url short : Option String) :
    (namespaces.register scopes name url short).id.index <
      (namespaces.register scopes name url short).namespaces.size := by
  rcases namespaces.register_cases scopes name url short with ⟨id, known, same⟩ | ⟨-, same⟩ <;>
    rw [same, size_describe]
  · exact rooted.known known
  · simp [size]

end Rooted

end XmlSchema.Namespaces

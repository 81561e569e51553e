import XmlSchema.Proofs.Labels

set_option autoImplicit false

namespace XmlSchema.Namespaces

structure Asked where
  name : Option String
  url : Option String
  short : Option String

structure Registry where
  namespaces : Namespaces
  scopes : Scopes

def Registry.empty (builtins : ScopeId) (scopes : Scopes) : Registry :=
  ⟨Namespaces.empty builtins, scopes⟩

namespace Registry

def ask (registry : Registry) (asked : Asked) : Registered :=
  registry.namespaces.register registry.scopes asked.name asked.url asked.short

def account (registry : Registry) (asked : Asked) : Registry :=
  ⟨(registry.ask asked).namespaces, (registry.ask asked).scopes⟩

def accounts : Registry -> List Asked -> Registry
  | registry, [] => registry
  | registry, asked :: rest => accounts (registry.account asked) rest

/-- The name is new and the URL is that of a namespace which has a name. -/
def Joins (registry : Registry) (name : String) (url : Option String) : Prop :=
  registry.namespaces.find name = none ∧
    ∃ id, (nonempty url).bind registry.namespaces.findByUrl = some id ∧
      (registry.namespaces.get id).name ≠ none

end Registry

/-- A name leads to the namespace that has it, if there is one, and a URL to a namespace that has
that URL. -/
structure Indexed (namespaces : Namespaces) : Prop where
  find : ∀ name id, namespaces.find name = some id ↔ (namespaces.get id).name = some name
  findByUrl : ∀ url id, namespaces.findByUrl url = some id -> (namespaces.get id).url = some url

theorem find_withName {namespaces : Namespaces} {id : NamespaceId}
    (unnamed : (namespaces.get id).name = none) (name label : String) :
    (namespaces.withName id (some name)).find label =
      if label = name then some ((namespaces.find label).getD id) else namespaces.find label := by
  rw [withName_of_unnamed unnamed]
  exact Table.get?_insertNew namespaces.byName name label id

namespace Indexed

variable {namespaces : Namespaces} {id : NamespaceId}

theorem of_known (indexed : namespaces.Indexed) {name url : Option String}
    (known : namespaces.known name url = some id) :
    id.index < namespaces.size ∧
      ((namespaces.get id).name ≠ none ∨ name.bind namespaces.find = none) := by
  rcases known_cases known with found | ⟨unknown, located⟩
  · obtain ⟨label, -, there⟩ := Option.bind_eq_some_iff.mp found
    have named := (indexed.find label _).mp there
    exact ⟨within_of_name named, .inl (by simp [named])⟩
  · obtain ⟨place, -, there⟩ := Option.bind_eq_some_iff.mp located
    exact ⟨within_of_url (by simp [indexed.findByUrl place id there]), .inr unknown⟩

theorem congr {other : Namespaces} (indexed : namespaces.Indexed)
    (name : ∀ id, (other.get id).name = (namespaces.get id).name)
    (url : ∀ id, (other.get id).url = (namespaces.get id).url)
    (find : other.find = namespaces.find) (findByUrl : other.findByUrl = namespaces.findByUrl) :
    other.Indexed where
  find label id := by
    rw [find, name]
    exact indexed.find label id
  findByUrl place id found := by
    rw [url]
    exact indexed.findByUrl place id (findByUrl ▸ found)

theorem push (indexed : namespaces.Indexed) (root : ScopeId) :
    ({ namespaces with all := namespaces.all.push (.fresh root) } : Namespaces).Indexed := by
  constructor
  next =>
    intro name id
    rw [get_push]
    refine (indexed.find name id).trans ?_
    split
    next last =>
      rw [get_of_size_le namespaces (Nat.le_of_eq last.symm)]
      exact Iff.rfl
    next => exact Iff.rfl
  next =>
    intro url id found
    have there := indexed.findByUrl url id found
    have inside : id.index < namespaces.size := within_of_url (by simp [there])
    rw [get_push, if_neg (Nat.ne_of_lt inside)]
    exact there

theorem withName (indexed : namespaces.Indexed) (within : id.index < namespaces.size)
    {name : Option String}
    (fresh : (namespaces.get id).name ≠ none ∨ name.bind namespaces.find = none) :
    (namespaces.withName id name).Indexed := by
  by_cases unnamed : (namespaces.get id).name = none
  next =>
    cases name with
    | none => exact indexed
    | some given =>
      have unknown : namespaces.find given = none := by simpa [unnamed] using fresh
      constructor
      next =>
        intro label other
        have named : ((namespaces.withName id (some given)).get other).name =
            if other = id then some given else (namespaces.get other).name := by
          rw [withName_of_unnamed unnamed]
          refine (congrArg Namespace.name (get_change namespaces id other _)).trans ?_
          by_cases same : other = id <;> simp [same, within]
        rw [find_withName unnamed, named]
        by_cases same : label = given
        next =>
          subst same
          -- the name is new, so no namespace has it before
          have elsewhere : (namespaces.get other).name ≠ some label := by
            simp [← indexed.find, unknown]
          by_cases here : id = other
          next => simp [here, unknown]
          next => simp [here, Ne.symm here, unknown, elsewhere]
        next =>
          by_cases here : other = id <;>
            simp [here, same, indexed.find, unnamed, Ne.symm same]
      next =>
        intro url other found
        rw [findByUrl_withName] at found
        rw [url_withName]
        exact indexed.findByUrl url other found
  next =>
    rw [withName_of_named unnamed]
    exact indexed

theorem withUrl (indexed : namespaces.Indexed) (within : id.index < namespaces.size)
    (url : Option String) : (namespaces.withUrl id url).Indexed := by
  constructor
  next =>
    intro label other
    rw [find_withUrl, name_withUrl]
    exact indexed.find label other
  next =>
    intro place other found
    rcases of_findByUrl_withUrl found with before | ⟨rfl, rfl, unlocated⟩
    next =>
      have there := indexed.findByUrl place other before
      unfold Namespaces.withUrl
      split
      next given unlocated =>
        have apart : other ≠ id := by
          rintro rfl
          simp [there] at unlocated
        refine (congrArg Namespace.url (get_change namespaces id other _)).trans ?_
        simp [apart, there]
      next => exact there
    next =>
      rw [withUrl_of_unlocated unlocated]
      refine (congrArg Namespace.url (get_change namespaces other other _)).trans ?_
      simp [within]

theorem withShort (indexed : namespaces.Indexed) (short : Option String) :
    (namespaces.withShort id short).Indexed :=
  indexed.congr (fun other => (get_withShort short other).1)
    (fun other => (get_withShort short other).2) (find_withShort short).1 (find_withShort short).2

theorem describe (indexed : namespaces.Indexed) (within : id.index < namespaces.size)
    {name : Option String}
    (fresh : (namespaces.get id).name ≠ none ∨ name.bind namespaces.find = none)
    (url short : Option String) : (namespaces.describe id name url short).Indexed :=
  ((indexed.withName within fresh).withUrl (by simpa using within) url).withShort short

theorem register (indexed : namespaces.Indexed) (scopes : Scopes) (name url short : Option String) :
    (namespaces.register scopes name url short).namespaces.Indexed := by
  rcases namespaces.register_cases scopes name url short with ⟨id, known, same⟩ | ⟨unknown, same⟩ <;>
    rw [same]
  · obtain ⟨within, fresh⟩ := indexed.of_known known
    exact indexed.describe within fresh ..
  · -- a namespace of a known name is found by it, so a new one brings a new name
    exact (indexed.push _).describe (by simp [size]) (.inr (find_of_unknown unknown)) ..

end Indexed

theorem find_describe (namespaces : Namespaces) (id : NamespaceId)
    (name url short : Option String) :
    (namespaces.describe id name url short).find = (namespaces.withName id name).find := by
  unfold describe
  rw [(find_withShort short).1, find_withUrl]

theorem find_describe_of_unnamed {namespaces : Namespaces} {id : NamespaceId} {name : String}
    (unnamed : (namespaces.get id).name = none) (unknown : namespaces.find name = none)
    (url short : Option String) :
    (namespaces.describe id (some name) url short).find name = some id := by
  simp [find_describe, find_withName unnamed, unknown]

namespace Registry

variable {registry : Registry} {name : String} {url : Option String}

theorem find_ask [Decidable (registry.Joins name url)] (short : Option String) :
    (registry.ask ⟨some name, url, short⟩).namespaces.find name =
      if registry.Joins name url then none else some (registry.ask ⟨some name, url, short⟩).id := by
  cases found : registry.namespaces.find name with
  | some id =>
    rw [if_neg fun joins => by simp [joins.1] at found]
    exact ((Extends.register ..).find name id found).trans
      (congrArg some (id_register_of_find registry.scopes found).symm)
  | none =>
    unfold ask Namespaces.register
    have known : registry.namespaces.known (some name) (nonempty url) =
        (nonempty url).bind registry.namespaces.findByUrl := by
      simp [Namespaces.known, found]
    dsimp only
    rw [known]
    cases led : (nonempty url).bind registry.namespaces.findByUrl with
    | some id =>
      dsimp only
      -- the URL leads to a namespace: if that has a name already, the new one is not indexed
      by_cases unnamed : (registry.namespaces.get id).name = none
      next =>
        rw [if_neg, find_describe_of_unnamed unnamed found]
        rintro ⟨-, other, there, named⟩
        obtain rfl : id = other := by simpa [led] using there
        exact named unnamed
      next =>
        rw [if_pos ⟨found, id, led, unnamed⟩, find_describe, withName_of_named unnamed, found]
    | none =>
      dsimp only
      generalize more : ({ registry.namespaces with
        all := registry.namespaces.all.push (.fresh registry.scopes.next) } : Namespaces) = added
      -- neither leads anywhere, so the name is that of a new namespace
      have fresh : added.find name = none := by
        rw [← more]
        exact found
      have unnamed : (added.get ⟨registry.namespaces.size⟩).name = none := by
        rw [← more, get_push, if_pos rfl]
        rfl
      rw [if_neg, find_describe_of_unnamed unnamed fresh]
      rintro ⟨-, id, there, -⟩
      simp [led] at there

theorem extends_accounts (registry : Registry) (asked : List Asked) :
    registry.namespaces.Extends (registry.accounts asked).namespaces := by
  induction asked generalizing registry with
  | nil => exact Extends.refl _
  | cons first rest ih => exact (Extends.register ..).trans (ih (registry.account first))

theorem indexed_accounts (indexed : registry.namespaces.Indexed) (asked : List Asked) :
    (registry.accounts asked).namespaces.Indexed := by
  induction asked generalizing registry with
  | nil => exact indexed
  | cons first rest ih => exact ih (indexed.register ..)

theorem indexed_empty (builtins : ScopeId) (scopes : Scopes) :
    (Registry.empty builtins scopes).namespaces.Indexed where
  find _ _ := iff_of_false nofun fun named => Nat.not_lt_zero _ (within_of_name named)
  findByUrl := nofun

theorem id_ask (asked : Asked) :
    (registry.ask asked).id =
      (registry.namespaces.known asked.name (nonempty asked.url)).getD
        ⟨registry.namespaces.size⟩ := by
  unfold ask
  rcases registry.namespaces.register_cases registry.scopes asked.name asked.url asked.short with
    ⟨id, known, same⟩ | ⟨unknown, same⟩ <;> rw [same]
  · rw [known, Option.getD_some]
  · rw [unknown, Option.getD_none]

theorem of_joins (indexed : registry.namespaces.Indexed) (joins : registry.Joins name url)
    (short : Option String) :
    ∃ other, other ≠ name ∧
      (registry.namespaces.get (registry.ask ⟨some name, url, short⟩).id).name = some other := by
  obtain ⟨unknown, id, led, named⟩ := joins
  obtain ⟨other, named⟩ := Option.ne_none_iff_exists'.mp named
  have same : (registry.ask ⟨some name, url, short⟩).id = id := by
    simp [id_ask, known, unknown, led]
  refine ⟨other, ?_, same ▸ named⟩
  rintro rfl
  simp [← indexed.find, unknown] at named

/-- The namespace that a call with a name gave out is what the name leads to after any further
calls, and what any later call with that name gives out, exactly where the call did not join a
namespace of another name. After one that did, a later call agrees with it only while the name is
still unknown, and by a URL. -/
theorem ask_twice (builtins : ScopeId) (scopes : Scopes) (before between : List Asked)
    (name : String) (url short place shorter : Option String) :
    let start := (Registry.empty builtins scopes).accounts before
    let first := start.ask ⟨some name, url, short⟩
    let later := (start.account ⟨some name, url, short⟩).accounts between
    let second := later.ask ⟨some name, place, shorter⟩
    (later.namespaces.find name = some first.id ↔ ¬ start.Joins name url) ∧
      (second.id = first.id ↔ ¬ start.Joins name url ∨
        later.namespaces.find name = none ∧
          (nonempty place).bind later.namespaces.findByUrl = some first.id) := by
  classical
  intro start first later second
  have indexed : start.namespaces.Indexed := indexed_accounts (indexed_empty ..) before
  have learned : first.namespaces.find name =
      if start.Joins name url then none else some first.id := find_ask short
  have grown : first.namespaces.Extends later.namespaces :=
    extends_accounts (start.account ⟨some name, url, short⟩) between
  have given : second.id = ((later.namespaces.known (some name) (nonempty place)).getD
      ⟨later.namespaces.size⟩) := id_ask _
  by_cases joins : start.Joins name url
  next =>
    obtain ⟨other, apart, named⟩ := of_joins indexed joins short
    have lasting : (later.namespaces.get first.id).name = some other :=
      grown.name _ _ ((Extends.register ..).name _ _ named)
    have within := within_of_name lasting
    -- the namespace that was joined keeps its own name, so this one never leads to it
    have never : later.namespaces.find name ≠ some first.id := by
      rw [Ne, (indexed_accounts (indexed.register ..) between : later.namespaces.Indexed).find,
        lasting]
      simpa using apart
    refine ⟨by simp [joins, never], ?_⟩
    cases found : later.namespaces.find name with
    | some id =>
      have elsewhere : id ≠ first.id := by simpa [found] using never
      simp [given, known, found, joins, elsewhere]
    | none =>
      cases led : (nonempty place).bind later.namespaces.findByUrl with
      | some id => simp [given, known, found, joins, led]
      | none =>
        have fresh : (⟨later.namespaces.size⟩ : NamespaceId) ≠ first.id := by
          intro same
          rw [← same] at within
          exact Nat.lt_irrefl _ within
        simp [given, known, found, joins, led, fresh]
  next =>
    have found : later.namespaces.find name = some first.id :=
      grown.find _ _ (by simp [learned, joins])
    simp [given, known, found, joins]

theorem ask_twice_joined :
    let start := (Registry.empty Builtin.scope Builtin.scopes).accounts
      [⟨some "urn:a", some "http://h/a", none⟩]
    let first := start.ask ⟨some "urn:b", some "http://h/a", none⟩
    let later := start.account ⟨some "urn:b", some "http://h/a", none⟩
    later.namespaces.find "urn:b" = none ∧
      (later.ask ⟨some "urn:b", none, none⟩).id ≠ first.id := by
  decide +kernel

end Registry

end XmlSchema.Namespaces

import XmlSchema.Proofs.Registering

set_option autoImplicit false

namespace XmlSchema

namespace Namespace

structure Tidy (id : NamespaceId) (entry : Namespace) : Prop where
  url : entry.url ≠ some ""
  short : entry.short ≠ some ""
  elsewhere : id ∉ entry.references
  once : entry.references.Nodup

structure Grows (old new : Namespace) : Prop where
  name : ∀ name, old.name = some name -> new.name = some name
  url : ∀ url, old.url = some url -> new.url = some url
  short : ∀ short, old.short = some short -> new.short = some short
  root : new.root = old.root
  sources : old.sources <+: new.sources

def described (entry : Namespace) (name url short : Option String) : Namespace :=
  { entry with
    name := entry.name.or name, url := entry.url.or url, short := entry.short.or short }

theorem Grows.refl (entry : Namespace) : entry.Grows entry :=
  ⟨fun _ => id, fun _ => id, fun _ => id, rfl, List.prefix_rfl⟩

theorem Grows.trans {old middle new : Namespace} (first : old.Grows middle)
    (second : middle.Grows new) : old.Grows new where
  name name there := second.name name (first.name name there)
  url url there := second.url url (first.url url there)
  short short there := second.short short (first.short short there)
  root := second.root.trans first.root
  sources := first.sources.trans second.sources

theorem grows_described (entry : Namespace) (name url short : Option String) :
    entry.Grows (entry.described name url short) where
  name given there := by simp [described, there]
  url given there := by simp [described, there]
  short given there := by simp [described, there]
  root := rfl
  sources := List.prefix_rfl

theorem tidy_fresh (id : NamespaceId) (root : ScopeId) : (fresh root).Tidy id :=
  ⟨nofun, nofun, List.not_mem_nil, List.nodup_nil⟩

theorem Tidy.described {id : NamespaceId} {entry : Namespace} (tidy : entry.Tidy id)
    (name url short : Option String) :
    (entry.described name (Namespaces.nonempty url) (Namespaces.nonempty short)).Tidy id where
  url := by
    cases there : entry.url with
    | some first => simpa [Namespace.described, there] using tidy.url
    | none => simp [Namespace.described, there, Namespaces.nonempty, Option.filter_eq_some_iff]
  short := by
    cases there : entry.short with
    | some first => simpa [Namespace.described, there] using tidy.short
    | none => simp [Namespace.described, there, Namespaces.nonempty, Option.filter_eq_some_iff]
  elsewhere := tidy.elsewhere
  once := tidy.once

end Namespace

namespace Namespaces

inductive Told where
  | registration (asked : Asked)
  | source (id : NamespaceId) (source : SourceId)
  | reference (user used : NamespaceId)

namespace Registry

def tell (registry : Registry) : Told -> Registry
  | .registration asked => registry.account asked
  | .source id source => { registry with namespaces := registry.namespaces.addSource id source }
  | .reference user used =>
      { registry with namespaces := registry.namespaces.addReference user used }

def tells : Registry -> List Told -> Registry
  | registry, [] => registry
  | registry, told :: rest => tells (registry.tell told) rest

end Registry

structure Lasts (old new : Namespaces) : Prop where
  size : old.size ≤ new.size
  grows : ∀ id, id.index < old.size -> (old.get id).Grows (new.get id)

/-- The indexes and the records agree, and each namespace is rooted in a scope of its own inside the
scope of the built-in types. -/
structure Registry.Represented (registry : Registry) (around : ScopeId) : Prop where
  indexed : registry.namespaces.Indexed
  located : ∀ id url, (registry.namespaces.get id).url = some url ->
    ∃ first, registry.namespaces.findByUrl url = some first
  tidy : ∀ id, (registry.namespaces.get id).Tidy id
  builtins : registry.namespaces.builtins = around
  inside : ∀ id, id.index < registry.namespaces.size ->
    (registry.namespaces.get id).root.index < registry.scopes.size
  parent : ∀ id, id.index < registry.namespaces.size ->
    (registry.scopes.get (registry.namespaces.get id).root).parent = some around
  home : ∀ id, id.index < registry.namespaces.size ->
    (registry.scopes.get (registry.namespaces.get id).root).home = some id

section

variable {namespaces middle other : Namespaces} {id : NamespaceId}

theorem Lasts.refl (namespaces : Namespaces) : namespaces.Lasts namespaces :=
  ⟨Nat.le_refl _, fun _ _ => .refl _⟩

theorem Lasts.trans (first : namespaces.Lasts middle) (second : middle.Lasts other) :
    namespaces.Lasts other where
  size := Nat.le_trans first.size second.size
  grows id within :=
    (first.grows id within).trans (second.grows id (Nat.lt_of_lt_of_le within first.size))

theorem Lasts.change {f : Namespace -> Namespace}
    (grows : (namespaces.get id).Grows (f (namespaces.get id))) :
    namespaces.Lasts (namespaces.change id f) where
  size := Nat.le_of_eq (size_change ..).symm
  grows target within := by
    rw [get_change]
    split
    next here => exact here.1 ▸ grows
    next => exact .refl _

theorem get_given (look : Namespace -> Option String)
    (put : Option String -> Namespace -> Namespace)
    (same : ∀ entry, put (look entry) entry = entry) {given : Option String}
    (known : look (namespaces.get id) ≠ none ∨ given = none -> other = namespaces)
    (fresh : look (namespaces.get id) = none -> ∀ value, given = some value -> ∀ target,
      other.get target = (namespaces.change id (put (some value))).get target)
    (target : NamespaceId) :
    other.get target =
      if target = id ∧ target.index < namespaces.size then
        put ((look (namespaces.get target)).or given) (namespaces.get target)
      else namespaces.get target := by
  cases there : look (namespaces.get id) with
  | some first =>
    rw [known (.inl (by simp [there]))]
    split
    next here => rw [here.1, there, Option.some_or, ← there, same]
    next => rfl
  | none =>
    cases given with
    | none => rw [known (.inr rfl), Option.or_none, same, ite_self]
    | some value =>
      rw [fresh there value rfl, get_change]
      split
      next here => rw [here.1, there, Option.none_or]
      next => rfl

theorem get_withName (namespaces : Namespaces) (id target : NamespaceId) (name : Option String) :
    (namespaces.withName id name).get target =
      if target = id ∧ target.index < namespaces.size then
        { namespaces.get target with name := (namespaces.get target).name.or name }
      else namespaces.get target := by
  refine get_given Namespace.name (fun name entry => { entry with name := name }) (fun _ => rfl)
    (fun known => ?_) (fun unnamed value given other => ?_) target
  · rcases known with named | rfl
    · exact withName_of_named named name
    · rfl
  · rw [given, withName_of_unnamed unnamed]
    rfl

theorem get_withUrl (namespaces : Namespaces) (id target : NamespaceId) (url : Option String) :
    (namespaces.withUrl id url).get target =
      if target = id ∧ target.index < namespaces.size then
        { namespaces.get target with url := (namespaces.get target).url.or url }
      else namespaces.get target := by
  refine get_given Namespace.url (fun url entry => { entry with url := url }) (fun _ => rfl)
    (fun known => ?_) (fun unlocated value given other => ?_) target
  · rcases known with located | rfl
    · exact withUrl_of_located located url
    · rfl
  · rw [given, withUrl_of_unlocated unlocated]
    rfl

theorem get_describe (namespaces : Namespaces) (id target : NamespaceId)
    (name url short : Option String) :
    (namespaces.describe id name url short).get target =
      if target = id ∧ target.index < namespaces.size then
        (namespaces.get target).described name url short
      else namespaces.get target := by
  have shorter (namespaces : Namespaces) : (namespaces.withShort id short).get target =
      if target = id ∧ target.index < namespaces.size then
        { namespaces.get target with short := (namespaces.get target).short.or short }
      else namespaces.get target := by
    cases short with
    | none => simp [withShort]
    | some given =>
      refine (get_change ..).trans ?_
      cases (namespaces.get target).short <;> rfl
  rw [describe, shorter, get_withUrl, get_withName]
  simp only [size_withUrl, size_withName]
  split <;> rfl

theorem root_describe (namespaces : Namespaces) (id target : NamespaceId)
    (name url short : Option String) :
    ((namespaces.describe id name url short).get target).root = (namespaces.get target).root := by
  rw [get_describe]
  split <;> rfl

theorem builtins_describe (namespaces : Namespaces) (id : NamespaceId)
    (name url short : Option String) :
    (namespaces.describe id name url short).builtins = namespaces.builtins := by
  unfold describe withShort withUrl withName
  repeat' split
  all_goals rfl

theorem findByUrl_describe {name url short : Option String} {target : NamespaceId} {place : String}
    (located : ∀ id url, (namespaces.get id).url = some url ->
      ∃ first, namespaces.findByUrl url = some first)
    (there : ((namespaces.describe id name url short).get target).url = some place) :
    ∃ first, (namespaces.describe id name url short).findByUrl place = some first := by
  -- a prefix is not indexed, and a name is entered before the URL without a change of any URL
  unfold describe at there ⊢
  rw [(get_withShort ..).2, get_withUrl] at there
  rw [(find_withShort ..).2]
  generalize named : namespaces.withName id name = known at there ⊢
  have before (target : NamespaceId) (url : String) (there : (known.get target).url = some url) :
      ∃ first, known.findByUrl url = some first := by
    subst named
    rw [url_withName] at there
    rw [findByUrl_withName]
    exact located target url there
  cases old : (known.get id).url with
  | some first =>
    -- a namespace keeps the URL that it has, so nothing is indexed
    rw [withUrl_of_located (by simp [old])]
    split at there
    next here => exact before target place (by simpa [here.1, old] using there)
    next => exact before target place there
  | none =>
    cases url with
    | none => exact before target place (by split at there <;> simpa using there)
    | some given =>
      rw [withUrl_of_unlocated old, findByUrl, Table.get?_insertNew]
      split
      next => exact ⟨_, rfl⟩
      next apart =>
        refine before target place ?_
        split at there
        next here =>
          rw [here.1, old] at there
          exact absurd (Option.some.inj there).symm apart
        next => exact there

end

namespace Registry.Represented

variable {registry : Registry} {around : ScopeId}

theorem empty (around : ScopeId) (scopes : Scopes) :
    (Registry.empty around scopes).Represented around where
  indexed := indexed_empty ..
  located _ _ there := by cases there
  tidy id := Namespace.tidy_fresh ..
  builtins := rfl
  inside _ within := absurd within (Nat.not_lt_zero _)
  parent _ within := absurd within (Nat.not_lt_zero _)
  home _ within := absurd within (Nat.not_lt_zero _)

theorem push (kept : registry.Represented around) :
    Represented
      ⟨{ registry.namespaces with
          all := registry.namespaces.all.push (.fresh registry.scopes.next) },
        registry.scopes.create (some registry.namespaces.builtins)
          (some ⟨registry.namespaces.size⟩)⟩ around := by
  -- the root of the new namespace is the new scope, and those of the others are earlier ones
  have last (id : NamespaceId) (same : id.index = registry.namespaces.size) :
      id = ⟨registry.namespaces.size⟩ := congrArg NamespaceId.mk same
  have rooted (root : ScopeId) : (Namespace.fresh root).root = root := rfl
  have earlier (id : NamespaceId) (within : id.index < registry.namespaces.size) :
      (registry.namespaces.get id).root ≠ registry.scopes.next := fun same =>
    Nat.ne_of_lt (kept.inside id within) (congrArg ScopeId.index same)
  have size (id : NamespaceId)
      (within : id.index < (registry.namespaces.all.push (.fresh registry.scopes.next)).size) :
      id.index = registry.namespaces.size ∨ id.index < registry.namespaces.size := by
    rw [Array.size_push] at within
    exact (Nat.lt_succ_iff_lt_or_eq.mp within).symm
  refine ⟨kept.indexed.push _, ?_, ?_, kept.builtins, ?_, ?_, ?_⟩
  · intro id url there
    rw [get_push] at there
    split at there
    next => cases there
    next => exact kept.located id url there
  · intro id
    rw [get_push]
    split
    next => exact Namespace.tidy_fresh ..
    next => exact kept.tidy id
  · intro id within
    rw [get_push, Scopes.size_create]
    rcases size id within with same | below
    · rw [if_pos same]
      exact Nat.lt_succ_self _
    · rw [if_neg (Nat.ne_of_lt below)]
      exact Nat.lt_succ_of_lt (kept.inside id below)
  · intro id within
    rw [get_push, Scopes.get_create]
    rcases size id within with same | below
    · rw [if_pos same, rooted, if_pos rfl, kept.builtins]
      rfl
    · rw [if_neg (Nat.ne_of_lt below), if_neg (earlier id below)]
      exact kept.parent id below
  · intro id within
    rw [get_push, Scopes.get_create]
    rcases size id within with same | below
    · rw [if_pos same, rooted, if_pos rfl, ← last id same]
      rfl
    · rw [if_neg (Nat.ne_of_lt below), if_neg (earlier id below)]
      exact kept.home id below

theorem describe (kept : registry.Represented around) {id : NamespaceId}
    (within : id.index < registry.namespaces.size) {name : Option String}
    (fresh : (registry.namespaces.get id).name ≠ none ∨ name.bind registry.namespaces.find = none)
    (url short : Option String) :
    Represented ⟨registry.namespaces.describe id name (nonempty url) (nonempty short),
      registry.scopes⟩ around where
  indexed := kept.indexed.describe within fresh ..
  located _ _ there := findByUrl_describe kept.located there
  tidy target := by
    rw [get_describe]
    split
    · exact (kept.tidy target).described ..
    · exact kept.tidy target
  builtins := (builtins_describe ..).trans kept.builtins
  inside target within := by
    rw [root_describe]
    exact kept.inside target (size_describe .. ▸ within)
  parent target within := by
    rw [root_describe]
    exact kept.parent target (size_describe .. ▸ within)
  home target within := by
    rw [root_describe]
    exact kept.home target (size_describe .. ▸ within)

theorem account (kept : registry.Represented around) (asked : Asked) :
    (registry.account asked).Represented around := by
  unfold Registry.account Registry.ask
  rcases registry.namespaces.register_cases registry.scopes asked.name asked.url asked.short with
    ⟨id, known, same⟩ | ⟨unknown, same⟩ <;> rw [same]
  · obtain ⟨within, fresh⟩ := kept.indexed.of_known known
    exact kept.describe within fresh ..
  · exact kept.push.describe (by simp [size]) (.inr (find_of_unknown unknown)) ..

theorem change (kept : registry.Represented around) (id : NamespaceId)
    {f : Namespace -> Namespace} (name : ∀ entry, (f entry).name = entry.name)
    (url : ∀ entry, (f entry).url = entry.url) (root : ∀ entry, (f entry).root = entry.root)
    (tidy : ∀ entry : Namespace, entry.Tidy id -> (f entry).Tidy id) :
    Represented ⟨registry.namespaces.change id f, registry.scopes⟩ around where
  indexed := kept.indexed.congr (fun other => keeps_change Namespace.name _ id other name)
    (fun other => keeps_change Namespace.url _ id other url) rfl rfl
  located other place there :=
    kept.located other place ((keeps_change Namespace.url _ id other url).symm.trans there)
  tidy other := by
    rw [get_change]
    split
    next here => exact here.1 ▸ tidy _ (kept.tidy id)
    next => exact kept.tidy other
  builtins := kept.builtins
  inside other within := by
    rw [keeps_change Namespace.root _ id other root]
    exact kept.inside other (size_change .. ▸ within)
  parent other within := by
    rw [keeps_change Namespace.root _ id other root]
    exact kept.parent other (size_change .. ▸ within)
  home other within := by
    rw [keeps_change Namespace.root _ id other root]
    exact kept.home other (size_change .. ▸ within)

theorem tell (kept : registry.Represented around) (told : Told) :
    (registry.tell told).Represented around := by
  cases told with
  | registration asked => exact kept.account asked
  | source id source =>
    exact kept.change id (fun _ => rfl) (fun _ => rfl) (fun _ => rfl)
      fun _ tidy => ⟨tidy.url, tidy.short, tidy.elsewhere, tidy.once⟩
  | reference user used =>
    dsimp only [Registry.tell, addReference]
    split
    next => exact kept
    next apart =>
      refine kept.change user ?_ ?_ ?_ fun entry tidy => ?_
      iterate 3
        intro entry
        split <;> rfl
      split
      next => exact tidy
      next new =>
        -- a namespace does not refer to itself, and an entry that is there is not made again
        refine ⟨tidy.url, tidy.short, ?_, ?_⟩
        · simpa [apart] using tidy.elsewhere
        · exact List.nodup_append.mpr ⟨tidy.once, by simp, by
            rintro held member added single rfl
            exact new (List.mem_singleton.mp single ▸ member)⟩

theorem tells (kept : registry.Represented around) (told : List Told) :
    (registry.tells told).Represented around := by
  induction told generalizing registry with
  | nil => exact kept
  | cons first rest ih => exact ih (kept.tell first)

end Registry.Represented

namespace Registry

theorem lasts_tell (registry : Registry) (told : Told) :
    registry.namespaces.Lasts (registry.tell told).namespaces := by
  have described (namespaces : Namespaces) (id : NamespaceId) (name url short : Option String) :
      namespaces.Lasts (namespaces.describe id name url short) := by
    refine ⟨Nat.le_of_eq (size_describe ..).symm, fun target _ => ?_⟩
    rw [get_describe]
    split
    · exact Namespace.grows_described ..
    · exact .refl _
  cases told with
  | registration asked =>
    unfold tell account ask register
    dsimp only
    split
    next => exact described ..
    next =>
      refine Lasts.trans ⟨?_, fun id within => ?_⟩ (described ..)
      · simp [size]
      · rw [get_push, if_neg (Nat.ne_of_lt within)]
        exact .refl _
  | source target source =>
    exact .change ⟨fun _ => id, fun _ => id, fun _ => id, rfl, List.prefix_append ..⟩
  | reference user used =>
    dsimp only [tell, addReference]
    split
    next => exact .refl _
    next =>
      refine .change ?_
      split
      · exact .refl _
      · exact ⟨fun _ => id, fun _ => id, fun _ => id, rfl, List.prefix_rfl⟩

theorem lasts_tells (registry : Registry) (told : List Told) :
    registry.namespaces.Lasts (registry.tells told).namespaces := by
  induction told generalizing registry with
  | nil => exact .refl _
  | cons first rest ih => exact (registry.lasts_tell first).trans (ih _)

/-- After any calls the records and the indexes agree, no two namespaces have one name or one root,
and nothing that was known is lost by further calls. -/
theorem represented_tells (around : ScopeId) (scopes : Scopes) (before after : List Told) :
    let earlier := (Registry.empty around scopes).tells before
    let later := earlier.tells after
    earlier.Represented around ∧
      (∀ id other name, (earlier.namespaces.get id).name = some name ->
        (earlier.namespaces.get other).name = some name -> id = other) ∧
      (∀ id other, id.index < earlier.namespaces.size -> other.index < earlier.namespaces.size ->
        (earlier.namespaces.get id).root = (earlier.namespaces.get other).root -> id = other) ∧
      earlier.namespaces.Lasts later.namespaces := by
  intro earlier later
  have kept : earlier.Represented around := (Represented.empty around scopes).tells before
  refine ⟨kept, fun id other name here there => ?_, fun id other within inside same => ?_,
    earlier.lasts_tells after⟩
  · rw [← kept.indexed.find] at here there
    exact Option.some.inj (here.symm.trans there)
  · -- a root scope is labelled with the one namespace that it is the root of
    have labelled := kept.home id within
    rw [same, kept.home other inside] at labelled
    exact (Option.some.inj labelled).symm

end Registry

end Namespaces

end XmlSchema

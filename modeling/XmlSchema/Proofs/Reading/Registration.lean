import XmlSchema.Proofs.Reading.Moves

set_option autoImplicit false

namespace XmlSchema

namespace Namespaces

section

variable {α : Type} (look : Namespace -> α)
  (keeps : ∀ (entry : Namespace) (name url short : Option String),
    look { entry with name := name, url := url, short := short } = look entry)

include keeps

theorem keeps_describe (namespaces : Namespaces) (id other : NamespaceId)
    (name url short : Option String) :
    look ((namespaces.describe id name url short).get other) = look (namespaces.get other) := by
  have named (namespaces : Namespaces) :
      look ((namespaces.withName id name).get other) = look (namespaces.get other) := by
    unfold withName
    split
    · exact keeps_change look namespaces id other fun entry => keeps entry ..
    · rfl
  have located (namespaces : Namespaces) :
      look ((namespaces.withUrl id url).get other) = look (namespaces.get other) := by
    unfold withUrl
    split
    · exact keeps_change look namespaces id other fun entry => keeps entry ..
    · rfl
  have short (namespaces : Namespaces) :
      look ((namespaces.withShort id short).get other) = look (namespaces.get other) := by
    unfold withShort
    split
    · exact keeps_change look namespaces id other fun entry => keeps entry ..
    · rfl
  exact (short _).trans ((located _).trans (named _))

end

structure Housed (namespaces : Namespaces) (scopes : Scopes) : Prop where
  rooted : namespaces.Rooted scopes
  home : ∀ id, id.index < namespaces.size ->
    (scopes.get (namespaces.get id).root).home = some id

namespace Housed

variable {namespaces : Namespaces} {scopes : Scopes}

theorem congr {other : Namespaces} {larger : Scopes} (housed : namespaces.Housed scopes)
    (rooted : other.Rooted larger) (size : other.size = namespaces.size)
    (root : ∀ id, (other.get id).root = (namespaces.get id).root)
    (home : ∀ id, id.index < scopes.size -> (larger.get id).home = (scopes.get id).home) :
    other.Housed larger where
  rooted := rooted
  home id within := by
    rw [size] at within
    rw [root, home _ (housed.rooted.inside id within)]
    exact housed.home id within

theorem push (housed : namespaces.Housed scopes) :
    ({ namespaces with all := namespaces.all.push (.fresh scopes.next) } : Namespaces).Housed
      (scopes.create (some namespaces.builtins) (some ⟨namespaces.size⟩)) where
  rooted := housed.rooted.push _
  home id within := by
    have size : ({ namespaces with all := namespaces.all.push (.fresh scopes.next) } :
        Namespaces).size = namespaces.size + 1 := Array.size_push ..
    rw [get_push]
    split
    next last =>
      have same : id = ⟨namespaces.size⟩ := congrArg NamespaceId.mk last
      have fresh : (Namespace.fresh scopes.next).root = scopes.next := rfl
      rw [fresh, Scopes.get_create, if_pos rfl, same]
      rfl
    next earlier =>
      have below : id.index < namespaces.size := by omega
      have inside := housed.rooted.inside id below
      rw [Scopes.get_create, if_neg]
      · exact housed.home id below
      · intro same
        rw [same] at inside
        exact Nat.lt_irrefl _ inside

theorem register (housed : namespaces.Housed scopes) (name url short : Option String) :
    (namespaces.register scopes name url short).namespaces.Housed
      (namespaces.register scopes name url short).scopes := by
  have rooted := housed.rooted.register name url short
  rcases namespaces.register_cases scopes name url short with ⟨id, -, same⟩ | ⟨-, same⟩ <;>
    rw [same] at rooted ⊢
  · exact housed.congr rooted (size_describe ..)
      (fun other => keeps_describe Namespace.root (fun _ _ _ _ => rfl) namespaces id other ..)
      fun _ _ => rfl
  · exact housed.push.congr rooted (size_describe ..)
      (fun other => keeps_describe Namespace.root (fun _ _ _ _ => rfl) _ _ other ..)
      fun _ _ => rfl

end Housed

theorem sources_register (namespaces : Namespaces) (scopes : Scopes) (name url short : Option String)
    (id : NamespaceId) :
    ((namespaces.register scopes name url short).namespaces.get id).sources =
      (namespaces.get id).sources := by
  rcases namespaces.register_cases scopes name url short with ⟨known, -, same⟩ | ⟨-, same⟩ <;>
    rw [same]
  · exact keeps_describe Namespace.sources (fun _ _ _ _ => rfl) namespaces _ id ..
  · refine (keeps_describe Namespace.sources (fun _ _ _ _ => rfl) _ _ id ..).trans ?_
    rw [get_push]
    split
    next last => rw [get_of_size_le namespaces (Nat.le_of_eq last.symm)]; rfl
    next => rfl

end Namespaces

namespace Model

structure Registers (old new : Model) : Prop where
  nodes : new.nodes = old.nodes
  sources : new.sources = old.sources
  housed : old.namespaces.Housed old.scopes -> new.namespaces.Housed new.scopes
  scopes : old.scopes.size ≤ new.scopes.size
  kept : ∀ id, id.index < old.scopes.size -> new.scopes.get id = old.scopes.get id
  tables : old.scopes.Grows new.scopes
  count : old.namespaces.size ≤ new.namespaces.size
  listed : ∀ id, (new.namespaces.get id).sources = (old.namespaces.get id).sources

namespace Registers

theorem refl (model : Model) : model.Registers model :=
  ⟨rfl, rfl, fun housed => housed, Nat.le_refl _, fun _ _ => rfl, .refl _, Nat.le_refl _,
    fun _ => rfl⟩

theorem trans {one two three : Model} (first : one.Registers two) (second : two.Registers three) :
    one.Registers three where
  nodes := second.nodes.trans first.nodes
  sources := second.sources.trans first.sources
  housed housed := second.housed (first.housed housed)
  scopes := Nat.le_trans first.scopes second.scopes
  kept id inside :=
    (second.kept id (Nat.lt_of_lt_of_le inside first.scopes)).trans (first.kept id inside)
  tables := first.tables.trans second.tables
  count := Nat.le_trans first.count second.count
  listed id := (second.listed id).trans (first.listed id)

theorem register (model : Model) (name url short : Option String) :
    model.Registers (model.register name url short).1 := by
  have scopes : (model.register name url short).1.scopes = model.scopes ∨
      ∃ parent home, (model.register name url short).1.scopes =
        model.scopes.create parent home := by
    unfold Model.register
    rcases model.namespaces.register_cases model.scopes name url short with
      ⟨id, -, same⟩ | ⟨-, same⟩ <;> rw [same]
    · exact .inl rfl
    · exact .inr ⟨_, _, rfl⟩
  refine ⟨rfl, rfl, fun housed => housed.register name url short, ?_, fun id inside => ?_, ?_,
    Namespaces.size_register_le .., fun id => Namespaces.sources_register ..⟩
  · rcases scopes with same | ⟨parent, home, same⟩
    · exact Nat.le_of_eq (congrArg Scopes.size same).symm
    · rw [same, Scopes.size_create]
      exact Nat.le_succ _
  · rcases scopes with same | ⟨parent, home, same⟩
    · rw [same]
    · rw [same, Scopes.get_create, if_neg]
      rintro rfl
      exact Nat.lt_irrefl _ inside
  · refine .of_tables fun scope kind => ?_
    rcases scopes with same | ⟨parent, home, same⟩
    · rw [same]
    · rw [same, Scopes.table_create]

theorem registerPrefixes (model : Model) (bound : List (String × String)) :
    model.Registers (model.registerPrefixes bound) := by
  induction bound generalizing model with
  | nil => exact refl model
  | cons entry rest ih => exact (register model (some entry.2) none (some entry.1)).trans (ih _)

theorem registerDefault (model : Model) (uri : Option String) :
    model.Registers (model.registerDefault uri).1 := by
  unfold Model.registerDefault
  split
  · exact register model _ none none
  · exact refl model

theorem registerRoot (model : Model) (document : Document) :
    model.Registers (model.registerRoot document).1 := by
  unfold Model.registerRoot
  exact ((register model _ _ none).trans (registerPrefixes _ _)).trans (registerDefault _ _)

theorem registerImport (draft : Draft) (id : NodeId) :
    draft.model.Registers (draft.registerImport id).model := by
  unfold Draft.registerImport
  split
  · exact register draft.model _ none none
  · exact refl draft.model

end Registers

end Model

end XmlSchema

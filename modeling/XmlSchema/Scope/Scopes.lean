import XmlSchema.Scope.Definition

set_option autoImplicit false

namespace XmlSchema

structure Scope where
  parent : Option ScopeId
  /-- The namespace that the scope belongs to. -/
  home : Option NamespaceId
  tables : SymbolTables
  /-- The nameless type declared directly in the scope. -/
  typeMarker : Option NodeId
  deriving DecidableEq, Repr

namespace Scope

def bare (parent : Option ScopeId) (home : Option NamespaceId) : Scope :=
  ⟨parent, home, .empty, none⟩

instance : Inhabited Scope := ⟨bare none none⟩

end Scope

structure Scopes where
  all : Array Scope
  deriving Repr

namespace Scopes

def empty : Scopes := ⟨#[]⟩

instance : Inhabited Scopes := ⟨empty⟩

def size (scopes : Scopes) : Nat := scopes.all.size

def get (scopes : Scopes) (id : ScopeId) : Scope := scopes.all[id.index]?.getD default

def change (scopes : Scopes) (id : ScopeId) (f : Scope -> Scope) : Scopes :=
  ⟨scopes.all.modify id.index f⟩

def next (scopes : Scopes) : ScopeId := ⟨scopes.size⟩

def create (scopes : Scopes) (parent : Option ScopeId) (home : Option NamespaceId) : Scopes :=
  ⟨scopes.all.push (.bare parent home)⟩

def createChild (scopes : Scopes) (parent : ScopeId) : Scopes :=
  scopes.create (some parent) (scopes.get parent).home

def table (scopes : Scopes) (id : ScopeId) (kind : Symbols) : SymbolTable :=
  (scopes.get id).tables.get kind

def changeTable (scopes : Scopes) (id : ScopeId) (kind : Symbols)
    (f : SymbolTable -> SymbolTable) : Scopes :=
  scopes.change id fun scope => { scope with tables := scope.tables.change f kind }

def add (scopes : Scopes) (id : ScopeId) (kind : Symbols) (name : QName)
    (definition : Definition) : Scopes :=
  scopes.changeTable id kind fun table => table.add name definition

def surrounding (scopes : Scopes) (id : ScopeId) : ScopeId := ((scopes.get id).parent).getD id

/-- Names the owner of a body scope, for the tags beside it. -/
def define (scopes : Scopes) (id : ScopeId) (kind : Symbols) (name : QName) (target : NodeId)
    (occurs : Occurs) : Scopes :=
  scopes.add (scopes.surrounding id) kind name ⟨target, occurs, false⟩

def chain (scopes : Scopes) (id : ScopeId) : List ScopeId :=
  match (scopes.get id).parent with
  | none => [id]
  | some parent => if parent.index < id.index then id :: scopes.chain parent else [id]
termination_by id.index

def findLocal (scopes : Scopes) (id : ScopeId) (kind : Symbols) (name : QName) :
    Option Definition :=
  (scopes.chain id).findSome? fun id => (scopes.table id kind).get? name

def isWithin (scopes : Scopes) (id outer : ScopeId) : Bool := (scopes.chain id).contains outer

def inlineInto (scopes : Scopes) (target : ScopeId) (kind : Symbols) (factor : Occurs)
    (source : ScopeId) (inherited : Bool) : Scopes :=
  let entries := (scopes.table source kind).entries.map fun entry =>
    (entry.1, entry.2.copied factor inherited)
  scopes.changeTable target kind fun table => table.addAll entries

/-- Copies the definitions of `source` to where the owner of a body scope stands. -/
def inlineIntoParent (scopes : Scopes) (id : ScopeId) (kind : Symbols) (factor : Occurs)
    (source : ScopeId) : Scopes :=
  match (scopes.get id).parent with
  | some parent => scopes.inlineInto parent kind factor source false
  | none => scopes

theorem get_change (scopes : Scopes) (id other : ScopeId) (f : Scope -> Scope) :
    (scopes.change id f).get other =
      if other = id ∧ other.index < scopes.size then f (scopes.get other)
      else scopes.get other := by
  obtain ⟨i⟩ := id
  obtain ⟨j⟩ := other
  simpa [get, change, size] using Numbered.getD_modify scopes.all i j f

theorem get_create (scopes : Scopes) (parent : Option ScopeId) (home : Option NamespaceId)
    (id : ScopeId) :
    (scopes.create parent home).get id =
      if id = scopes.next then .bare parent home else scopes.get id := by
  obtain ⟨i⟩ := id
  simpa [get, create, next, size] using Numbered.getD_push scopes.all (.bare parent home) i

theorem get_of_size_le (scopes : Scopes) {id : ScopeId} (outside : scopes.size ≤ id.index) :
    scopes.get id = default :=
  Numbered.getD_of_size_le scopes.all outside

@[simp] theorem size_change (scopes : Scopes) (id : ScopeId) (f : Scope -> Scope) :
    (scopes.change id f).size = scopes.size := by
  simp [change, size]

@[simp] theorem size_create (scopes : Scopes) (parent : Option ScopeId)
    (home : Option NamespaceId) : (scopes.create parent home).size = scopes.size + 1 := by
  simp [create, size]

theorem keeps_change {α : Type} (look : Scope -> α) (scopes : Scopes) (id other : ScopeId)
    {f : Scope -> Scope} (keeps : ∀ scope, look (f scope) = look scope) :
    look ((scopes.change id f).get other) = look (scopes.get other) := by
  rw [get_change]
  split
  · exact keeps _
  · rfl

@[simp] theorem size_changeTable (scopes : Scopes) (id : ScopeId) (kind : Symbols)
    (f : SymbolTable -> SymbolTable) : (scopes.changeTable id kind f).size = scopes.size :=
  size_change _ _ _

@[simp] theorem parent_changeTable (scopes : Scopes) (id other : ScopeId) (kind : Symbols)
    (f : SymbolTable -> SymbolTable) :
    ((scopes.changeTable id kind f).get other).parent = (scopes.get other).parent :=
  keeps_change Scope.parent scopes id other fun _ => rfl

@[simp] theorem home_changeTable (scopes : Scopes) (id other : ScopeId) (kind : Symbols)
    (f : SymbolTable -> SymbolTable) :
    ((scopes.changeTable id kind f).get other).home = (scopes.get other).home :=
  keeps_change Scope.home scopes id other fun _ => rfl

@[simp] theorem typeMarker_changeTable (scopes : Scopes) (id other : ScopeId) (kind : Symbols)
    (f : SymbolTable -> SymbolTable) :
    ((scopes.changeTable id kind f).get other).typeMarker = (scopes.get other).typeMarker :=
  keeps_change Scope.typeMarker scopes id other fun _ => rfl

theorem table_changeTable_self (scopes : Scopes) {id : ScopeId} (kind : Symbols)
    (f : SymbolTable -> SymbolTable) (inside : id.index < scopes.size) :
    (scopes.changeTable id kind f).table id kind = f (scopes.table id kind) := by
  simp [table, changeTable, get_change, inside]

theorem table_changeTable_of_ne (scopes : Scopes) {id other : ScopeId} {kind among : Symbols}
    (f : SymbolTable -> SymbolTable) (apart : other ≠ id ∨ among ≠ kind) :
    (scopes.changeTable id kind f).table other among = scopes.table other among := by
  simp only [table, changeTable, get_change]
  split
  next same =>
    rcases apart with elsewhere | different
    · exact absurd same.1 elsewhere
    · exact SymbolTables.get_change_of_ne _ f different
  next => rfl

theorem table_changeTable_cases (scopes : Scopes) (id other : ScopeId) (kind among : Symbols)
    (f : SymbolTable -> SymbolTable) :
    (scopes.changeTable id kind f).table other among = scopes.table other among ∨
      other = id ∧ among = kind ∧ id.index < scopes.size ∧
        (scopes.changeTable id kind f).table other among = f (scopes.table other among) := by
  by_cases apart : other ≠ id ∨ among ≠ kind
  next => exact Or.inl (table_changeTable_of_ne scopes f apart)
  next =>
    obtain ⟨rfl, rfl⟩ : other = id ∧ among = kind := by simpa [not_or] using apart
    by_cases inside : other.index < scopes.size
    next => exact Or.inr ⟨rfl, rfl, inside, table_changeTable_self scopes among f inside⟩
    next =>
      refine Or.inl ?_
      simp [table, changeTable, get_change, inside]

@[simp] theorem table_create (scopes : Scopes) (parent : Option ScopeId)
    (home : Option NamespaceId) (id : ScopeId) (kind : Symbols) :
    (scopes.create parent home).table id kind = scopes.table id kind := by
  rw [table, table, get_create]
  split
  next same =>
    subst same
    rw [get_of_size_le scopes (show scopes.size ≤ scopes.next.index from Nat.le_refl _)]
    rfl
  next => rfl

theorem parent_create_of_lt (scopes : Scopes) (parent : Option ScopeId)
    (home : Option NamespaceId) {id : ScopeId} (inside : id.index < scopes.size) :
    ((scopes.create parent home).get id).parent = (scopes.get id).parent := by
  rw [get_create, if_neg]
  rintro rfl
  exact Nat.lt_irrefl _ inside

theorem parent_create_next (scopes : Scopes) (parent : Option ScopeId)
    (home : Option NamespaceId) :
    ((scopes.create parent home).get scopes.next).parent = parent := by
  rw [get_create, if_pos rfl]
  rfl

def typeOf (scopes : Scopes) (id : ScopeId) : Option NodeId := (scopes.get id).typeMarker

@[simp] theorem typeOf_create (scopes : Scopes) (parent : Option ScopeId)
    (home : Option NamespaceId) (id : ScopeId) :
    (scopes.create parent home).typeOf id = scopes.typeOf id := by
  rw [typeOf, typeOf, get_create]
  split
  next same =>
    subst same
    rw [get_of_size_le scopes (show scopes.size ≤ scopes.next.index from Nat.le_refl _)]
    rfl
  next => rfl

@[simp] theorem typeOf_changeTable (scopes : Scopes) (id other : ScopeId) (kind : Symbols)
    (f : SymbolTable -> SymbolTable) :
    (scopes.changeTable id kind f).typeOf other = scopes.typeOf other :=
  typeMarker_changeTable ..

def setType (scopes : Scopes) (id : ScopeId) (node : NodeId) : Scopes :=
  scopes.change id fun scope => { scope with typeMarker := some (scope.typeMarker.getD node) }

@[simp] theorem size_setType (scopes : Scopes) (id : ScopeId) (node : NodeId) :
    (scopes.setType id node).size = scopes.size :=
  size_change scopes id _

@[simp] theorem parent_setType (scopes : Scopes) (id other : ScopeId) (node : NodeId) :
    ((scopes.setType id node).get other).parent = (scopes.get other).parent :=
  keeps_change Scope.parent scopes id other fun _ => rfl

@[simp] theorem table_setType (scopes : Scopes) (id other : ScopeId) (node : NodeId)
    (kind : Symbols) : (scopes.setType id node).table other kind = scopes.table other kind :=
  keeps_change (fun scope => scope.tables.get kind) scopes id other fun _ => rfl

end Scopes

end XmlSchema

import XmlSchema.Proofs.Bounds
import XmlSchema.Scope.Scopes

set_option autoImplicit false

namespace XmlSchema

namespace Definition

def own : Option Definition -> Bounds
  | some definition => if definition.inherited then 0 else definition.occurs
  | none => 0

@[simp] theorem own_none : own none = 0 := rfl

theorem own_merge (added : Definition) (there : Option Definition) :
    own (some (added.merge there)) = own there + own (some added) := by
  cases there with
  | none => exact (zero_add _).symm
  | some old =>
      cases oldInherited : old.inherited <;> cases addedInherited : added.inherited <;>
        simp [merge, own, oldInherited, addedInherited, WithZero.coe_add]

/-- The entry of a name after what is added under it, if anything, joins what is there. -/
def join (added there : Option Definition) : Option Definition :=
  match added with
  | none => there
  | some definition => some (definition.merge there)

@[simp] theorem join_none (there : Option Definition) : join none there = there := rfl

@[simp] theorem join_of_none (added : Option Definition) : join added none = added := by
  cases added <;> rfl

theorem own_join (added there : Option Definition) :
    own (join added there) = own there + own added := by
  cases added with
  | none => exact (add_zero _).symm
  | some definition => exact own_merge definition there

theorem own_copied (definition : Option Definition) (factor : Occurs) :
    own (definition.map fun definition => definition.copied factor false) =
      (own definition).scale factor := by
  cases definition with
  | none => rfl
  | some definition =>
      cases inherited : definition.inherited <;> simp [own, copied, inherited]

theorem own_inherited (definition : Option Definition) (factor : Occurs) :
    own (definition.map fun definition => definition.copied factor true) = 0 := by
  cases definition <;> rfl

theorem target_merge (added : Definition) (there : Option Definition) :
    (added.merge there).target = added.target ∨
      ∃ old, there = some old ∧ (added.merge there).target = old.target := by
  cases there with
  | none => exact Or.inl rfl
  | some old =>
      cases oldInherited : old.inherited <;> cases addedInherited : added.inherited <;>
        simp [merge, oldInherited, addedInherited]

theorem join_cases {added there : Option Definition} {definition : Definition}
    (joined : join added there = some definition) :
    ∃ origin, (added = some origin ∨ there = some origin) ∧
      definition.target = origin.target ∧ definition.inherited = origin.inherited := by
  cases added with
  | none => exact ⟨definition, Or.inr joined, rfl, rfl⟩
  | some added =>
      cases joined
      cases there with
      | none => exact ⟨added, Or.inl rfl, rfl, rfl⟩
      | some old =>
          cases oldInherited : old.inherited <;> cases addedInherited : added.inherited <;>
            simp [merge, oldInherited, addedInherited]

theorem eq_none_of_own {definition : Option Definition} (undeclared : own definition = 0)
    (plain : ∀ found, definition = some found -> found.inherited = false) : definition = none := by
  cases definition with
  | none => rfl
  | some found => simp [own, plain found rfl] at undeclared

theorem own_of_join {added there : Option Definition} (undeclared : own (join added there) = 0) :
    own added = 0 ∧ own there = 0 := by
  rw [own_join] at undeclared
  generalize own added = a at *
  generalize own there = b at *
  cases a <;> cases b <;> first | exact ⟨rfl, rfl⟩ | cases undeclared

end Definition

namespace SymbolTable

def own (table : SymbolTable) (name : QName) : Bounds := Definition.own (table.get? name)

theorem own_add (table : SymbolTable) (name other : QName) (definition : Definition) :
    (table.add name definition).own other =
      table.own other + if other = name then Definition.own (some definition) else 0 := by
  by_cases same : other = name
  · subst same
    simp only [own, add, Table.get?_put_self, Definition.own_merge, if_true]
  · simp only [own, add, Table.get?_put_of_ne _ _ same, same, if_false, add_zero]

theorem get?_addAll (table : SymbolTable) {entries : List (QName × Definition)}
    (nodup : (entries.map (·.1)).Nodup) (name : QName) :
    (table.addAll entries).get? name =
      match Table.find name entries with
      | none => table.get? name
      | some definition => some (definition.merge (table.get? name)) := by
  induction entries generalizing table with
  | nil => rfl
  | cons entry rest ih =>
      obtain ⟨absent, nodup⟩ := List.nodup_cons.mp nodup
      have next := ih (table.add entry.1 entry.2) nodup
      rw [addAll, List.foldl_cons, ← addAll, next]
      by_cases same : entry.1 = name
      next =>
        subst same
        have last : Table.find entry.1 rest = none := (Table.find_eq_none_iff entry.1 rest).mpr absent
        simp [Table.find, last, add]
      next =>
        simp only [Table.find, same, if_false, add, Table.get?_put_of_ne _ _ (Ne.symm same)]

theorem find_map (change : Definition -> Definition) (name : QName)
    (entries : List (QName × Definition)) :
    Table.find name (entries.map fun entry => (entry.1, change entry.2)) =
      (Table.find name entries).map change := by
  induction entries with
  | nil => rfl
  | cons entry rest ih =>
      by_cases same : entry.1 = name <;> simp [Table.find, same, ih]

end SymbolTable

namespace Scopes

theorem table_inlineInto_of_ne (scopes : Scopes) {target other : ScopeId} {kind among : Symbols}
    (factor : Occurs) (source : ScopeId) (inherited : Bool)
    (apart : other ≠ target ∨ among ≠ kind) :
    (scopes.inlineInto target kind factor source inherited).table other among =
      scopes.table other among :=
  table_changeTable_of_ne scopes _ apart

theorem get?_add (scopes : Scopes) {target : ScopeId} (within : target.index < scopes.size)
    (kind : Symbols) (name : QName) (definition : Definition) (scope : ScopeId) (among : Symbols)
    (other : QName) :
    ((scopes.add target kind name definition).table scope among).get? other =
      Definition.join
        (if scope = target then if among = kind ∧ other = name then some definition else none
          else none)
        ((scopes.table scope among).get? other) := by
  by_cases there : scope = target ∧ among = kind
  next =>
    obtain ⟨rfl, rfl⟩ := there
    rw [add, table_changeTable_self _ _ _ within]
    by_cases hit : other = name
    · subst hit
      simp [SymbolTable.add, Definition.join]
    · simp [SymbolTable.add, Table.get?_put_of_ne _ _ hit, hit]
  next =>
    rw [add, table_changeTable_of_ne scopes _ (not_and_or.mp there)]
    by_cases here : scope = target
    · simp [here, show ¬ among = kind from fun same => there ⟨here, same⟩]
    · simp [here]

theorem get?_inlineInto_self (scopes : Scopes) {target source : ScopeId} {kind : Symbols}
    (factor : Occurs) (inherited : Bool) (within : target.index < scopes.size) (name : QName) :
    ((scopes.inlineInto target kind factor source inherited).table target kind).get? name =
      Definition.join (((scopes.table source kind).get? name).map fun definition =>
          definition.copied factor inherited)
        ((scopes.table target kind).get? name) := by
  rw [inlineInto, table_changeTable_self _ _ _ within, SymbolTable.get?_addAll,
    SymbolTable.find_map fun definition => definition.copied factor inherited]
  · rfl
  · simpa [List.map_map, Function.comp_def] using (scopes.table source kind).nodup

theorem get?_inlineInto (scopes : Scopes) {target : ScopeId}
    (within : target.index < scopes.size) (kind : Symbols) (factor : Occurs) (source : ScopeId)
    (inherited : Bool) (scope : ScopeId) (among : Symbols) (name : QName) :
    ((scopes.inlineInto target kind factor source inherited).table scope among).get? name =
      Definition.join
        (if scope = target ∧ among = kind then
          ((scopes.table source kind).get? name).map fun definition =>
            definition.copied factor inherited
        else none)
        ((scopes.table scope among).get? name) := by
  by_cases there : scope = target ∧ among = kind
  next =>
    obtain ⟨rfl, rfl⟩ := there
    simpa using get?_inlineInto_self scopes factor inherited within name
  next =>
    rw [if_neg there, table_inlineInto_of_ne scopes factor source inherited]
    · rfl
    · exact not_and_or.mp there

def inlineEach (scopes : Scopes) (kinds : List Symbols) (target : ScopeId) (factor : Occurs)
    (source : ScopeId) (inherited : Bool) : Scopes :=
  kinds.foldl (fun scopes kind => scopes.inlineInto target kind factor source inherited) scopes

@[simp] theorem size_inlineEach (scopes : Scopes) (kinds : List Symbols) (target : ScopeId)
    (factor : Occurs) (source : ScopeId) (inherited : Bool) :
    (scopes.inlineEach kinds target factor source inherited).size = scopes.size := by
  induction kinds generalizing scopes with
  | nil => rfl
  | cons kind rest ih => exact (ih _).trans (size_changeTable ..)

theorem keeps_inlineEach {α : Type} (look : Scope -> α)
    (keeps : ∀ scope tables, look { scope with tables := tables } = look scope)
    (scopes : Scopes) (kinds : List Symbols) (target : ScopeId) (factor : Occurs)
    (source : ScopeId) (inherited : Bool) (id : ScopeId) :
    look ((scopes.inlineEach kinds target factor source inherited).get id) =
      look (scopes.get id) := by
  induction kinds generalizing scopes with
  | nil => rfl
  | cons kind rest ih =>
      exact (ih _).trans (keeps_change look scopes target id fun scope => keeps scope _)

theorem table_inlineEach_of_ne (scopes : Scopes) (kinds : List Symbols) {target other : ScopeId}
    (factor : Occurs) (source : ScopeId) (inherited : Bool) (among : Symbols)
    (apart : other ≠ target) :
    (scopes.inlineEach kinds target factor source inherited).table other among =
      scopes.table other among := by
  induction kinds generalizing scopes with
  | nil => rfl
  | cons kind rest ih =>
      exact (ih _).trans (table_inlineInto_of_ne scopes factor source inherited (Or.inl apart))

theorem get?_inlineEach (scopes : Scopes) {target : ScopeId}
    (within : target.index < scopes.size) {kinds : List Symbols} (nodup : kinds.Nodup)
    (factor : Occurs) (source : ScopeId) (inherited : Bool) (scope : ScopeId) (among : Symbols)
    (name : QName) :
    ((scopes.inlineEach kinds target factor source inherited).table scope among).get? name =
      Definition.join
        (if scope = target ∧ among ∈ kinds then
          ((scopes.table source among).get? name).map fun definition =>
            definition.copied factor inherited
        else none)
        ((scopes.table scope among).get? name) := by
  induction kinds generalizing scopes with
  | nil => simp [inlineEach]
  | cons kind rest ih =>
      obtain ⟨absent, nodup⟩ := List.nodup_cons.mp nodup
      have next := ih (scopes.inlineInto target kind factor source inherited)
        (by rw [inlineInto, size_changeTable]; exact within) nodup
      rw [inlineEach, List.foldl_cons, ← inlineEach, next]
      by_cases same : among = kind
      next =>
        subst same
        simp [absent, get?_inlineInto scopes within]
      next =>
        simp [same, table_inlineInto_of_ne scopes factor source inherited (Or.inr same)]

theorem foldl_inlineIntoParent (scopes : Scopes) {id parent : ScopeId}
    (around : (scopes.get id).parent = some parent) (kinds : List Symbols) (factor : Occurs)
    (source : ScopeId) :
    kinds.foldl (fun scopes kind => scopes.inlineIntoParent id kind factor source) scopes =
      scopes.inlineEach kinds parent factor source false := by
  induction kinds generalizing scopes with
  | nil => rfl
  | cons kind rest ih =>
      have first : scopes.inlineIntoParent id kind factor source =
          scopes.inlineInto parent kind factor source false := by
        simp only [inlineIntoParent, around]
      rw [List.foldl_cons, first]
      exact ih _ ((parent_changeTable ..).trans around)

end Scopes

namespace SymbolTable

def Grows (old new : SymbolTable) : Prop :=
  ∀ name before, old.get? name = some before -> ∃ after, new.get? name = some after ∧
    (before.inherited = false -> after.target = before.target ∧ after.inherited = false)

namespace Grows

theorem refl (table : SymbolTable) : table.Grows table :=
  fun _ before there => ⟨before, there, fun own => ⟨rfl, own⟩⟩

theorem trans {old middle new : SymbolTable} (first : old.Grows middle)
    (second : middle.Grows new) : old.Grows new := by
  intro name before there
  obtain ⟨between, found, kept⟩ := first name before there
  obtain ⟨after, last, still⟩ := second name between found
  refine ⟨after, last, fun own => ?_⟩
  obtain ⟨target, own⟩ := kept own
  obtain ⟨same, own⟩ := still own
  exact ⟨same.trans target, own⟩

theorem add (table : SymbolTable) (name : QName) (definition : Definition) :
    table.Grows (table.add name definition) := by
  intro other before there
  by_cases hit : other = name
  next =>
    subst hit
    rw [SymbolTable.add, Table.get?_put_self, there]
    refine ⟨_, rfl, fun own => ?_⟩
    unfold Definition.merge
    dsimp only
    split <;> simp_all
  next =>
    rw [SymbolTable.add, Table.get?_put_of_ne _ _ hit]
    exact ⟨before, there, fun own => ⟨rfl, own⟩⟩

theorem addAll (table : SymbolTable) (entries : List (QName × Definition)) :
    table.Grows (table.addAll entries) := by
  induction entries generalizing table with
  | nil => exact refl table
  | cons entry rest ih => exact (add table entry.1 entry.2).trans (ih _)

end Grows

end SymbolTable

namespace Scopes

def Grows (old new : Scopes) : Prop :=
  ∀ scope kind, (old.table scope kind).Grows (new.table scope kind)

namespace Grows

theorem of_tables {old new : Scopes}
    (same : ∀ scope kind, new.table scope kind = old.table scope kind) : old.Grows new := by
  intro scope kind
  rw [same]
  exact .refl _

theorem refl (scopes : Scopes) : scopes.Grows scopes := of_tables fun _ _ => rfl

theorem trans {old middle new : Scopes} (first : old.Grows middle) (second : middle.Grows new) :
    old.Grows new :=
  fun scope kind => (first scope kind).trans (second scope kind)

theorem changeTable (scopes : Scopes) (id : ScopeId) (kind : Symbols)
    {f : SymbolTable -> SymbolTable} (grows : ∀ table : SymbolTable, table.Grows (f table)) :
    scopes.Grows (scopes.changeTable id kind f) := by
  intro scope among
  rcases table_changeTable_cases scopes id scope kind among f with same | ⟨rfl, rfl, -, changed⟩
  · exact same ▸ .refl _
  · exact changed ▸ grows _

theorem add (scopes : Scopes) (id : ScopeId) (kind : Symbols) (name : QName)
    (definition : Definition) : scopes.Grows (scopes.add id kind name definition) :=
  changeTable scopes id kind fun table => .add table name definition

theorem inlineInto (scopes : Scopes) (target : ScopeId) (kind : Symbols) (factor : Occurs)
    (source : ScopeId) (inherited : Bool) :
    scopes.Grows (scopes.inlineInto target kind factor source inherited) :=
  changeTable scopes target kind fun table => .addAll table _

theorem inlineEach (scopes : Scopes) (kinds : List Symbols) (target : ScopeId) (factor : Occurs)
    (source : ScopeId) (inherited : Bool) :
    scopes.Grows (scopes.inlineEach kinds target factor source inherited) := by
  induction kinds generalizing scopes with
  | nil => exact refl scopes
  | cons kind rest ih => exact (inlineInto scopes target kind factor source inherited).trans (ih _)

end Grows

end Scopes

end XmlSchema

import XmlSchema.Model.Resolution
import XmlSchema.Document.Declaration

set_option autoImplicit false

namespace XmlSchema

namespace Count

theorem add_le_add {a b c d : Count} (first : a ≤ b) (second : c ≤ d) : a + c ≤ b + d := by
  simp only [le_iff, val_add] at *
  omega

theorem mul_le_mul {a b c d : Count} (first : a ≤ b) (second : c ≤ d) : a * c ≤ b * d := by
  simp only [le_iff, val_mul] at *
  have raised := Nat.mul_le_mul first second
  omega

theorem zero_le (a : Count) : 0 ≤ a := Nat.zero_le _

theorem eq_zero_of_le {a : Count} (le : a ≤ 0) : a = 0 := ext (Nat.le_zero.mp le)

theorem mul_zero (a : Count) : a * 0 = 0 := by
  apply ext
  simp

theorem zero_mul (a : Count) : 0 * a = 0 := by
  apply ext
  simp

end Count

namespace Occurs

variable {a b : Occurs}

theorem wellFormed_optionalized (occurs : Occurs) : occurs.optionalized.WellFormed := by
  unfold WellFormed
  rw [least_optionalized, most_optionalized]
  cases occurs.most with
  | none => trivial
  | some most => exact Count.zero_le most

theorem WellFormed.add (first : a.WellFormed) (second : b.WellFormed) : (a + b).WellFormed := by
  unfold WellFormed at *
  cases high : a.most <;> cases high' : b.most <;>
    simp only [least_add, most_add, high, high', addMost] at first second ⊢
  exact Count.add_le_add first second

theorem WellFormed.mul (first : a.WellFormed) (second : b.WellFormed) : (a * b).WellFormed := by
  unfold WellFormed at *
  cases high : a.most with
  | none =>
      cases high' : b.most with
      | none => simp [high, high', mulMost]
      | some most =>
          -- without an upper bound the product has none either, unless the other factor is nothing
          by_cases nothing : most = 0
          · subst nothing
            simp only [high'] at second
            simp [high, high', mulMost, Count.eq_zero_of_le second, Count.mul_zero, Count.zero_le]
          · simp [high, high', mulMost, nothing]
  | some most =>
      cases high' : b.most with
      | none =>
          by_cases nothing : most = 0
          · subst nothing
            simp only [high] at first
            simp [high, high', mulMost, Count.eq_zero_of_le first, Count.zero_mul, Count.zero_le]
          · simp [high, high', mulMost, nothing]
      | some other =>
          simp only [high, high'] at first second
          simpa [high, high', mulMost] using Count.mul_le_mul first second

theorem wellFormed_readMost {low : Count} {written : Option String} {high : Option Count}
    (read : readMost low written = .ok high) : WellFormed ⟨low, high⟩ := by
  unfold readMost at read
  split at read
  next =>
    cases read
    show low ≤ if low ≤ 1 then 1 else low
    split
    · assumption
    · exact Nat.le_refl _
  next =>
    dsimp only at read
    split at read
    next => cases read; trivial
    next =>
      split at read
      next => cases read
      next =>
        split at read
        next within => cases read; exact within
        next => cases read

theorem wellFormed_read {low high : Option String} {occurs : Occurs}
    (done : read low high = .ok occurs) : occurs.WellFormed := by
  unfold read at done
  split at done
  next => cases done
  next =>
    split at done
    next => cases done
    next upper => cases done; exact wellFormed_readMost upper

theorem wellFormed_once : once.WellFormed := by decide

theorem wellFormed_occursOfUse (use : Option String) : (Model.occursOfUse use).WellFormed := by
  unfold Model.occursOfUse
  split <;> decide

end Occurs

namespace Table

variable {κ α : Type} [DecidableEq κ]

theorem forall_putInto (holds : α -> Prop) {key : κ} {change : Option α -> α}
    {entries : List (κ × α)} (before : ∀ entry ∈ entries, holds entry.2)
    (new : holds (change none)) (changed : ∀ old, holds old -> holds (change (some old))) :
    ∀ entry ∈ putInto key change entries, holds entry.2 := by
  induction entries with
  | nil => simpa [putInto] using new
  | cons first rest ih =>
      obtain ⟨here, others⟩ := List.forall_mem_cons.mp before
      unfold putInto
      split
      · exact List.forall_mem_cons.mpr ⟨changed _ here, others⟩
      · exact List.forall_mem_cons.mpr ⟨here, ih others⟩

end Table

namespace SymbolTable

def Bounded (table : SymbolTable) : Prop :=
  ∀ entry ∈ table.entries, entry.2.occurs.WellFormed

variable {table : SymbolTable}

theorem Bounded.add (bounded : table.Bounded) (name : QName) {definition : Definition}
    (formed : definition.occurs.WellFormed) :
    SymbolTable.Bounded (SymbolTable.add table name definition) := by
  refine Table.forall_putInto (fun entry : Definition => entry.occurs.WellFormed) bounded formed
    fun old there => ?_
  unfold Definition.merge
  dsimp only
  split
  · exact formed
  · exact there
  · exact there.add formed
  · exact there.add formed

theorem Bounded.addAll (bounded : table.Bounded) {entries : List (QName × Definition)}
    (formed : ∀ entry ∈ entries, entry.2.occurs.WellFormed) :
    SymbolTable.Bounded (SymbolTable.addAll table entries) := by
  unfold SymbolTable.addAll
  induction entries generalizing table with
  | nil => exact bounded
  | cons first rest ih =>
      obtain ⟨here, others⟩ := List.forall_mem_cons.mp formed
      exact ih (bounded.add first.1 here) others

end SymbolTable

namespace Scopes

def Bounded (scopes : Scopes) : Prop := ∀ scope kind, (scopes.table scope kind).Bounded

variable {scopes : Scopes}

theorem Bounded.changeTable (bounded : scopes.Bounded) (id : ScopeId) (kind : Symbols)
    {f : SymbolTable -> SymbolTable} (keeps : ∀ table, table.Bounded -> (f table).Bounded) :
    (scopes.changeTable id kind f).Bounded := by
  intro other among
  rcases table_changeTable_cases scopes id other kind among f with same | ⟨-, -, -, changed⟩
  · rw [same]
    exact bounded other among
  · rw [changed]
    exact keeps _ (bounded other among)

theorem Bounded.create (bounded : scopes.Bounded) (parent : Option ScopeId)
    (home : Option NamespaceId) : (scopes.create parent home).Bounded := by
  intro scope kind
  rw [table_create]
  exact bounded scope kind

theorem Bounded.setType (bounded : scopes.Bounded) (id : ScopeId) (node : NodeId) :
    (scopes.setType id node).Bounded := by
  intro scope kind
  rw [table_setType]
  exact bounded scope kind

theorem Bounded.define (bounded : scopes.Bounded) (id : ScopeId) (kind : Symbols) (name : QName)
    (target : NodeId) {occurs : Occurs} (formed : occurs.WellFormed) :
    (scopes.define id kind name target occurs).Bounded :=
  bounded.changeTable _ kind fun _ table => table.add name formed

theorem Bounded.inlineInto (bounded : scopes.Bounded) (target : ScopeId) (kind : Symbols)
    {factor : Occurs} (formed : factor.WellFormed) (source : ScopeId) (inherited : Bool) :
    (scopes.inlineInto target kind factor source inherited).Bounded := by
  refine bounded.changeTable target kind fun _ table => table.addAll fun entry member => ?_
  obtain ⟨original, there, rfl⟩ := List.mem_map.mp member
  exact (bounded source kind original there).mul formed

theorem Bounded.foldl (bounded : scopes.Bounded) {step : Scopes -> Symbols -> Scopes}
    (keeps : ∀ {scopes : Scopes} kind, scopes.Bounded -> (step scopes kind).Bounded)
    (kinds : List Symbols) : (kinds.foldl step scopes).Bounded := by
  induction kinds generalizing scopes with
  | nil => exact bounded
  | cons kind rest ih => exact ih (keeps kind bounded)

end Scopes

namespace Model

structure Bounded (model : Model) : Prop where
  nodes : ∀ id, (model.node id).occurs.WellFormed
  scopes : model.scopes.Bounded

namespace Bounded

variable {old new : Model}

theorem congr (bounded : old.Bounded) (nodes : ∀ id, (new.node id).occurs = (old.node id).occurs)
    (scopes : new.scopes = old.scopes) : new.Bounded := by
  refine ⟨fun id => ?_, scopes ▸ bounded.scopes⟩
  rw [nodes]
  exact bounded.nodes id

theorem withScopes (bounded : old.Bounded) (nodes : new.nodes = old.nodes)
    (scopes : new.scopes.Bounded) : new.Bounded := by
  refine ⟨fun id => ?_, scopes⟩
  unfold node
  rw [nodes]
  exact bounded.nodes id

theorem changeNode (bounded : old.Bounded) (id : NodeId) {f : Node -> Node}
    (keeps : ∀ node, node.occurs.WellFormed -> (f node).occurs.WellFormed) :
    (old.changeNode id f).Bounded := by
  refine ⟨fun other => ?_, bounded.scopes⟩
  rw [node_changeNode]
  split
  · exact keeps _ (bounded.nodes other)
  · exact bounded.nodes other

theorem noted (bounded : old.Bounded) (id : NodeId) {f : Node -> Node}
    (same : ∀ node, (f node).occurs = node.occurs) : (old.changeNode id f).Bounded :=
  bounded.changeNode id fun node formed => same node ▸ formed

theorem define (bounded : old.Bounded) (scope : ScopeId) (kind : Symbols) (name : QName)
    (target : NodeId) {occurs : Occurs} (formed : occurs.WellFormed) :
    (old.define scope kind name target occurs).Bounded :=
  bounded.withScopes rfl (bounded.scopes.define scope kind name target formed)

theorem markWildcard (bounded : old.Bounded) (id : NodeId) {mark : Node -> Node}
    (same : ∀ node, (mark node).occurs = node.occurs) : (old.markWildcard id mark).Bounded := by
  unfold Model.markWildcard
  split
  · exact bounded.noted _ same
  · exact bounded

end Bounded

end Model

end XmlSchema

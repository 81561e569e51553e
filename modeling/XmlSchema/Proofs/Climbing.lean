import XmlSchema.Model.Basic

set_option autoImplicit false

namespace XmlSchema

inductive Turn (σ α : Type) where
  | on (next : σ)
  | done (result : α)

/-- A loop comes to a result, and none of its turns fails. -/
inductive Loops {σ α : Type} (turn : σ -> Option (Turn σ α)) : σ -> α -> Prop where
  | done {state : σ} {result : α} (ends : turn state = some (.done result)) :
      Loops turn state result
  | on {state next : σ} {result : α} (goes : turn state = some (.on next))
      (rest : Loops turn next result) : Loops turn state result

theorem Loops.unique {σ α : Type} {turn : σ -> Option (Turn σ α)} {state : σ} {first second : α}
    (loops : Loops turn state first) (other : Loops turn state second) : first = second := by
  induction loops with
  | done ends =>
      cases other with
      | done stops =>
          cases ends.symm.trans stops
          rfl
      | on goes => cases ends.symm.trans goes
  | on goes _ ih =>
      cases other with
      | done stops => cases goes.symm.trans stops
      | on follows rest =>
          cases goes.symm.trans follows
          exact ih rest

namespace Model

def climb (model : Model) (accepts : Kind -> Bool) :
    Option NodeId -> Option (Turn (Option NodeId) (Option NodeId))
  | none => some (.done none)
  | some id =>
      model.nodes[id.index]?.map fun node =>
        if accepts node.kind then .done (some id) else .on node.parent

def feed (model : Model) :
    List NodeId × Option NodeId -> Option (Turn (List NodeId × Option NodeId) (List NodeId))
  | (found, none) => some (.done found)
  | (found, some id) =>
      model.nodes[id.index]?.map fun node =>
        if node.kind.isBoundary then .done (found ++ [id]) else .on (found ++ [id], node.parent)

section

variable {model : Model} (lower : ∀ id outer, (model.node id).parent = some outer ->
  outer.index < id.index)

theorem getElem?_nodes (model : Model) {id : NodeId} (within : id.index < model.nodes.size) :
    model.nodes[id.index]? = some (model.node id) := by
  simp [node, within]

include lower

theorem loops_climb (accepts : Kind -> Bool) {id : NodeId} (within : id.index < model.nodes.size) :
    Loops (model.climb accepts) (model.node id).parent (model.enclosing id accepts) := by
  obtain ⟨index⟩ := id
  -- by induction on the number: the node around has a lower one, so the guard of the walk holds
  induction index using Nat.strongRecOn with
  | ind index ih =>
      rw [enclosing, ancestors]
      cases around : (model.node ⟨index⟩).parent with
      | none => exact .done rfl
      | some outer =>
          have below := lower _ outer around
          have there : outer.index < model.nodes.size := Nat.lt_trans below within
          have turn : model.climb accepts (some outer) =
              some (if accepts (model.node outer).kind then .done (some outer)
                else .on (model.node outer).parent) :=
            congrArg (Option.map _) (getElem?_nodes model there)
          dsimp only
          rw [if_pos below, List.find?_cons]
          cases accepted : accepts (model.node outer).kind with
          | true =>
              rw [accepted] at turn
              exact .done turn
          | false =>
              rw [accepted] at turn
              exact .on turn (ih outer.index below there)

theorem loops_feed (found : List NodeId) {id : NodeId} (within : id.index < model.nodes.size) :
    Loops model.feed (found, (model.node id).parent)
      (found ++ upTo (fun outer => (model.node outer).kind.isBoundary) (model.ancestors id)) := by
  obtain ⟨index⟩ := id
  induction index using Nat.strongRecOn generalizing found with
  | ind index ih =>
      rw [ancestors]
      cases around : (model.node ⟨index⟩).parent with
      | none =>
          rw [upTo, List.append_nil]
          exact .done rfl
      | some outer =>
          have below := lower _ outer around
          have there : outer.index < model.nodes.size := Nat.lt_trans below within
          have turn : model.feed (found, some outer) =
              some (if (model.node outer).kind.isBoundary then .done (found ++ [outer])
                else .on (found ++ [outer], (model.node outer).parent)) :=
            congrArg (Option.map _) (getElem?_nodes model there)
          dsimp only
          rw [if_pos below, upTo]
          cases boundary : (model.node outer).kind.isBoundary with
          | true =>
              rw [boundary] at turn
              exact .done turn
          | false =>
              have rest := ih outer.index below (found ++ [outer]) there
              rw [List.append_assoc] at rest
              rw [boundary] at turn
              exact .on turn rest

end

end Model

namespace Scopes

theorem chain_congr {old new : Scopes}
    (parents : ∀ id, (new.get id).parent = (old.get id).parent) (id : ScopeId) :
    new.chain id = old.chain id := by
  fun_induction chain old id with
  | case1 id root => rw [chain, parents, root]
  | case2 id parent inside lower ih =>
    rw [chain, parents, inside]
    simp only [lower, if_true, ih]
  | case3 id parent inside higher =>
    rw [chain, parents, inside]
    simp only [higher, if_false]

theorem chain_changeTable (scopes : Scopes) (target : ScopeId) (kind : Symbols)
    (f : SymbolTable -> SymbolTable) (id : ScopeId) :
    (scopes.changeTable target kind f).chain id = scopes.chain id :=
  chain_congr (fun other => parent_changeTable scopes target other kind f) id

def seek (scopes : Scopes) (kind : Symbols) (name : QName) :
    Option ScopeId -> Option (Turn (Option ScopeId) (Option Definition))
  | none => some (.done none)
  | some id =>
      scopes.all[id.index]?.map fun scope =>
        match (scope.tables.get kind).get? name with
        | some definition => .done (some definition)
        | none => .on scope.parent

def meets (scopes : Scopes) (outer : ScopeId) :
    Option ScopeId -> Option (Turn (Option ScopeId) Bool)
  | none => some (.done false)
  | some id =>
      if id = outer then some (.done true)
      else scopes.all[id.index]?.map fun scope => .on scope.parent

section

variable {scopes : Scopes} (lower : ∀ id outer, (scopes.get id).parent = some outer ->
  outer.index < id.index)

theorem getElem?_all (scopes : Scopes) {id : ScopeId} (within : id.index < scopes.size) :
    scopes.all[id.index]? = some (scopes.get id) := by
  have inside : id.index < scopes.all.size := within
  simp [get, inside]

include lower

theorem chain_eq (id : ScopeId) :
    scopes.chain id = id :: (((scopes.get id).parent).map scopes.chain).getD [] := by
  rw [chain]
  cases around : (scopes.get id).parent with
  | none => rfl
  | some outer =>
      dsimp only
      rw [if_pos (lower id outer around)]
      rfl

theorem loops_seek (kind : Symbols) (name : QName) {id : ScopeId}
    (within : id.index < scopes.size) :
    Loops (scopes.seek kind name) (some id) (scopes.findLocal id kind name) := by
  obtain ⟨index⟩ := id
  induction index using Nat.strongRecOn with
  | ind index ih =>
      have turn : scopes.seek kind name (some ⟨index⟩) = _ :=
        congrArg (Option.map _) (getElem?_all scopes within)
      rw [Option.map_some] at turn
      rw [findLocal, chain_eq lower, List.findSome?_cons, table]
      cases found : ((scopes.get ⟨index⟩).tables.get kind).get? name with
      | some definition => exact .done (turn.trans (by rw [found]))
      | none =>
          refine .on (turn.trans (by rw [found])) ?_
          cases around : (scopes.get ⟨index⟩).parent with
          | none => exact .done rfl
          | some outer =>
              have below := lower _ outer around
              exact ih outer.index below (Nat.lt_trans below within)

theorem loops_meets (outer : ScopeId) {id : ScopeId} (within : id.index < scopes.size) :
    Loops (scopes.meets outer) (some id) (scopes.isWithin id outer) := by
  obtain ⟨index⟩ := id
  induction index using Nat.strongRecOn with
  | ind index ih =>
      rw [isWithin, chain_eq lower, List.contains_cons]
      by_cases same : (⟨index⟩ : ScopeId) = outer
      next =>
        rw [same, beq_self_eq_true, Bool.true_or]
        exact .done (if_pos rfl)
      next =>
        have apart : (outer == (⟨index⟩ : ScopeId)) = false := beq_eq_false_iff_ne.mpr (Ne.symm same)
        rw [apart, Bool.false_or]
        have turn : scopes.meets outer (some ⟨index⟩) = some (.on (scopes.get ⟨index⟩).parent) :=
          (if_neg same).trans (congrArg (Option.map _) (getElem?_all scopes within))
        refine .on turn ?_
        cases around : (scopes.get ⟨index⟩).parent with
        | none => exact .done rfl
        | some next =>
            have below := lower _ next around
            exact ih next.index below (Nat.lt_trans below within)

end

end Scopes

end XmlSchema

import XmlSchema.Proofs.Climbing

set_option autoImplicit false

namespace XmlSchema

namespace Scopes

/-- Scopes that were made one after the other, each inside one that was there or inside none. What
their tables hold does not matter. -/
inductive Made : Scopes -> Prop where
  | empty : Made .empty
  | create {scopes : Scopes} (made : scopes.Made) (parent : Option ScopeId)
      (home : Option NamespaceId)
      (there : ∀ outer, parent = some outer -> outer.index < scopes.size) :
      (scopes.create parent home).Made
  | createChild {scopes : Scopes} (made : scopes.Made) (parent : ScopeId)
      (there : parent.index < scopes.size) : (scopes.createChild parent).Made
  | register {scopes : Scopes} (made : scopes.Made) (namespaces : Namespaces)
      (name url short : Option String) (there : namespaces.builtins.index < scopes.size) :
      (namespaces.register scopes name url short).scopes.Made
  | filled {scopes filled : Scopes} (made : scopes.Made) (size : filled.size = scopes.size)
      (parents : ∀ id, (filled.get id).parent = (scopes.get id).parent) : filled.Made

/-- An entry of `outer` is seen from `inner`: no scope on the way out to `outer` has an entry of its
own. -/
def Exposes (scopes : Scopes) (outer : ScopeId) (kind : Symbols) (name : QName)
    (inner : ScopeId) : Prop :=
  scopes.isWithin inner outer = true ∧
    ∀ between ∈ (scopes.chain inner).takeWhile (· ≠ outer),
      (scopes.table between kind).get? name = none

instance (scopes : Scopes) (outer : ScopeId) (kind : Symbols) (name : QName) (inner : ScopeId) :
    Decidable (scopes.Exposes outer kind name inner) :=
  inferInstanceAs (Decidable (_ ∧ _))

theorem lower_create {scopes : Scopes}
    (lower : ∀ id outer, (scopes.get id).parent = some outer -> outer.index < id.index)
    {parent : Option ScopeId} (there : ∀ outer, parent = some outer -> outer.index < scopes.size)
    (home : Option NamespaceId) (id outer : ScopeId)
    (around : ((scopes.create parent home).get id).parent = some outer) :
    outer.index < id.index := by
  rw [get_create] at around
  split at around
  next last =>
    rw [last]
    exact there outer around
  next => exact lower id outer around

theorem Made.lower {scopes : Scopes} (made : scopes.Made) :
    ∀ id outer, (scopes.get id).parent = some outer -> outer.index < id.index := by
  induction made with
  | empty =>
    intro id outer around
    rw [get_of_size_le Scopes.empty (Nat.zero_le _)] at around
    cases around
  | create _ parent home there lower => exact lower_create lower there home
  | createChild _ parent there lower =>
    refine lower_create lower (fun outer same => ?_) _
    cases same
    exact there
  | @register scopes _ namespaces name url short there lower =>
    unfold Namespaces.register
    dsimp only
    split
    next => exact lower
    next =>
      refine lower_create lower (fun outer same => ?_) _
      cases same
      exact there
  | filled _ size parents lower =>
    exact fun id outer around => lower id outer ((parents id).symm.trans around)

section

variable {scopes : Scopes} (lower : ∀ id outer, (scopes.get id).parent = some outer ->
  outer.index < id.index)

include lower

theorem le_of_mem_chain {id outer : ScopeId} (around : outer ∈ scopes.chain id) :
    outer.index ≤ id.index := by
  fun_induction chain scopes id with
  | case1 id root => exact Nat.le_of_eq (congrArg ScopeId.index (List.mem_singleton.mp around))
  | case2 id parent inside below ih =>
    rcases List.mem_cons.mp around with rfl | further
    · exact Nat.le_refl _
    · exact Nat.le_trans (ih further) (Nat.le_of_lt below)
  | case3 id parent inside higher => exact absurd (lower id parent inside) higher

theorem mem_chain_iff {id outer : ScopeId} :
    outer ∈ scopes.chain id ↔
      outer = id ∨ ∃ parent, (scopes.get id).parent = some parent ∧ outer ∈ scopes.chain parent := by
  rw [chain_eq lower, List.mem_cons]
  cases (scopes.get id).parent <;> simp

theorem mem_chain_or {id first second : ScopeId} (one : first ∈ scopes.chain id)
    (two : second ∈ scopes.chain id) :
    first ∈ scopes.chain second ∨ second ∈ scopes.chain first := by
  fun_induction chain scopes id with
  | case1 id root =>
    obtain rfl := List.mem_singleton.mp one
    obtain rfl := List.mem_singleton.mp two
    exact .inl ((mem_chain_iff lower).mpr (.inl rfl))
  | case2 id parent inside below ih =>
    -- what is around the parent is around the scope
    have outwards {outer : ScopeId} (further : outer ∈ scopes.chain parent) :
        outer ∈ scopes.chain id := (mem_chain_iff lower).mpr (.inr ⟨parent, inside, further⟩)
    rcases List.mem_cons.mp one with rfl | further
    · rcases List.mem_cons.mp two with rfl | further
      · exact .inl ((mem_chain_iff lower).mpr (.inl rfl))
      · exact .inr (outwards further)
    · rcases List.mem_cons.mp two with rfl | other
      · exact .inl (outwards further)
      · exact ih further other
  | case3 id parent inside higher => exact absurd (lower id parent inside) higher

theorem not_mem_chain_of_beside {outer beside scope : ScopeId}
    (siblings : (scopes.get beside).parent = (scopes.get outer).parent) (apart : beside ≠ outer)
    (within : beside ∈ scopes.chain scope) : outer ∉ scopes.chain scope := by
  intro nested
  -- a scope around one of two siblings would be around their parent, which came before both
  have clash {first second : ScopeId} (same : (scopes.get first).parent = (scopes.get second).parent)
      (different : first ≠ second) (around : first ∈ scopes.chain second) : False := by
    rcases (mem_chain_iff lower).mp around with equal | ⟨parent, inside, further⟩
    · exact different equal
    · have below := lower first parent (same.trans inside)
      have above := le_of_mem_chain lower further
      omega
  rcases mem_chain_or lower within nested with one | two
  · exact clash siblings apart one
  · exact clash siblings.symm apart.symm two

end

theorem isWithin_iff (scopes : Scopes) (inner outer : ScopeId) :
    scopes.isWithin inner outer = true ↔ outer ∈ scopes.chain inner := by
  simp [isWithin]

theorem findSome?_of_found {α β : Type} [DecidableEq α] (old new : α -> Option β) {key : α}
    {found : β} (here : new key = some found)
    (elsewhere : ∀ item, item ≠ key -> new item = old item) (items : List α)
    (member : key ∈ items) (free : ∀ item ∈ items.takeWhile (· ≠ key), old item = none) :
    items.findSome? new = some found := by
  induction items with
  | nil => cases member
  | cons item rest ih =>
    by_cases same : item = key
    next => rw [List.findSome?_cons, same, here]
    next =>
      rw [List.takeWhile_cons_of_pos (by simpa using same)] at free
      rw [List.findSome?_cons, elsewhere item same, free item List.mem_cons_self]
      exact ih ((List.mem_cons.mp member).resolve_left (Ne.symm same))
        fun between inside => free between (List.mem_cons_of_mem _ inside)

theorem findSome?_of_hidden {α β : Type} [DecidableEq α] (old new : α -> Option β) {key : α}
    (elsewhere : ∀ item, item ≠ key -> new item = old item) (items : List α)
    (hidden : key ∈ items -> ∃ item ∈ items.takeWhile (· ≠ key), old item ≠ none) :
    items.findSome? new = items.findSome? old := by
  induction items with
  | nil => rfl
  | cons item rest ih =>
    by_cases same : item = key
    next =>
      obtain ⟨between, inside, -⟩ := hidden (same ▸ List.mem_cons_self)
      simp [same] at inside
    next =>
      rw [List.findSome?_cons, List.findSome?_cons, elsewhere item same]
      cases first : old item with
      | some => rfl
      | none =>
        refine ih fun member => ?_
        obtain ⟨between, inside, filled⟩ := hidden (List.mem_cons_of_mem _ member)
        rw [List.takeWhile_cons_of_pos (by simpa using same)] at inside
        rcases List.mem_cons.mp inside with rfl | further
        · exact absurd first filled
        · exact ⟨between, further, filled⟩

theorem findLocal_add_of_exposed (scopes : Scopes) {outer inner : ScopeId}
    (within : outer.index < scopes.size) {kind : Symbols} {name : QName} (added : Definition)
    (exposed : scopes.Exposes outer kind name inner) :
    (scopes.add outer kind name added).findLocal inner kind name =
      some (added.merge ((scopes.table outer kind).get? name)) := by
  have here : ((scopes.add outer kind name added).table outer kind).get? name =
      some (added.merge ((scopes.table outer kind).get? name)) := by
    rw [add, table_changeTable_self scopes kind _ within]
    exact Table.get?_put_self ..
  have elsewhere (id : ScopeId) (apart : id ≠ outer) :
      ((scopes.add outer kind name added).table id kind).get? name =
        (scopes.table id kind).get? name := by
    rw [add, table_changeTable_of_ne scopes _ (.inl apart)]
  rw [findLocal, add, chain_changeTable, ← add]
  exact findSome?_of_found (fun id => (scopes.table id kind).get? name) _ here elsewhere _
    ((isWithin_iff ..).mp exposed.1) exposed.2

theorem findLocal_add_of_hidden (scopes : Scopes) (outer inner : ScopeId) {kind among : Symbols}
    {name other : QName} (added : Definition)
    (hidden : ¬ (among = kind ∧ other = name ∧ scopes.Exposes outer kind name inner)) :
    (scopes.add outer kind name added).findLocal inner among other =
      scopes.findLocal inner among other := by
  have elsewhere (id : ScopeId) (apart : id ≠ outer) :
      ((scopes.add outer kind name added).table id among).get? other =
        (scopes.table id among).get? other := by
    rw [add, table_changeTable_of_ne scopes _ (.inl apart)]
  rw [findLocal, findLocal, add, chain_changeTable, ← add]
  by_cases called : among = kind ∧ other = name
  next =>
    obtain ⟨rfl, rfl⟩ := called
    refine findSome?_of_hidden _ _ elsewhere _ fun nested => ?_
    -- the entry is nested in, so it is hidden by one on the way
    refine Classical.byContradiction fun free => hidden ⟨rfl, rfl, (isWithin_iff ..).mpr nested, ?_⟩
    intro between inside
    exact Classical.byContradiction fun filled => free ⟨between, inside, filled⟩
  next =>
    -- the entry is of another kind or another name, so every look-up comes to what it came to
    congr 1
    funext id
    rcases table_changeTable_cases scopes outer id kind among
        (fun table => table.add name added) with same | ⟨-, rfl, -, changed⟩
    · rw [add, same]
    · rw [add, changed]
      exact Table.get?_put_of_ne _ _ fun same => called ⟨rfl, same⟩

/-- After a definition every name is found as before, but the one that is defined, where the entry is
seen that it has in the scope around: there it is found as that entry. So neither the scopes around
that one find anything else, nor those beside it or whatever is nested in these. -/
theorem findLocal_define {scopes : Scopes} (made : scopes.Made) {id : ScopeId}
    (within : id.index < scopes.size) (kind : Symbols) (name : QName) (target : NodeId)
    (occurs : Occurs) :
    let outer := scopes.surrounding id
    let defined := scopes.define id kind name target occurs
    (∀ scope, scopes.chain scope = scope :: (((scopes.get scope).parent).map scopes.chain).getD []) ∧
      (∀ scope among other,
        ¬ (among = kind ∧ other = name ∧ scopes.Exposes outer kind name scope) ->
          defined.findLocal scope among other = scopes.findLocal scope among other) ∧
      (∀ scope, scopes.Exposes outer kind name scope ->
        defined.findLocal scope kind name =
          some (Definition.merge ⟨target, occurs, false⟩ ((scopes.table outer kind).get? name))) ∧
      (∀ further, (scopes.get outer).parent = some further ->
        ∀ scope ∈ scopes.chain further, ∀ among other,
          defined.findLocal scope among other = scopes.findLocal scope among other) ∧
      ∀ beside, (scopes.get beside).parent = (scopes.get outer).parent -> beside ≠ outer ->
        ∀ scope, scopes.isWithin scope beside = true -> ∀ among other,
          defined.findLocal scope among other = scopes.findLocal scope among other := by
  intro outer defined
  have lower := made.lower
  have inside : outer.index < scopes.size := by
    unfold outer surrounding
    cases around : (scopes.get id).parent with
    | none => exact within
    | some parent => exact Nat.lt_trans (lower id parent around) within
  have unseen (scope : ScopeId) (apart : outer ∉ scopes.chain scope) (among : Symbols)
      (other : QName) : defined.findLocal scope among other = scopes.findLocal scope among other :=
    findLocal_add_of_hidden scopes outer scope _ fun seen =>
      apart ((isWithin_iff ..).mp seen.2.2.1)
  refine ⟨chain_eq lower, fun scope among other hidden => ?_, fun scope exposed => ?_,
    fun further around scope member => unseen scope fun nested => ?_,
    fun beside siblings apart scope nested => unseen scope ?_⟩
  · exact findLocal_add_of_hidden scopes outer scope _ hidden
  · exact findLocal_add_of_exposed scopes inside _ exposed
  · -- a scope around the one that got the entry came before it
    have before := lower outer further around
    have above := le_of_mem_chain lower member
    have below := le_of_mem_chain lower nested
    omega
  · exact not_mem_chain_of_beside lower siblings apart ((isWithin_iff ..).mp nested)

def twoBodies : Scopes :=
  (((((Scopes.empty.create none none).createChild ⟨0⟩).createChild ⟨1⟩).createChild ⟨0⟩).createChild
    ⟨2⟩).add ⟨4⟩ .elements (.unqualified "a") ⟨⟨47⟩, .optional, true⟩

theorem made_twoBodies : twoBodies.Made := by
  refine .filled ?_ (size_changeTable ..) fun id => parent_changeTable ..
  refine .createChild (.createChild (.createChild (.createChild ?_ _ ?_) _ ?_) _ ?_) _ ?_
  · exact .create .empty none none nofun
  all_goals decide

theorem findLocal_define_twoBodies :
    let defined := twoBodies.define ⟨2⟩ .elements (.unqualified "a") ⟨46⟩ .once
    twoBodies.Made ∧ 2 < twoBodies.size ∧
      defined.findLocal ⟨2⟩ .elements (.unqualified "a") = some ⟨⟨46⟩, .once, false⟩ ∧
      defined.findLocal ⟨4⟩ .elements (.unqualified "a") = some ⟨⟨47⟩, .optional, true⟩ ∧
      defined.findLocal ⟨3⟩ .elements (.unqualified "a") = none ∧
      defined.findLocal ⟨0⟩ .elements (.unqualified "a") = none ∧
      defined.findLocal ⟨2⟩ .types (.unqualified "a") = none := by
  have within : (⟨2⟩ : ScopeId).index < twoBodies.size := by decide
  obtain ⟨-, hidden, exposed, further, beside⟩ := findLocal_define made_twoBodies within .elements
    (.unqualified "a") ⟨46⟩ .once
  refine ⟨made_twoBodies, within, ?_, ?_, ?_, ?_, ?_⟩
  · exact (exposed ⟨2⟩ (by decide +kernel)).trans (by decide +kernel)
  · exact (hidden ⟨4⟩ .elements _ (by decide +kernel)).trans (by decide +kernel)
  · exact (beside ⟨3⟩ (by decide +kernel) (by decide +kernel) ⟨3⟩ (by decide +kernel) _ _).trans
      (by decide +kernel)
  · exact (further ⟨0⟩ (by decide +kernel) ⟨0⟩ (by decide +kernel) _ _).trans (by decide +kernel)
  · exact (hidden ⟨2⟩ .types _ (by decide +kernel)).trans (by decide +kernel)

end Scopes

end XmlSchema

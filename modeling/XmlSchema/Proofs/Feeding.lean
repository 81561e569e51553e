import XmlSchema.Model.Basic

set_option autoImplicit false

namespace XmlSchema.Model

/-- Work on `feeder` may add to the body of `owner`: no element or attribute stands strictly
between them. -/
def Feeds (model : Model) (feeder owner : NodeId) : Prop :=
  owner = feeder ∨
    owner ∈ model.ancestors feeder ∧
      ∀ between ∈ model.ancestors feeder, owner ∈ model.ancestors between ->
        (model.node between).kind.isBoundary = false

theorem ancestors_of_parent {model : Model} {id parent : NodeId}
    (inside : (model.node id).parent = some parent) (lower : parent.index < id.index) :
    model.ancestors id = parent :: model.ancestors parent := by
  rw [ancestors, inside]
  simp [lower]

theorem ancestors_of_root {model : Model} {id : NodeId} (root : (model.node id).parent = none) :
    model.ancestors id = [] := by
  rw [ancestors, root]

theorem mem_upTo_ancestors (model : Model) (accepts : NodeId -> Bool) (id owner : NodeId) :
    owner ∈ upTo accepts (model.ancestors id) ↔
      owner ∈ model.ancestors id ∧
        ∀ between ∈ model.ancestors id, owner ∈ model.ancestors between ->
          accepts between = false := by
  fun_induction ancestors model id with
  | case1 => simp [upTo]
  | case2 id parent found lower ih =>
      by_cases same : owner = parent
      next =>
        subst same
        have first : owner ∈ upTo accepts (owner :: model.ancestors owner) := by
          simp only [upTo]
          split <;> simp
        refine ⟨fun _ => ⟨List.mem_cons_self, ?_⟩, fun _ => first⟩
        -- nothing inside the owner has it among the nodes around
        intro between further around
        have above := mem_ancestors_lt around
        rcases List.mem_cons.mp further with rfl | below
        · exact absurd above (Nat.lt_irrefl _)
        · exact absurd above (Nat.lt_asymm (mem_ancestors_lt below))
      next =>
        by_cases stop : accepts parent = true
        next =>
          simp only [upTo, stop, if_true, List.mem_cons, same, false_or, List.not_mem_nil,
            false_iff, not_and]
          intro around clear
          have passes := clear parent (Or.inl rfl) around
          simp [stop] at passes
        next =>
          have passes : accepts parent = false := by simpa using stop
          simp only [upTo, passes, Bool.false_eq_true, if_false, List.mem_cons, same, false_or, ih]
          constructor
          · rintro ⟨around, clear⟩
            refine ⟨around, ?_⟩
            rintro between (rfl | below) within
            · exact passes
            · exact clear between below within
          · rintro ⟨around, clear⟩
            exact ⟨around, fun between below within => clear between (Or.inr below) within⟩
  | case3 => simp [upTo]

theorem mem_fed (model : Model) (feeder owner : NodeId) :
    owner ∈ model.fed feeder ↔ model.Feeds feeder owner := by
  simp only [fed, Feeds, List.mem_cons, mem_upTo_ancestors]

theorem feeds_parent {model : Model} {id parent : NodeId}
    (inside : (model.node id).parent = some parent) (lower : parent.index < id.index) :
    model.Feeds id parent := by
  have around := ancestors_of_parent inside lower
  refine Or.inr ⟨by simp [around], ?_⟩
  intro between member within
  rw [around] at member
  have above := mem_ancestors_lt within
  rcases List.mem_cons.mp member with rfl | further
  · exact absurd above (Nat.lt_irrefl _)
  · exact absurd above (Nat.lt_asymm (mem_ancestors_lt further))

theorem feeds_through {model : Model} {feeder owner : NodeId}
    (feeds : model.Feeds feeder owner) (apart : owner ≠ feeder) :
    ∃ parent, (model.node feeder).parent = some parent ∧ parent.index < feeder.index ∧
      (owner = parent ∨
        (model.node parent).kind.isBoundary = false ∧ model.Feeds parent owner) := by
  rcases feeds with same | ⟨around, clear⟩
  · exact absurd same apart
  · rw [ancestors] at around
    split at around
    next => simp at around
    next parent found =>
      split at around
      next lower =>
        refine ⟨parent, found, lower, ?_⟩
        have chain := ancestors_of_parent found lower
        rcases List.mem_cons.mp around with same | further
        · exact Or.inl same
        · refine Or.inr ⟨clear parent (by simp [chain]) further, Or.inr ⟨further, ?_⟩⟩
          intro between member within
          exact clear between (by simp [chain, member]) within
      next => simp at around

theorem feeds_of_parent {model : Model} {feeder parent owner : NodeId}
    (inside : (model.node feeder).parent = some parent) (lower : parent.index < feeder.index)
    (plain : (model.node parent).kind.isBoundary = false) (feeds : model.Feeds parent owner) :
    model.Feeds feeder owner := by
  have chain := ancestors_of_parent inside lower
  rcases feeds with rfl | ⟨around, clear⟩
  · exact feeds_parent inside lower
  · refine Or.inr ⟨by simp [chain, around], ?_⟩
    intro between member within
    rw [chain] at member
    rcases List.mem_cons.mp member with rfl | further
    · exact plain
    · exact clear between further within

theorem feeds_trans {model : Model} {feeder middle owner : NodeId}
    (first : model.Feeds feeder middle) (second : model.Feeds middle owner)
    (plain : (model.node middle).kind.isBoundary = false) : model.Feeds feeder owner := by
  obtain ⟨index⟩ := feeder
  induction index using Nat.strongRecOn with
  | ind index ih =>
      by_cases same : middle = ⟨index⟩
      next => exact same ▸ second
      next =>
        obtain ⟨parent, inside, lower, through⟩ := feeds_through first same
        rcases through with rfl | ⟨clear, further⟩
        · exact feeds_of_parent inside lower plain second
        · exact feeds_of_parent inside lower clear (ih parent.index lower further)

end XmlSchema.Model

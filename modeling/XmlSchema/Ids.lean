set_option autoImplicit false

namespace XmlSchema

structure NodeId where
  index : Nat
  deriving DecidableEq, Hashable, Inhabited, Repr

structure ScopeId where
  index : Nat
  deriving DecidableEq, Inhabited, Repr

structure NamespaceId where
  index : Nat
  deriving DecidableEq, Inhabited, Repr

structure SourceId where
  index : Nat
  deriving DecidableEq, Inhabited, Repr

structure DocumentId where
  index : Nat
  deriving DecidableEq, Inhabited, Repr

structure TaskId where
  index : Nat
  deriving DecidableEq, Inhabited, Repr

namespace Numbered

variable {α : Type} [Inhabited α]

theorem getD_modify (items : Array α) (i j : Nat) (f : α -> α) :
    (items.modify i f)[j]?.getD default =
      if j = i ∧ j < items.size then f (items[j]?.getD default) else items[j]?.getD default := by
  rw [Array.getElem?_modify]
  by_cases same : i = j
  · subst same
    by_cases inside : i < items.size <;> simp [inside]
  · simp [same, Ne.symm same]

theorem getD_push (items : Array α) (item : α) (i : Nat) :
    (items.push item)[i]?.getD default =
      if i = items.size then item else items[i]?.getD default := by
  rw [Array.getElem?_push]
  split <;> rfl

theorem getD_of_size_le (items : Array α) {i : Nat} (outside : items.size ≤ i) :
    items[i]?.getD default = default := by
  rw [Array.getElem?_eq_none outside]
  rfl

end Numbered

end XmlSchema

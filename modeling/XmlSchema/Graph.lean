set_option autoImplicit false

namespace XmlSchema

structure Graph where
  size : Nat
  next : Nat -> List Nat

namespace Graph

inductive Visit where
  | enters (vertex : Nat)
  | leaves (vertex : Nat)
  deriving DecidableEq, Repr

def pending : List Visit -> Nat
  | [] => 0
  | .enters _ :: rest => pending rest + 2
  | .leaves _ :: rest => pending rest + 1

def successors (graph : Graph) (vertex : Nat) : List Nat :=
  if vertex < graph.size then graph.next vertex else []

theorem length_filter_mono {p q : Nat -> Bool} (weaker : ∀ n, q n = true → p n = true)
    (items : List Nat) : (items.filter q).length ≤ (items.filter p).length := by
  induction items with
  | nil => simp
  | cons n rest ih =>
      by_cases kept : q n = true
      · simp [kept, weaker n kept, ih]
      · by_cases other : p n = true <;> simp [kept, other] <;> omega

theorem length_filter_lt {p q : Nat -> Bool} (weaker : ∀ n, q n = true → p n = true)
    {items : List Nat} {n : Nat} (member : n ∈ items) (kept : p n = true) (dropped : q n = false) :
    (items.filter q).length < (items.filter p).length := by
  induction items with
  | nil => cases member
  | cons m rest ih =>
      rcases List.mem_cons.mp member with rfl | inside
      · have smaller := length_filter_mono weaker rest
        simp [kept, dropped]
        omega
      · have smaller := ih inside
        by_cases first : q m = true
        · simp [first, weaker m first, smaller]
        · by_cases other : p m = true <;> simp [first, other] <;> omega

def unseen (size : Nat) (seen : List Nat) : Nat :=
  ((List.range size).filter fun n => !seen.contains n).length

theorem unseen_cons_lt {size n : Nat} {seen : List Nat} (inside : n < size)
    (unseenYet : n ∉ seen) : unseen size (n :: seen) < unseen size seen := by
  refine length_filter_lt ?_ (List.mem_range.mpr inside) ?_ ?_
  · intro n kept
    simp_all
  · simpa using unseenYet
  · simp

/-- The visits still to come, with the vertices in `seen` entered before. -/
def walk (graph : Graph) (seen : List Nat) : List Visit -> List Visit
  | [] => []
  | .leaves vertex :: rest => .leaves vertex :: graph.walk seen rest
  | .enters vertex :: rest =>
      if vertex ∈ seen then graph.walk seen rest
      else
        .enters vertex ::
          graph.walk (vertex :: seen)
            ((graph.successors vertex).map .enters ++ .leaves vertex :: rest)
termination_by visits => (unseen graph.size seen, pending visits)
decreasing_by
  · apply Prod.Lex.right
    simp [pending]
  · apply Prod.Lex.right
    simp [pending]
  · by_cases inside : vertex < graph.size
    · apply Prod.Lex.left
      exact unseen_cons_lt inside ‹_›
    · have same : unseen graph.size (vertex :: seen) = unseen graph.size seen := by
        unfold unseen
        congr 1
        apply List.filter_congr
        intro n member
        have apart : n ≠ vertex := by
          have := List.mem_range.mp member
          omega
        simp [apart]
      rw [same]
      apply Prod.Lex.right
      simp [successors, inside, pending]

def preorder (graph : Graph) (start : List Nat) : List Nat :=
  (graph.walk [] (start.map .enters)).filterMap fun visit =>
    match visit with
    | .enters vertex => some vertex
    | .leaves _ => none

/-- What can be reached from some vertices, each after what is first reached through it. -/
def postorder (graph : Graph) (start : List Nat) : List Nat :=
  (graph.walk [] (start.map .enters)).filterMap fun visit =>
    match visit with
    | .enters _ => none
    | .leaves vertex => some vertex

theorem leaves_mem_walk (graph : Graph) (seen : List Nat) (visits : List Visit) (vertex : Nat) :
    (.leaves vertex ∈ visits → .leaves vertex ∈ graph.walk seen visits) ∧
      (.enters vertex ∈ visits → vertex ∈ seen ∨ .leaves vertex ∈ graph.walk seen visits) := by
  fun_induction walk graph seen visits with
  | case1 => simp
  | case2 seen first rest ih =>
      constructor
      · intro member
        rcases List.mem_cons.mp member with same | later
        · exact same ▸ List.mem_cons_self
        · exact List.mem_cons_of_mem _ (ih.1 later)
      · intro member
        rcases List.mem_cons.mp member with same | later
        · cases same
        · exact (ih.2 later).imp_right (List.mem_cons_of_mem _)
  | case3 seen first rest known ih =>
      constructor
      · intro member
        rcases List.mem_cons.mp member with same | later
        · cases same
        · exact ih.1 later
      · intro member
        rcases List.mem_cons.mp member with same | later
        · cases same
          exact Or.inl known
        · exact ih.2 later
  | case4 seen first rest fresh ih =>
      constructor
      · intro member
        rcases List.mem_cons.mp member with same | later
        · cases same
        · exact List.mem_cons_of_mem _ (ih.1 (by simp [later]))
      · intro member
        -- a vertex that is entered is to be left behind what it leads to
        have left : Visit.leaves first ∈ (graph.successors first).map .enters ++ .leaves first :: rest := by
          simp
        rcases List.mem_cons.mp member with same | later
        · cases same
          exact Or.inr (List.mem_cons_of_mem _ (ih.1 left))
        · rcases ih.2 (by simp [later]) with before | after
          · rcases List.mem_cons.mp before with rfl | earlier
            · exact Or.inr (List.mem_cons_of_mem _ (ih.1 left))
            · exact Or.inl earlier
          · exact Or.inr (List.mem_cons_of_mem _ after)

theorem mem_postorder (graph : Graph) {start : List Nat} {vertex : Nat} (member : vertex ∈ start) :
    vertex ∈ graph.postorder start := by
  have left := ((leaves_mem_walk graph [] (start.map .enters) vertex).2
    (List.mem_map.mpr ⟨vertex, member, rfl⟩)).resolve_left (by simp)
  exact List.mem_filterMap.mpr ⟨.leaves vertex, left, rfl⟩

end Graph

end XmlSchema

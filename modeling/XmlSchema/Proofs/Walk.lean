import Mathlib.Logic.Relation
import XmlSchema.Graph

set_option autoImplicit false

namespace XmlSchema.Graph

namespace Visit

def vertex : Visit -> Nat
  | .enters vertex => vertex
  | .leaves vertex => vertex

def left? : Visit -> Option Nat
  | .enters _ => none
  | .leaves vertex => some vertex

end Visit

def LeadsTo (graph : Graph) : Nat -> Nat -> Prop :=
  Relation.ReflTransGen fun vertex other => other ∈ graph.successors vertex

/-- Everything that stands in a list of visits before a vertex is left can be reached from it. -/
def Nested (graph : Graph) (visits : List Visit) : Prop :=
  visits.Pairwise fun inner outer =>
    ∀ vertex, outer = .leaves vertex -> graph.LeadsTo vertex inner.vertex

def opened (visits : List Visit) : List Nat := visits.filterMap Visit.left?

theorem mem_opened (visits : List Visit) (vertex : Nat) :
    vertex ∈ opened visits ↔ .leaves vertex ∈ visits := by
  simp only [opened, List.mem_filterMap]
  constructor
  · rintro ⟨visit, member, left⟩
    cases visit with
    | enters other => cases left
    | leaves other =>
        cases left
        exact member
  · exact fun member => ⟨_, member, rfl⟩

theorem postorder_eq (graph : Graph) (start : List Nat) :
    graph.postorder start = opened (graph.walk [] (start.map .enters)) := by
  unfold postorder opened
  congr 1

theorem opened_enters (vertices : List Nat) : opened (vertices.map .enters) = [] := by
  induction vertices with
  | nil => rfl
  | cons first others ih => exact ih

theorem nested_enters (graph : Graph) (vertices : List Nat) :
    graph.Nested (vertices.map .enters) := by
  induction vertices with
  | nil => exact List.Pairwise.nil
  | cons first others ih =>
      refine List.pairwise_cons.mpr ⟨fun outer member vertex same => ?_, ih⟩
      obtain ⟨other, -, rfl⟩ := List.mem_map.mp member
      cases same

theorem opened_entered (graph : Graph) (vertex : Nat) (rest : List Visit) :
    opened ((graph.successors vertex).map .enters ++ .leaves vertex :: rest) =
      vertex :: opened rest := by
  have split : opened ((graph.successors vertex).map .enters ++ .leaves vertex :: rest) =
      opened ((graph.successors vertex).map .enters) ++ vertex :: opened rest :=
    List.filterMap_append
  rw [split, opened_enters, List.nil_append]

theorem mem_opened_walk {graph : Graph} {seen : List Nat} {visits : List Visit} {vertex : Nat}
    (left : vertex ∈ opened (graph.walk seen visits)) :
    vertex ∈ opened visits ∨ vertex ∉ seen := by
  fun_induction walk graph seen visits with
  | case1 => exact Or.inl left
  | case2 seen first rest ih =>
      rcases List.mem_cons.mp left with same | later
      · exact Or.inl (List.mem_cons.mpr (Or.inl same))
      · exact (ih later).imp_left (List.mem_cons_of_mem _)
  | case3 seen first rest known ih => exact ih left
  | case4 seen first rest fresh ih =>
      rcases ih left with before | after
      · rw [opened_entered] at before
        rcases List.mem_cons.mp before with same | inside
        · exact Or.inr (same ▸ fresh)
        · exact Or.inl inside
      · exact Or.inr fun member => after (List.mem_cons_of_mem _ member)

/-- The vertices still to be left have been entered, and each is left once. -/
structure Underway (seen : List Nat) (visits : List Visit) : Prop where
  entered : ∀ vertex ∈ opened visits, vertex ∈ seen
  nodup : (opened visits).Nodup

theorem underway_enters (vertices : List Nat) : Underway [] (vertices.map .enters) := by
  constructor <;> simp [opened_enters]

section

variable {graph : Graph} {seen : List Nat} {rest : List Visit} {first : Nat}

namespace Underway

theorem absent (underway : Underway seen (.leaves first :: rest)) : first ∉ opened rest :=
  (List.nodup_cons.mp underway.nodup).1

theorem leave (underway : Underway seen (.leaves first :: rest)) : Underway seen rest where
  entered vertex member := underway.entered vertex (List.mem_cons_of_mem _ member)
  nodup := (List.nodup_cons.mp underway.nodup).2

theorem skip (underway : Underway seen (.enters first :: rest)) : Underway seen rest :=
  ⟨underway.entered, underway.nodup⟩

theorem enter (underway : Underway seen (.enters first :: rest)) (fresh : first ∉ seen) :
    Underway (first :: seen)
      ((graph.successors first).map .enters ++ .leaves first :: rest) where
  entered vertex member := by
    rw [opened_entered] at member
    rcases List.mem_cons.mp member with same | inside
    · exact same ▸ List.mem_cons_self
    · exact List.mem_cons_of_mem _ (underway.entered vertex inside)
  nodup := by
    rw [opened_entered]
    exact List.nodup_cons.mpr ⟨fun member => fresh (underway.entered first member), underway.nodup⟩

end Underway

theorem nodup_opened_walk {visits : List Visit} (underway : Underway seen visits) :
    (opened (graph.walk seen visits)).Nodup := by
  fun_induction walk graph seen visits with
  | case1 => exact underway.nodup
  | case2 seen first rest ih =>
      refine List.nodup_cons.mpr ⟨fun again => ?_, ih underway.leave⟩
      rcases mem_opened_walk again with before | unseen
      · exact underway.absent before
      · exact unseen (underway.entered first List.mem_cons_self)
  | case3 seen first rest known ih => exact ih underway.skip
  | case4 seen first rest fresh ih => exact ih (underway.enter fresh)

theorem nodup_postorder (graph : Graph) (start : List Nat) : (graph.postorder start).Nodup := by
  rw [postorder_eq]
  exact nodup_opened_walk (underway_enters start)

theorem opened_walk_of_edgeless {graph : Graph} {seen vertices : List Nat}
    (once : vertices.Nodup) (fresh : ∀ vertex ∈ vertices, vertex ∉ seen)
    (edgeless : ∀ vertex ∈ vertices, graph.successors vertex = []) :
    opened (graph.walk seen (vertices.map .enters)) = vertices := by
  induction vertices generalizing seen with
  | nil =>
      rw [List.map_nil, walk]
      rfl
  | cons vertex rest ih =>
      obtain ⟨absent, once⟩ := List.nodup_cons.mp once
      rw [List.map_cons, walk, if_neg (fresh vertex List.mem_cons_self),
        edgeless vertex List.mem_cons_self, List.map_nil, List.nil_append, walk]
      have unseen (other : Nat) (member : other ∈ rest) : other ∉ vertex :: seen :=
        List.not_mem_cons_of_ne_of_not_mem (fun same => absent (same ▸ member))
          (fresh other (List.mem_cons_of_mem _ member))
      have others := ih once unseen fun other member => edgeless other (List.mem_cons_of_mem _ member)
      exact congrArg (vertex :: ·) others

theorem postorder_of_edgeless {graph : Graph} {start : List Nat} (once : start.Nodup)
    (edgeless : ∀ vertex ∈ start, graph.successors vertex = []) : graph.postorder start = start := by
  rw [postorder_eq]
  exact opened_walk_of_edgeless once (fun _ _ => List.not_mem_nil) edgeless

theorem Nested.entered {vertex : Nat} (nested : graph.Nested (.enters vertex :: rest)) :
    graph.Nested ((graph.successors vertex).map .enters ++ .leaves vertex :: rest) := by
  obtain ⟨outer, after⟩ := List.pairwise_cons.mp nested
  refine List.pairwise_append.mpr ⟨?_, ?_, ?_⟩
  · exact graph.nested_enters _
  · exact List.pairwise_cons.mpr ⟨outer, after⟩
  · intro inner member around further other same
    obtain ⟨next, edge, rfl⟩ := List.mem_map.mp member
    rcases List.mem_cons.mp further with here | later
    · cases here.symm.trans same
      exact Relation.ReflTransGen.single edge
    · exact (outer around later other same).tail edge

theorem Nested.leadsTo {vertex next : Nat} (nested : graph.Nested (.leaves vertex :: rest))
    (later : .leaves next ∈ Visit.leaves vertex :: rest) : graph.LeadsTo next vertex := by
  rcases List.mem_cons.mp later with here | around
  · cases here
    exact Relation.ReflTransGen.refl
  · exact (List.pairwise_cons.mp nested).1 _ around next rfl

/-- Before a vertex is left, what its edge leads to has been entered or is still to be. -/
def Due (next vertex : Nat) (seen : List Nat) (visits : List Visit) : Prop :=
  .leaves vertex ∈ visits ->
    next ∈ seen ∨ [Visit.enters next, .leaves vertex].Sublist visits

namespace Due

variable {next vertex : Nat}

theorem leave (due : Due next vertex seen (.leaves first :: rest)) : Due next vertex seen rest := by
  intro open_
  refine (due (List.mem_cons_of_mem _ open_)).imp_right fun ahead => ?_
  cases ahead with
  | cons _ further => exact further

theorem skip (due : Due next vertex seen (.enters first :: rest)) (known : first ∈ seen) :
    Due next vertex seen rest := by
  intro open_
  rcases due (List.mem_cons_of_mem _ open_) with before | ahead
  · exact Or.inl before
  · cases ahead with
    | cons _ further => exact Or.inr further
    | cons_cons _ further => exact Or.inl known

theorem enter (due : Due next vertex seen (.enters first :: rest))
    (edge : next ∈ graph.successors vertex) :
    Due next vertex (first :: seen)
      ((graph.successors first).map .enters ++ .leaves first :: rest) := by
  intro open_
  by_cases same : first = vertex
  next =>
    subst same
    have ahead : [Visit.enters next].Sublist ((graph.successors first).map .enters) :=
      List.singleton_sublist.mpr (List.mem_map.mpr ⟨next, edge, rfl⟩)
    exact Or.inr (ahead.append ((List.nil_sublist rest).cons_cons _))
  next =>
    have member : .leaves vertex ∈ rest := by
      simpa [Ne.symm same] using open_
    rcases due (List.mem_cons_of_mem _ member) with before | ahead
    · exact Or.inl (List.mem_cons_of_mem _ before)
    · cases ahead with
      | cons _ further => exact Or.inr ((further.cons _).trans (List.sublist_append_right _ _))
      | cons_cons _ further => exact Or.inl List.mem_cons_self

end Due

/-- The vertex has been left before the visits that are still to come. -/
def Gone (vertex : Nat) (seen : List Nat) (visits : List Visit) : Prop :=
  vertex ∈ seen ∧ .leaves vertex ∉ visits

namespace Gone

variable {vertex : Nat}

theorem of_leave (gone : Gone vertex seen rest) (apart : vertex ≠ first) :
    Gone vertex seen (.leaves first :: rest) := by
  refine ⟨gone.1, fun member => ?_⟩
  rcases List.mem_cons.mp member with here | further
  · cases here
    exact apart rfl
  · exact gone.2 further

theorem of_skip (gone : Gone vertex seen rest) : Gone vertex seen (.enters first :: rest) := by
  refine ⟨gone.1, fun member => ?_⟩
  rcases List.mem_cons.mp member with here | further
  · cases here
  · exact gone.2 further

theorem of_enter {inner : List Visit}
    (gone : Gone vertex (first :: seen) (inner ++ .leaves first :: rest)) :
    Gone vertex seen (.enters first :: rest) := by
  have apart : vertex ≠ first := by
    rintro rfl
    exact gone.2 (by simp)
  refine of_skip ⟨(List.mem_cons.mp gone.1).resolve_left apart, fun member => gone.2 ?_⟩
  exact List.mem_append_right _ (List.mem_cons_of_mem _ member)

end Gone

theorem leaves_after_successor {vertex next : Nat} (edge : next ∈ graph.successors vertex)
    (apart : ¬ graph.LeadsTo next vertex) {visits : List Visit} (nested : graph.Nested visits)
    (underway : Underway seen visits) (due : Due next vertex seen visits)
    (left : .leaves vertex ∈ graph.walk seen visits) :
    Gone next seen visits ∨
      [Visit.leaves next, .leaves vertex].Sublist (graph.walk seen visits) := by
  -- the four conditions are kept by every step, and what is gone was so before the step
  fun_induction walk graph seen visits with
  | case1 => cases left
  | case2 seen first rest ih =>
      by_cases same : first = vertex
      next =>
        subst same
        rcases due List.mem_cons_self with known | ahead
        · exact Or.inl ⟨known, fun open_ => apart (nested.leadsTo open_)⟩
        · have again : [Visit.enters next, .leaves first].Sublist rest := by
            cases ahead with
            | cons _ later => exact later
          exact absurd ((mem_opened rest first).mpr (again.subset (by simp))) underway.absent
      next =>
        have later : .leaves vertex ∈ graph.walk seen rest := by
          rcases List.mem_cons.mp left with here | later
          · cases here
            exact absurd rfl same
          · exact later
        rcases ih (List.pairwise_cons.mp nested).2 underway.leave due.leave later with gone | before
        · by_cases here : next = first
          next =>
            subst here
            exact Or.inr ((List.singleton_sublist.mpr later).cons_cons _)
          next => exact Or.inl (gone.of_leave here)
        · exact Or.inr (before.cons _)
  | case3 seen first rest known ih =>
      exact (ih (List.pairwise_cons.mp nested).2 underway.skip (due.skip known) left).imp_left
        Gone.of_skip
  | case4 seen first rest fresh ih =>
      have later : .leaves vertex ∈ graph.walk (first :: seen)
          ((graph.successors first).map .enters ++ .leaves first :: rest) := by
        rcases List.mem_cons.mp left with here | later
        · cases here
        · exact later
      rcases ih nested.entered (underway.enter fresh) (due.enter edge) later with gone | before
      · exact Or.inl gone.of_enter
      · exact Or.inr (before.cons _)

end

/-- A vertex comes after what an edge leads to, unless that leads back to it. -/
theorem postorder_after_successor {graph : Graph} {start : List Nat} {vertex next : Nat}
    (member : vertex ∈ graph.postorder start) (edge : next ∈ graph.successors vertex)
    (apart : ¬ graph.LeadsTo next vertex) :
    [next, vertex].Sublist (graph.postorder start) := by
  rw [postorder_eq] at member ⊢
  have found := leaves_after_successor edge apart (graph.nested_enters start)
    (underway_enters start) (fun open_ => by simp at open_) ((mem_opened _ vertex).mp member)
  rcases found with ⟨known, -⟩ | before
  · cases known
  · exact before.filterMap Visit.left?

end XmlSchema.Graph

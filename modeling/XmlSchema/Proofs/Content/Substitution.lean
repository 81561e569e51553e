import Mathlib.Data.List.Forall2
import Mathlib.Logic.Relation
import XmlSchema.Content

set_option autoImplicit false

namespace XmlSchema

namespace Model

section

variable {model : Model}

def Substitutes (model : Model) (id other : NodeId) : Prop :=
  other ∈ (model.node id).substitutes

/-- Depth-first preorder: `found` lists what is first reached from `ids`, and what is in `seen` is
passed over. -/
inductive Explores (model : Model) : List NodeId -> List NodeId -> List NodeId -> Prop where
  | nil {seen} : Explores model seen [] []
  | known {seen id ids found} (member : id ∈ seen) (rest : Explores model seen ids found) :
      Explores model seen (id :: ids) found
  | fresh {seen id ids below after} (absent : id ∉ seen)
      (inner : Explores model (id :: seen) (model.node id).substitutes below)
      (rest : Explores model (below.reverse ++ id :: seen) ids after) :
      Explores model seen (id :: ids) (id :: below ++ after)

namespace Explores

theorem unique {seen ids found other : List NodeId} (explores : model.Explores seen ids found)
    (again : model.Explores seen ids other) : found = other := by
  induction explores generalizing other with
  | nil => cases again; rfl
  | known member _ ih =>
      cases again with
      | known _ rest => exact ih rest
      | fresh absent _ _ => exact absurd member absent
  | fresh absent _ _ inside outside =>
      cases again with
      | known member _ => exact absurd member absent
      | fresh _ inner rest =>
          obtain rfl := inside inner
          rw [outside rest]

theorem apart {seen ids found : List NodeId} (explores : model.Explores seen ids found) :
    (∀ id ∈ found, id ∉ seen) ∧ found.Nodup := by
  induction explores with
  | nil => simp
  | known _ _ ih => exact ih
  | @fresh seen id ids below after absent _ _ inside outside =>
      obtain ⟨new, distinct⟩ := inside
      obtain ⟨later, others⟩ := outside
      simp only [List.mem_append, List.mem_reverse, List.mem_cons, not_or] at new later
      constructor
      · intro other member
        simp only [List.cons_append, List.mem_cons, List.mem_append] at member
        rcases member with rfl | inner | outer
        · exact absent
        · exact (new other inner).2
        · exact (later other outer).2.2
      · simp only [List.cons_append, List.nodup_cons, List.mem_append, not_or]
        refine ⟨⟨fun inner => (new id inner).1 rfl, fun outer => (later id outer).2.1 rfl⟩, ?_⟩
        refine List.nodup_append.mpr ⟨distinct, others, fun first inner second outer same => ?_⟩
        exact (later second outer).1 (same ▸ inner)

theorem reached {seen ids found : List NodeId} (explores : model.Explores seen ids found) :
    ∀ id ∈ found, ∃ start ∈ ids, Relation.ReflTransGen model.Substitutes start id := by
  induction explores with
  | nil => simp
  | known _ _ ih =>
      intro id member
      obtain ⟨start, among, leads⟩ := ih id member
      exact ⟨start, List.mem_cons_of_mem _ among, leads⟩
  | @fresh seen first ids below after _ _ _ inside outside =>
      intro id member
      simp only [List.cons_append, List.mem_cons, List.mem_append] at member
      rcases member with rfl | inner | outer
      · exact ⟨id, by simp, .refl⟩
      · obtain ⟨next, edge, leads⟩ := inside id inner
        exact ⟨first, by simp, leads.head edge⟩
      · obtain ⟨start, among, leads⟩ := outside id outer
        exact ⟨start, List.mem_cons_of_mem _ among, leads⟩

theorem closed {seen ids found : List NodeId} (explores : model.Explores seen ids found) :
    (∀ id ∈ ids, id ∈ found ∨ id ∈ seen) ∧
      ∀ id ∈ found, ∀ next, model.Substitutes id next -> next ∈ found ∨ next ∈ seen := by
  induction explores with
  | nil => simp
  | known member _ ih =>
      refine ⟨fun id among => ?_, ih.2⟩
      rcases List.mem_cons.mp among with rfl | later
      · exact .inr member
      · exact ih.1 id later
  | @fresh seen first ids below after _ _ _ inside outside =>
      -- what comes after was explored with `first` and all below it in sight
      have widen {id : NodeId} : id ∈ after ∨ id ∈ below.reverse ++ first :: seen ->
          id ∈ first :: below ++ after ∨ id ∈ seen := by
        grind
      have sink {id : NodeId} : id ∈ below ∨ id ∈ first :: seen ->
          id ∈ first :: below ++ after ∨ id ∈ seen := by
        grind
      constructor
      · intro id among
        rcases List.mem_cons.mp among with rfl | later
        · simp
        · exact widen (outside.1 id later)
      · intro id member next edge
        simp only [List.cons_append, List.mem_cons, List.mem_append] at member
        rcases member with rfl | inner | outer
        · exact sink (inside.1 next edge)
        · exact sink (inside.2 id inner next edge)
        · exact widen (outside.2 id outer next edge)

theorem mem_iff {element id : NodeId} {found : List NodeId}
    (explores : model.Explores [] [element] found) :
    id ∈ found ↔ Relation.ReflTransGen model.Substitutes element id := by
  constructor
  · intro member
    obtain ⟨start, among, leads⟩ := explores.reached id member
    simpa [List.mem_singleton.mp among] using leads
  · intro leads
    obtain ⟨begun, closed⟩ := explores.closed
    induction leads with
    | refl => simpa using begun element (by simp)
    | tail _ edge ih => simpa using closed _ ih _ edge

end Explores

def unseen (model : Model) (seen : List NodeId) : Nat :=
  Graph.unseen model.nodes.size (seen.map NodeId.index)

theorem index_mem_map {id : NodeId} {ids : List NodeId} :
    id.index ∈ ids.map NodeId.index ↔ id ∈ ids := by
  constructor
  · intro member
    obtain ⟨other, among, same⟩ := List.mem_map.mp member
    cases id
    cases other
    cases same
    exact among
  · exact List.mem_map_of_mem

theorem substitutes_outside {id : NodeId} (outside : ¬ id.index < model.nodes.size) :
    (model.node id).substitutes = [] := by
  unfold node
  rw [Array.getElem?_eq_none (Nat.not_lt.mp outside)]
  rfl

theorem unseen_cons {seen : List NodeId} {id : NodeId} (absent : id ∉ seen) :
    model.unseen (id :: seen) < model.unseen seen ∨
      model.unseen (id :: seen) ≤ model.unseen seen ∧ (model.node id).substitutes = [] := by
  by_cases inside : id.index < model.nodes.size
  next =>
    exact .inl (Graph.unseen_cons_lt inside fun member => absent (index_mem_map.mp member))
  next =>
    refine .inr ⟨?_, substitutes_outside inside⟩
    exact Graph.length_filter_mono (by simp) _

theorem unseen_append (first seen : List NodeId) :
    model.unseen (first ++ seen) ≤ model.unseen seen :=
  Graph.length_filter_mono (by simp) _

theorem explores_total (model : Model) (seen ids : List NodeId) :
    ∃ found, model.Explores seen ids found := by
  match ids with
  | [] => exact ⟨[], .nil⟩
  | id :: ids =>
      by_cases member : id ∈ seen
      next =>
        obtain ⟨found, rest⟩ := explores_total model seen ids
        exact ⟨found, .known member rest⟩
      next =>
        have lower := @unseen_cons model seen id member
        obtain ⟨below, inner⟩ := explores_total model (id :: seen) (model.node id).substitutes
        have fewer := @unseen_append model below.reverse (id :: seen)
        obtain ⟨after, rest⟩ := explores_total model (below.reverse ++ id :: seen) ids
        exact ⟨_, .fresh member inner rest⟩
-- below a new id there is less to see, unless nothing may stand in for it; else the list is shorter
termination_by (model.unseen seen, ids.length)
decreasing_by
  · exact .right _ (by simp)
  · rw [Prod.lex_def]
    rcases lower with less | ⟨same, none⟩
    · exact .inl less
    · simp only [none, List.length_nil, List.length_cons]
      omega
  · rw [Prod.lex_def]
    simp only [List.length_cons]
    omega

structure Search where
  stack : List NodeId
  seen : List NodeId
  found : List NodeId

/-- One turn of the search: what is seen already is dropped, and anything else is replaced by what may
stand in for it, the first of it to be looked at next. -/
inductive Seeks (model : Model) : Search -> Search -> Prop where
  | drop {below id seen found} (member : id ∈ seen) :
      Seeks model ⟨below ++ [id], seen, found⟩ ⟨below, seen, found⟩
  | pass {below id seen found} (absent : id ∉ seen) (abstract : (model.node id).isAbstract = true) :
      Seeks model ⟨below ++ [id], seen, found⟩
        ⟨below ++ (model.node id).substitutes.reverse, id :: seen, found⟩
  | take {below id seen found} (absent : id ∉ seen) (concrete : (model.node id).isAbstract = false) :
      Seeks model ⟨below ++ [id], seen, found⟩
        ⟨below ++ (model.node id).substitutes.reverse, id :: seen, found ++ [id]⟩

def concrete (model : Model) (ids : List NodeId) : List NodeId :=
  ids.filter fun id => !(model.node id).isAbstract

theorem seeks_iff {below seen found : List NodeId} {id : NodeId} {next : Search} :
    model.Seeks ⟨below ++ [id], seen, found⟩ next ↔
      next = if id ∈ seen then ⟨below, seen, found⟩
        else ⟨below ++ (model.node id).substitutes.reverse, id :: seen, found ++ model.concrete [id]⟩ := by
  constructor
  · intro step
    generalize same : (⟨below ++ [id], seen, found⟩ : Search) = search at step
    cases step with
    | drop member =>
        obtain ⟨stack, rfl, rfl⟩ := Search.mk.inj same
        obtain ⟨rfl, top⟩ := List.append_inj' stack rfl
        obtain rfl := List.singleton_inj.mp top
        simp [member]
    | pass absent quality | take absent quality =>
        obtain ⟨stack, rfl, rfl⟩ := Search.mk.inj same
        obtain ⟨rfl, top⟩ := List.append_inj' stack rfl
        obtain rfl := List.singleton_inj.mp top
        simp [absent, concrete, quality]
  · rintro rfl
    by_cases member : id ∈ seen
    · simpa [member] using Seeks.drop member
    · cases quality : (model.node id).isAbstract with
      | true => simpa [member, concrete, quality] using Seeks.pass member quality
      | false => simpa [member, concrete, quality] using Seeks.take member quality

theorem seeks_none_iff {search : Search} :
    (∀ next, ¬ model.Seeks search next) ↔ search.stack = [] := by
  obtain ⟨stack, seen, found⟩ := search
  rcases List.eq_nil_or_concat stack with rfl | ⟨below, id, rfl⟩
  · simp only [iff_true]
    intro next step
    generalize same : (⟨[], seen, found⟩ : Search) = search at step
    cases step <;> simp at same
  · simp [seeks_iff]

theorem seeks_unique : Relator.RightUnique model.Seeks := by
  intro search next other step again
  obtain ⟨stack, seen, found⟩ := search
  rcases List.eq_nil_or_concat stack with rfl | ⟨below, id, rfl⟩
  · exact absurd step (seeks_none_iff.mpr rfl next)
  · rw [List.concat_eq_append, seeks_iff] at step again
    exact step.trans again.symm

theorem Seeks.lowers {search next : Search} (step : model.Seeks search next) :
    Prod.Lex (· < ·) (· < ·) (model.unseen next.seen, next.stack.length)
      (model.unseen search.seen, search.stack.length) := by
  rw [Prod.lex_def]
  cases step with
  | drop member => simp
  | pass absent _ | take absent _ =>
      rcases unseen_cons absent with less | ⟨same, none⟩
      · exact .inl less
      · simp [none]
        omega

theorem wellFounded_seeks (model : Model) : WellFounded fun next search => model.Seeks search next :=
  Subrelation.wf (fun step => step.lowers)
    (InvImage.wf (fun search : Search => (model.unseen search.seen, search.stack.length))
      (Prod.lex Nat.lt_wfRel Nat.lt_wfRel).wf)

theorem concrete_append (first second : List NodeId) :
    model.concrete (first ++ second) = model.concrete first ++ model.concrete second :=
  List.filter_append _ _

/-- What lies on top of the stack is sought in the order in which it is explored. -/
theorem Explores.sought {seen ids order : List NodeId} (explores : model.Explores seen ids order)
    (below found : List NodeId) :
    Relation.ReflTransGen model.Seeks ⟨below ++ ids.reverse, seen, found⟩
      ⟨below, order.reverse ++ seen, found ++ model.concrete order⟩ := by
  -- the stack is taken from its end, so what is explored first lies on it last
  induction explores generalizing below found with
  | nil => simpa [concrete] using .refl
  | @known seen id ids order member _ ih =>
      rw [List.reverse_cons, ← List.append_assoc]
      exact (ih below found).head (.drop member)
  | @fresh seen id ids inner outer absent _ _ inside outside =>
      rw [List.reverse_cons, ← List.append_assoc]
      have turn := (@seeks_iff model (below ++ ids.reverse) seen found id _).mpr rfl
      rw [if_neg absent] at turn
      have run := ((inside _ _).trans (outside _ _)).head turn
      have listed : model.concrete (id :: (inner ++ outer)) =
          model.concrete [id] ++ (model.concrete inner ++ model.concrete outer) := by
        rw [← concrete_append, ← concrete_append]
        rfl
      simpa [listed] using run

def entered (visits : List Graph.Visit) : List NodeId :=
  visits.filterMap fun
    | .enters vertex => some ⟨vertex⟩
    | .leaves _ => none

theorem successors_substitution (model : Model) (id : NodeId) :
    model.substitution.successors id.index = (model.node id).substitutes.map NodeId.index := by
  unfold Graph.successors
  split
  next => rfl
  next outside => rw [substitutes_outside outside, List.map_nil]

theorem Explores.entered_walk {seen ids order : List NodeId}
    (explores : model.Explores seen ids order) (rest : List Graph.Visit) :
    entered (model.substitution.walk (seen.map NodeId.index)
        (ids.map (fun id => .enters id.index) ++ rest)) =
      order ++ entered (model.substitution.walk ((order.reverse ++ seen).map NodeId.index) rest) := by
  induction explores generalizing rest with
  | nil => rfl
  | known member _ ih =>
      rw [List.map_cons, List.cons_append, Graph.walk, if_pos (index_mem_map.mpr member)]
      exact ih rest
  | @fresh seen id ids inner outer absent _ _ inside outside =>
      rw [List.map_cons, List.cons_append, Graph.walk,
        if_neg fun member => absent (index_mem_map.mp member), successors_substitution, List.map_map]
      -- between what is below and what comes after, the walk leaves `id`, which enters nothing
      have below := inside (.leaves id.index :: (ids.map (fun id => .enters id.index) ++ rest))
      rw [Graph.walk] at below
      have after := outside rest
      simp only [entered, List.filterMap_cons, List.map_cons, Function.comp_def] at below after ⊢
      rw [below, after]
      simp

theorem Explores.alternatives {element : NodeId} {order : List NodeId}
    (explores : model.Explores [] [element] order) :
    model.alternatives element = model.concrete order := by
  have walked := explores.entered_walk []
  have entries : entered (model.substitution.walk [] [.enters element.index]) =
      (model.substitution.preorder [element.index]).map NodeId.mk := by
    unfold entered Graph.preorder
    rw [List.map_filterMap]
    congr 1
    funext visit
    cases visit <;> rfl
  unfold Model.alternatives concrete
  rw [← entries]
  simpa [entered, Graph.walk] using congrArg _ walked

theorem mem_alternatives {head other : NodeId} :
    other ∈ model.alternatives head ↔
      Relation.ReflTransGen model.Substitutes head other ∧
        (model.node other).isAbstract = false := by
  obtain ⟨found, explores⟩ := explores_total model [] [head]
  rw [explores.alternatives, concrete, List.mem_filter, explores.mem_iff]
  simp

theorem sought_alternatives {element : NodeId} {stop : Search}
    (run : Relation.ReflTransGen model.Seeks ⟨[element], [], []⟩ stop)
    (ended : ∀ next, ¬ model.Seeks stop next) : stop.found = model.alternatives element := by
  obtain ⟨order, explores⟩ := explores_total model [] [element]
  have whole := explores.sought [] []
  rw [explores.alternatives]
  -- a turn is the only one, so two runs from one element are parts of one another
  rcases Relation.ReflTransGen.total_of_right_unique seeks_unique run whole with after | before
  · rcases after.cases_head with same | ⟨next, step, -⟩
    · simp [same]
    · exact absurd step (ended next)
  · rcases before.cases_head with same | ⟨next, step, -⟩
    · simp [← same]
    · exact absurd step (seeks_none_iff.mpr rfl next)

structure Block (model : Model) (entry : QName × Definition) (members : List Member) : Prop where
  preorder : ∃ order, (∀ other, model.Explores [] [entry.2.target] other ↔ other = order) ∧
    members.map Member.node = order.filter fun id => !(model.node id).isAbstract
  reachable : ∀ id, id ∈ members.map Member.node ↔
    Relation.ReflTransGen model.Substitutes entry.2.target id ∧ (model.node id).isAbstract = false
  once : (members.map Member.node).Nodup
  alone : members.length = 1 -> ∀ member ∈ members, member.occurs = entry.2.occurs
  several : 1 < members.length -> ∀ member ∈ members, member.occurs = ⟨0, entry.2.occurs.most⟩
  inherited : ∀ member ∈ members, member.inherited = entry.2.inherited
  named : ∀ member ∈ members, member.name =
    if member.node = entry.2.target then entry.1 else (model.node member.node).name.getD entry.1

theorem block_expand (model : Model) (entry : QName × Definition) :
    model.Block entry (model.expand entry) := by
  obtain ⟨order, explores⟩ := explores_total model [] [entry.2.target]
  have nodes : (model.expand entry).map Member.node = model.concrete order := by
    simp [expand, Function.comp_def, explores.alternatives]
  have count : (model.expand entry).length = (model.alternatives entry.2.target).length := by
    simp [expand]
  have made {member : Member} (among : member ∈ model.expand entry) :
      member.occurs = (if 1 < (model.expand entry).length then entry.2.occurs.optionalized
          else entry.2.occurs) ∧
        member.inherited = entry.2.inherited ∧
        member.name = if member.node = entry.2.target then entry.1
          else (model.node member.node).name.getD entry.1 := by
    rw [count]
    obtain ⟨id, -, rfl⟩ := List.mem_map.mp among
    exact ⟨rfl, rfl, rfl⟩
  constructor
  case preorder =>
    exact ⟨order, fun other => ⟨fun again => again.unique explores, (· ▸ explores)⟩, nodes⟩
  case reachable =>
    intro id
    rw [nodes, concrete, List.mem_filter, explores.mem_iff]
    simp
  case once =>
    rw [nodes]
    exact explores.apart.2.filter _
  case alone =>
    intro one member among
    simp [(made among).1, one]
  case several =>
    intro more member among
    simp [(made among).1, more, Occurs.optionalized]
  case inherited => exact fun member among => (made among).2.1
  case named => exact fun member among => (made among).2.2

/-- The elements of a body are one block for each entry of its table, in the order of the table. The
search that fills a block ends, and always with the same elements. -/
theorem members_elements (model : Model) :
    (∀ id, ∃ blocks,
      List.Forall₂ model.Block (model.scopes.table (model.node id).scope .elements).entries blocks ∧
        model.members id .elements = blocks.flatten) ∧
    (WellFounded fun next search => model.Seeks search next) ∧
    (∀ search, (∀ next, ¬ model.Seeks search next) ↔ search.stack = []) ∧
    ∀ element stop, Relation.ReflTransGen model.Seeks ⟨[element], [], []⟩ stop ->
      stop.stack = [] -> stop.found = model.alternatives element := by
  refine ⟨fun id => ?_, wellFounded_seeks model, fun _ => seeks_none_iff, ?_⟩
  · refine ⟨_, ?_, List.flatMap_def ..⟩
    rw [List.forall₂_map_right_iff, List.forall₂_same]
    exact fun entry _ => block_expand model entry
  · exact fun element stop run ended => sought_alternatives run (seeks_none_iff.mpr ended)

end

end Model

end XmlSchema

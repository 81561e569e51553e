import Mathlib.Data.List.Perm.Basic
import XmlSchema.Proofs.Resolution.Circles

set_option autoImplicit false

namespace XmlSchema

namespace Model

/-- What is wrong with a name on a tag, given the model in which it is looked up and whether the
body that the tag asks for turns out to depend on itself. -/
def fault (model : Model) (id : NodeId) (closes : Bool) (mention : Mention) : Option Unresolved :=
  match model.readName id mention.written with
  | .error _ =>
      some (.missing (model.node id).kind (.unqualified (Text.trim mention.written))
        (model.position id))
  | .ok name =>
      match model.find id mention.symbols name with
      | none => some (.missing (model.node id).kind name (model.position id))
      | some _ =>
          if closes && mention.role.copies then
            some (.circular (model.node id).kind name (model.position id))
          else none

theorem toList_fault (model : Model) (id : NodeId) (closes : Bool) (mention : Mention) :
    (model.fault id closes mention).toList =
      model.absence id mention ++ if closes then model.circularity id mention else [] := by
  unfold fault absence circularity
  cases model.readName id mention.written with
  | error fault => cases closes <;> rfl
  | ok name =>
      dsimp only
      cases model.find id mention.symbols name with
      | none => cases closes <;> cases mention.role.copies <;> rfl
      | some target => cases closes <;> cases mention.role.copies <;> rfl

end Model

namespace Pass

section

variable {start : Model} {pass next : Pass}

theorem Reaches.waits (reaches : Reaches pass next) {task : TaskId}
    (waits : (next.model.queue.get task).status = .waiting) :
    (pass.model.queue.get task).status = .waiting := by
  induction reaches with
  | refl => exact waits
  | tail _ step ih => exact ih ((step.status task).2 waits)

theorem not_waits_enter {model : Model} {task : TaskId} {rest : List TaskId} {calls : List Call}
    (waits : (model.queue.get task).status = .waiting) :
    ((Pass.enter model task rest calls).model.queue.get task).status = .running := by
  have queue : (Pass.enter model task rest calls).model.queue =
      (model.mark .running task).queue := Model.queue_prepare _ _
  rw [queue]
  exact Queue.status_mark_self _ _ (Model.within_of_waits waits)

theorem Reaches.resolved (reaches : Reaches pass next) (poised : start.Poised)
    (scheduled : Scheduled start pass) {id : NodeId}
    (resolved : (pass.model.node id).isResolved = true) :
    (next.model.node id).isResolved = true := by
  induction reaches with
  | refl => exact resolved
  | tail before step ih =>
      have along := Reaches.scheduled before poised scheduled
      exact step.resolved poised.gathered along ih

theorem Finishes.once {call : Call} (finishes : Finishes pass next call) (poised : start.Poised)
    (scheduled : Scheduled start pass) {later : Pass} (reaches : Reaches next later) {open_ : Call}
    (member : open_ ∈ later.calls) : open_.node ≠ call.node := by
  intro same
  have after := finishes.1.scheduled poised scheduled
  have resolved := reaches.resolved poised after (finishes.resolved poised.gathered scheduled)
  have along := reaches.scheduled poised after
  cases (along.unresolved_call poised.gathered member).symm.trans (same ▸ resolved)

end

end Pass

namespace Compilation

section

variable {read : Compilation} {id : NodeId}

theorem Starts.unique (sound : read.Sound) {first second : Model} (one : read.Starts id first)
    (two : read.Starts id second) : first = second := by
  obtain ⟨task, rest, calls, there, waits, same⟩ := one
  obtain ⟨other, more, open_, further, waitsToo, rfl⟩ := two
  have scheduled := there.scheduled sound.poised sound.scheduled
  have along := further.scheduled sound.poised sound.scheduled
  have inside := Model.within_of_waits waits
  have insideToo := Model.within_of_waits waitsToo
  rw [scheduled.alike.tasks] at inside
  rw [along.alike.tasks] at insideToo
  rw [scheduled.alike.task, along.alike.task] at same
  obtain rfl := sound.gathered.queued.distinct task other inside insideToo same
  -- once the task is entered it does not wait, so neither point is before the other
  have ordered {one two : Model} {rest more : List TaskId} {calls open_ : List Call}
      (waits : (one.queue.get task).status = .waiting)
      (later : (two.queue.get task).status = .waiting)
      (reaches : Pass.Reaches ⟨one, task :: rest, calls⟩ ⟨two, task :: more, open_⟩) :
      one = two := by
    rcases Relation.ReflTransGen.cases_head reaches with same | ⟨next, step, after⟩
    · cases same
      rfl
    · obtain rfl := step.unique (.enter one task rest calls waits)
      cases (Pass.not_waits_enter waits).symm.trans (Pass.Reaches.waits after later)
  have unique : Relator.RightUnique Pass.Step := fun _ _ _ => Pass.Step.unique
  rcases Relation.ReflTransGen.total_of_right_unique unique there further with reaches | reaches
  · exact ordered waits waitsToo reaches
  · exact (ordered waitsToo waits reaches).symm

theorem not_closes_of_leave (sound : read.Sound) {model : Model} {call : Call}
    {outer : List Call} (there : Pass.Reaches read.outset ⟨model, [], call :: outer⟩) :
    ¬ read.ClosesCycle call.node := by
  rintro ⟨other, task, rest, open_, around, further, same, runs⟩
  -- whichever of the two steps comes first, it ends the work on the tag
  have unique : Relator.RightUnique Pass.Step := fun _ _ _ => Pass.Step.unique
  rcases Relation.ReflTransGen.total_of_right_unique unique there further with reaches | reaches
  · have scheduled := there.scheduled sound.poised sound.scheduled
    have step := Pass.Step.leave model call outer
    have finishes : Pass.Finishes _ _ call := ⟨step, rfl⟩
    rcases Relation.ReflTransGen.cases_head reaches with equal | ⟨next, first, after⟩
    · cases equal
    · obtain rfl := first.unique step
      exact finishes.once sound.poised scheduled after List.mem_cons_self same
  · have scheduled := further.scheduled sound.poised sound.scheduled
    have step := Pass.Step.circle other task rest open_ around runs
    have finishes : Pass.Finishes _ _ open_ := ⟨step, rfl⟩
    rcases Relation.ReflTransGen.cases_head reaches with equal | ⟨next, first, after⟩
    · cases equal
    · obtain rfl := first.unique step
      exact finishes.once sound.poised scheduled after List.mem_cons_self same.symm

end

def absences (read : Compilation) (seen : NodeId -> Model) (id : NodeId) : List Unresolved :=
  (read.model.node id).mentions.flatMap ((seen id).absence id)

def circularities (read : Compilation) (seen : NodeId -> Model) (closes : NodeId -> Bool)
    (id : NodeId) : List Unresolved :=
  if closes id then (read.model.node id).mentions.flatMap ((seen id).circularity id) else []

/-- So far everything has been noted that is wrong with the tags that are worked on, and nothing
else: what leads nowhere for those that are done or open, and what is circular for those that are
done. -/
structure Booked (read : Compilation) (seen : NodeId -> Model) (closes : NodeId -> Bool)
    (pass : Pass) : Prop where
  sources : pass.model.sources = read.model.sources
  circles : ∀ call ∈ pass.calls, read.model.circles call.node call.remainder =
    (read.model.node call.node).mentions.flatMap ((seen call.node).circularity call.node)
  entries : pass.model.unresolved.toList.Perm
    ((pass.model.order.toList ++ pass.calls.map Call.node).flatMap (read.absences seen) ++
      pass.model.order.toList.flatMap (read.circularities seen closes))

section

variable {read : Compilation} {seen : NodeId -> Model} {closes : NodeId -> Bool}

theorem Booked.enter {model : Model} {task : TaskId} {rest : List TaskId} {calls : List Call}
    (sound : read.Sound) (untried : read.model.Untried)
    (scheduled : Pass.Scheduled read.model ⟨model, task :: rest, calls⟩)
    (waits : (model.queue.get task).status = .waiting)
    (sees : seen (model.queue.get task).node = model)
    (booked : Booked read seen closes ⟨model, task :: rest, calls⟩) :
    Booked read seen closes (Pass.enter model task rest calls) := by
  have follows := scheduled.follows_enter untried
  have marked := Model.Follows.mark (model.queue.get task).node model .running task
  have before := scheduled.alike
  have sources : (model.mark .running task).sources = read.model.sources := booked.sources
  have order : (Pass.enter model task rest calls).model.order = model.order :=
    (scheduled.prepared sound.gathered waits).order
  constructor
  · exact follows.sources.trans booked.sources
  · intro call member
    rcases List.mem_cons.mp member with rfl | older
    · have filed : (model.mark .running task).Filed := scheduled.filed
      have left : (model.mark .running task).circles (model.queue.get task).node
          ((model.mark .running task).prepare (model.queue.get task).node).2 = _ :=
        (Model.remainder_prepare filed (model.queue.get task).node).2
      have same : (model.mark .running task).circularity (model.queue.get task).node =
          model.circularity (model.queue.get task).node := funext marked.circularity
      dsimp only
      rw [sees, ← (before.trans marked.alike).circles sources, left, same,
        (before.trans marked.alike).mentions]
    · exact booked.circles call older
  · have noted : (model.node (model.queue.get task).node).mentions.flatMap
        (model.absence (model.queue.get task).node) =
          read.absences seen (model.queue.get task).node := by
      rw [absences, sees, before.mentions]
    have calls_ : (Pass.enter model task rest calls).calls.map Call.node =
        (model.queue.get task).node :: calls.map Call.node := rfl
    rw [follows.unresolved, noted, order, calls_]
    -- the tag is counted once more, as an open one
    refine List.perm_iff_count.mpr fun entry => ?_
    have earlier := booked.entries.count_eq entry
    simp only [List.flatMap_append, List.flatMap_cons, List.count_append] at earlier ⊢
    omega

theorem Booked.leave {model : Model} {todo : List TaskId} {call : Call} {outer : List Call}
    {complete : Bool} (sound : read.Sound)
    (scheduled : Pass.Scheduled read.model ⟨model, todo, call :: outer⟩)
    (ends : closes call.node = !complete)
    (booked : Booked read seen closes ⟨model, todo, call :: outer⟩) :
    Booked read seen closes (Pass.leave model call outer complete) := by
  obtain ⟨sources, unresolved⟩ := Pass.ledger_leave model call outer complete
  have order : (Pass.leave model call outer complete).model.order.toList =
      model.order.toList ++ [call.node] := by
    rw [← (scheduled.finished sound.gathered complete).order]
    exact Array.toList_push ..
  constructor
  · exact sources.trans booked.sources
  · exact fun other member => booked.circles other (List.mem_cons_of_mem _ member)
  · have noted : (if complete then [] else model.circles call.node call.remainder) =
        read.circularities seen closes call.node := by
      rw [circularities, ends, scheduled.alike.circles booked.sources,
        booked.circles call List.mem_cons_self]
      cases complete <;> rfl
    have calls_ : (Pass.leave model call outer complete).calls.map Call.node =
        outer.map Call.node := rfl
    rw [unresolved, noted, order, calls_]
    -- the tag is counted among those that are done, and no longer as an open one
    refine List.perm_iff_count.mpr fun entry => ?_
    have earlier := booked.entries.count_eq entry
    simp only [List.flatMap_append, List.flatMap_cons, List.flatMap_nil, List.map_cons,
      List.count_append, List.count_nil] at earlier ⊢
    omega

theorem Booked.reaches (sound : read.Sound) (untried : read.model.Untried)
    (sees : ∀ id model, read.Starts id model -> seen id = model)
    (closing : ∀ id, closes id = true ↔ read.ClosesCycle id) {pass : Pass}
    (there : Pass.Reaches read.outset pass) : Booked read seen closes pass := by
  induction there with
  | refl =>
      have order : read.outset.model.order = #[] := sound.order
      have unresolved : read.outset.model.unresolved = #[] := untried.unresolved
      have calls : read.outset.calls = [] := rfl
      refine ⟨rfl, fun _ none_ => (by cases none_), ?_⟩
      simp [order, unresolved, calls]
  | @tail pass next before step ih =>
      have scheduled := Pass.Reaches.scheduled before sound.poised sound.scheduled
      cases step with
      | enter model task rest calls waits =>
          exact ih.enter sound untried scheduled waits
            (sees _ model ⟨task, rest, calls, before, waits, rfl⟩)
      | skip => exact ⟨ih.sources, ih.circles, ih.entries⟩
      | ignore => exact ⟨ih.sources, ih.circles, ih.entries⟩
      | leave model call outer =>
          refine ih.leave sound scheduled ?_
          rw [Bool.not_true, Bool.eq_false_iff, ne_eq, closing]
          exact not_closes_of_leave sound before
      | circle model task rest call outer runs =>
          refine ih.leave sound scheduled ?_
          rw [Bool.not_false, closing]
          exact ⟨model, task, rest, call, outer, before, rfl, runs⟩

theorem noted_of_mentions (read : Compilation) (seen : NodeId -> Model)
    (closes : NodeId -> Bool) (id : NodeId) :
    (read.absences seen id ++ read.circularities seen closes id).Perm
      ((read.model.node id).mentions.filterMap ((seen id).fault id (closes id))) := by
  rw [List.filterMap_eq_flatMap_toList]
  simp only [Model.toList_fault]
  refine List.Perm.trans ?_ (List.flatMap_append_perm ..)
  refine List.Perm.append_left _ (List.Perm.of_eq ?_)
  rw [circularities]
  split
  next => rfl
  next => simp

/-- In the end, what has been noted is what is wrong with the names on the tags that were worked
on. -/
theorem Booked.ended {model : Model} (booked : Booked read seen closes ⟨model, [], []⟩) :
    model.unresolved.toList.Perm
      (model.order.toList.flatMap fun id =>
        (read.model.node id).mentions.filterMap ((seen id).fault id (closes id))) := by
  have entries := booked.entries
  simp only [List.map_nil, List.append_nil] at entries
  refine (entries.trans (List.flatMap_append_perm ..)).trans ?_
  exact List.Perm.flatMap_left _ fun id _ => noted_of_mentions read seen closes id

end

end Compilation

end XmlSchema

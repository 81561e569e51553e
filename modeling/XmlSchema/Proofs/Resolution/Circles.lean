import XmlSchema.Proofs.Content.Derivation
import XmlSchema.Proofs.Reading.Attributes
import XmlSchema.Proofs.Resolution.Mentions

set_option autoImplicit false

namespace XmlSchema

namespace Compilation

def Starts (read : Compilation) (id : NodeId) (model : Model) : Prop :=
  ∃ task rest calls, Pass.Reaches read.outset ⟨model, task :: rest, calls⟩ ∧
    (model.queue.get task).status = .waiting ∧ (model.queue.get task).node = id

/-- A tag asks for the body of another: the group that it refers to, or the base that it derives
from. The name is looked up when work on the tag starts. -/
def Copies (read : Compilation) (id target : NodeId) : Prop :=
  ∃ model, read.Starts id model ∧ ∃ mention ∈ (model.node id).mentions,
    mention.role.copies = true ∧ model.leadsTo id mention = some target

/-- A tag asks for a body that another one, of a document that was read to its end, feeds. -/
def DependsOn (read : Compilation) (id feeder : NodeId) : Prop :=
  ∃ target, read.Copies id target ∧ (read.model.node feeder).kind.isDeferred = true ∧
    read.IsFinished feeder ∧ read.model.Feeds feeder target

/-- Work on a tag comes upon a running task among those that feed the body it asks for. -/
def ClosesCycle (read : Compilation) (id : NodeId) : Prop :=
  ∃ model task rest call outer, Pass.Reaches read.outset ⟨model, task :: rest, call :: outer⟩ ∧
    call.node = id ∧ (model.queue.get task).status = .running

end Compilation

namespace Model

theorem not_circular_of_absence {model : Model} {id : NodeId} {mention : Mention}
    {entry : Unresolved} (noted : entry ∈ model.absence id mention) :
    entry.isCircular = false := by
  unfold absence at noted
  split at noted
  next =>
    rw [List.mem_singleton.mp noted]
    rfl
  next =>
    split at noted
    next =>
      rw [List.mem_singleton.mp noted]
      rfl
    next => cases noted

theorem Untried.bare {start model : Model} (untried : start.Untried) (alike : start.Alike model)
    {id : NodeId} (kind : (model.node id).kind = .attributeTag) :
    (model.node id).attribute? "substitutiongroup" = none := by
  rw [alike.attribute]
  rw [alike.kind] at kind
  cases there : (start.node id).attribute? "substitutiongroup" with
  | none => rfl
  | some written =>
      have listed := untried.listed id "substitutiongroup" written there
      rw [kind] at listed
      exact absurd listed (by decide)

end Model

namespace Pass

section

variable {start model : Model}

theorem Scheduled.follows_enter {task : TaskId} {rest : List TaskId} {calls : List Call}
    (untried : start.Untried) (scheduled : Scheduled start ⟨model, task :: rest, calls⟩) :
    Model.Follows (model.queue.get task).node model (Pass.enter model task rest calls).model
      ((model.node (model.queue.get task).node).mentions.flatMap
        (model.absence (model.queue.get task).node)) := by
  have marked := Model.Follows.mark (model.queue.get task).node model .running task
  have filed : (model.mark .running task).Filed := scheduled.filed
  have followed : Model.Follows (model.queue.get task).node (model.mark .running task)
      ((model.mark .running task).prepare (model.queue.get task).node).1 _ :=
    Model.follows_prepare filed fun kind =>
      untried.bare (scheduled.alike.trans marked.alike) kind
  have same : (model.mark .running task).absence (model.queue.get task).node =
      model.absence (model.queue.get task).node := funext marked.absence
  rw [marked.alike.mentions, same] at followed
  exact marked.trans followed

theorem ledger_leave (model : Model) (call : Call) (outer : List Call) (complete : Bool) :
    (Pass.leave model call outer complete).model.sources = model.sources ∧
      (Pass.leave model call outer complete).model.unresolved.toList =
        model.unresolved.toList ++
          if complete then [] else model.circles call.node call.remainder :=
  Model.ledger_finish model call.node call.remainder complete

end

def Serves (start : Model) (call : Option Call) (tasks : List TaskId) : Prop :=
  ∀ open_, call = some open_ -> ∀ task ∈ tasks,
    ∃ target, open_.remainder.awaited = some target ∧ task ∈ start.queue.feeding target

theorem Serves.tail {start : Model} {call : Option Call} {task : TaskId} {rest : List TaskId}
    (serves : Serves start call (task :: rest)) : Serves start call rest :=
  fun open_ same other member => serves open_ same other (List.mem_cons_of_mem _ member)

/-- Every open call awaits what its tag asks for, and what is worked on for it feeds that. -/
structure Traced (read : Compilation) (pass : Pass) : Prop where
  awaits : ∀ call ∈ pass.calls, ∀ target, call.remainder.awaited = some target ->
    read.Copies call.node target
  front : Serves read.model pass.calls.head? pass.todo
  behind : ∀ errand ∈ backlog pass.calls, Serves read.model errand.1 errand.2

section

variable {read : Compilation} {pass next : Pass}

theorem Traced.leave {model : Model} {todo : List TaskId} {call : Call} {outer : List Call}
    (traced : Traced read ⟨model, todo, call :: outer⟩) (complete : Bool) :
    Traced read (Pass.leave model call outer complete) where
  awaits other member := traced.awaits other (List.mem_cons_of_mem _ member)
  front := (traced.behind _ List.mem_cons_self).tail
  behind errand member := traced.behind errand (List.mem_cons_of_mem _ member)

theorem Traced.enter {model : Model} {task : TaskId} {rest : List TaskId} {calls : List Call}
    (sound : read.Sound) (there : Reaches read.outset ⟨model, task :: rest, calls⟩)
    (waits : (model.queue.get task).status = .waiting)
    (traced : Traced read ⟨model, task :: rest, calls⟩) :
    Traced read (Pass.enter model task rest calls) := by
  have scheduled := there.scheduled sound.poised sound.scheduled
  have entered := scheduled.enter sound.gathered waits
  -- the new call awaits what its tag's name leads to; the other calls are those of before
  have asks (target : NodeId)
      (awaits : ((model.mark .running task).prepare
        (model.queue.get task).node).2.awaited = some target) :
      read.Copies (model.queue.get task).node target := by
    have filed : (model.mark .running task).Filed := scheduled.filed
    have marked := Model.Follows.mark (model.queue.get task).node model .running task
    obtain ⟨mention, member, copies, leads⟩ :=
      (Model.remainder_prepare filed target).1.mp awaits
    rw [marked.alike.mentions] at member
    rw [marked.leadsTo] at leads
    exact ⟨model, ⟨task, rest, calls, there, waits, rfl⟩, mention, member, copies, leads⟩
  unfold Pass.enter at entered ⊢
  dsimp only at entered ⊢
  generalize (model.mark .running task).prepare (model.queue.get task).node = prepared
    at entered asks ⊢
  constructor
  · intro call member target awaits
    rcases List.mem_cons.mp member with rfl | older
    · exact asks target awaits
    · exact traced.awaits call older target awaits
  · intro open_ same other member
    cases same
    cases awaits : prepared.2.awaited with
    | none =>
        rw [awaits] at member
        cases member
    | some target =>
        rw [awaits, Option.map_some, Option.getD_some, entered.alike.feeding] at member
        exact ⟨target, rfl, member⟩
  · intro errand member
    rcases List.mem_cons.mp member with rfl | older
    · exact traced.front
    · exact traced.behind errand older

theorem Reaches.traced (sound : read.Sound) (there : Reaches read.outset pass) :
    Traced read pass := by
  induction there with
  | refl =>
      refine ⟨?_, ?_, ?_⟩
      · intro call none_
        cases none_
      · intro call none_
        cases none_
      · intro errand none_
        cases none_
  | tail before step ih =>
      cases step with
      | enter model task rest calls waits => exact ih.enter sound before waits
      | skip => exact ⟨ih.awaits, ih.front.tail, ih.behind⟩
      | ignore => exact ⟨ih.awaits, ih.front.tail, ih.behind⟩
      | leave => exact ih.leave true
      | circle => exact ih.leave false

theorem Traced.dependsOn (sound : read.Sound) (scheduled : Scheduled read.model pass)
    (traced : Traced read pass) {open_ call : Call} (here : open_ ∈ pass.calls)
    (there : call ∈ pass.calls) {target : NodeId}
    (awaits : open_.remainder.awaited = some target)
    (feeds : call.task ∈ read.model.queue.feeding target) :
    read.DependsOn open_.node call.node := by
  have waits := scheduled.waited sound.poised there
  rw [scheduled.placed call there]
  obtain ⟨deferred, finished⟩ := (sound.isFinished_iff _).mp ⟨call.task, waits, rfl⟩
  exact ⟨target, traced.awaits open_ here target awaits, deferred, finished,
    ((sound.gathered.queued.mem_feeding target call.task).mp feeds).2⟩

theorem Traced.path (sound : read.Sound) (scheduled : Scheduled read.model pass)
    (traced : Traced read pass) {first : Call} {outer : List Call}
    (calls : pass.calls = first :: outer) {other : Call} (member : other ∈ pass.calls) :
    Relation.ReflTransGen read.DependsOn other.node first.node := by
  have depends {open_ call : Call} (here : open_ ∈ pass.calls) (there : call ∈ pass.calls)
      {target : NodeId} (awaits : open_.remainder.awaited = some target)
      (feeds : call.task ∈ read.model.queue.feeding target) :=
    traced.dependsOn sound scheduled here there awaits feeds
  have behind := traced.behind
  rw [calls] at member behind depends
  clear calls
  -- from the innermost call outwards
  induction outer generalizing first with
  | nil =>
      rw [List.mem_singleton.mp member]
  | cons second more ih =>
      rcases List.mem_cons.mp member with rfl | further
      · exact .refl
      · obtain ⟨target, awaits, feeds⟩ :=
          behind _ List.mem_cons_self second rfl first.task List.mem_cons_self
        have next := depends (List.mem_cons_of_mem _ List.mem_cons_self) List.mem_cons_self
          awaits feeds
        refine .tail (ih further ?_ ?_) next
        · exact fun here there => depends (List.mem_cons_of_mem _ here)
            (List.mem_cons_of_mem _ there)
        · exact fun errand inside => behind errand (List.mem_cons_of_mem _ inside)

theorem Step.order {start : Model} (step : Step pass next) (gathered : start.Gathered)
    (scheduled : Scheduled start pass) :
    pass.model.order.toList <+: next.model.order.toList := by
  have left {model : Model} {todo : List TaskId} {call : Call} {outer : List Call}
      (scheduled : Scheduled start ⟨model, todo, call :: outer⟩) (complete : Bool) :
      model.order.toList <+: (Pass.leave model call outer complete).model.order.toList := by
    have kept := (scheduled.finished gathered complete).order
    have pushed : (Pass.leave model call outer complete).model.order =
        (model.finish call.node call.remainder complete).order.push call.node := rfl
    rw [pushed, kept, Array.toList_push]
    exact List.prefix_append _ _
  cases step with
  | enter model task rest calls waits =>
      have kept : (Pass.enter model task rest calls).model.order = model.order :=
        (scheduled.prepared gathered waits).order
      exact ⟨[], (List.append_nil _).trans (congrArg Array.toList kept.symm)⟩
  | skip => exact List.prefix_refl _
  | ignore => exact List.prefix_refl _
  | leave => exact left scheduled true
  | circle => exact left scheduled false

theorem Reaches.order {start : Model} (reaches : Reaches pass next) (poised : start.Poised)
    (scheduled : Scheduled start pass) :
    pass.model.order.toList <+: next.model.order.toList := by
  induction reaches with
  | refl => exact List.prefix_refl _
  | tail before step ih =>
      exact ih.trans (step.order poised.gathered (Reaches.scheduled before poised scheduled))

theorem Reaches.finishes {model : Model} (ends : Reaches pass ⟨model, [], []⟩) {call : Call}
    (member : call ∈ pass.calls) :
    ∃ before after, Reaches pass before ∧ Finishes before after call ∧
      Reaches after ⟨model, [], []⟩ := by
  induction ends using Relation.ReflTransGen.head_induction_on with
  | refl => cases member
  | @head pass next step rest ih =>
      by_cases open_ : call ∈ next.calls
      next =>
        obtain ⟨before, after, reaches, finishes, later⟩ := ih open_
        exact ⟨before, after, .head step reaches, finishes, later⟩
      next =>
        refine ⟨pass, next, .refl, ⟨step, ?_⟩, rest⟩
        cases step with
        | enter => exact absurd (List.mem_cons_of_mem _ member) open_
        | skip => exact absurd member open_
        | ignore => cases member
        | leave model first outer =>
            rcases List.mem_cons.mp member with rfl | inside
            · rfl
            · exact absurd inside open_
        | circle model task rest first outer =>
            rcases List.mem_cons.mp member with rfl | inside
            · rfl
            · exact absurd inside open_

end

end Pass

namespace Compilation

section

variable {read : Compilation}

/-- A running task that is met belongs to an open call, so the calls up to it form a cycle. -/
theorem ClosesCycle.cycle (sound : read.Sound) {id : NodeId} (closes : read.ClosesCycle id) :
    Relation.TransGen read.DependsOn id id := by
  obtain ⟨model, task, rest, call, outer, there, rfl, runs⟩ := closes
  have scheduled := there.scheduled sound.poised sound.scheduled
  have traced := there.traced sound
  obtain ⟨other, member, rfl⟩ := (scheduled.running task).mp runs
  -- the innermost call depends on the call of the task that runs, and that one on the innermost
  obtain ⟨target, awaits, feeds⟩ := traced.front call rfl other.task List.mem_cons_self
  have next := traced.dependsOn sound scheduled List.mem_cons_self member awaits feeds
  exact .head' next (traced.path sound scheduled rfl member)

theorem closes_of_circular (sound : read.Sound) (untried : read.model.Untried) {pass : Pass}
    (there : Pass.Reaches read.outset pass) {entry : Unresolved}
    (noted : entry ∈ pass.model.unresolved) (circular : entry.isCircular = true) :
    ∃ id, read.ClosesCycle id := by
  induction there with
  | refl =>
      have none_ : read.outset.model.unresolved = #[] := untried.unresolved
      rw [none_] at noted
      simp at noted
  | @tail pass next before step ih =>
      have scheduled := Pass.Reaches.scheduled before sound.poised sound.scheduled
      rw [← Array.mem_toList_iff] at noted
      cases step with
      | enter model task rest calls waits =>
          rw [(scheduled.follows_enter untried).unresolved, List.mem_append] at noted
          rcases noted with earlier | missed
          · exact ih (Array.mem_toList_iff.mp earlier)
          · obtain ⟨mention, -, absent⟩ := List.mem_flatMap.mp missed
            cases circular.symm.trans (Model.not_circular_of_absence absent)
      | skip => exact ih (Array.mem_toList_iff.mp noted)
      | ignore => exact ih (Array.mem_toList_iff.mp noted)
      | leave model call outer =>
          rw [(Pass.ledger_leave model call outer true).2, if_pos rfl, List.append_nil] at noted
          exact ih (Array.mem_toList_iff.mp noted)
      | circle model task rest call outer runs =>
          exact ⟨call.node, model, task, rest, call, outer, before, rfl, runs⟩

theorem Copies.entered (sound : read.Sound) {id target : NodeId} (copies : read.Copies id target) :
    ∃ pass call outer, Pass.Reaches read.outset pass ∧ pass.calls = call :: outer ∧
      call.node = id ∧ call.remainder.awaited = some target := by
  obtain ⟨model, ⟨task, rest, calls, there, waits, rfl⟩, mention, member, role, leads⟩ := copies
  have scheduled := there.scheduled sound.poised sound.scheduled
  have filed : (model.mark .running task).Filed := scheduled.filed
  have marked := Model.Follows.mark (model.queue.get task).node model .running task
  rw [← marked.alike.mentions] at member
  rw [← marked.leadsTo] at leads
  exact ⟨Pass.enter model task rest calls, _, calls, there.tail (.enter model task rest calls waits),
    rfl, rfl, (Model.remainder_prepare filed target).1.mpr ⟨mention, member, role, leads⟩⟩

/-- Without a circular reference, a tag is done after whatever it depends on. -/
theorem before_of_dependsOn (sound : read.Sound) {model : Model}
    (ends : Pass.Reaches read.outset ⟨model, [], []⟩) (uncircular : model.Uncircular)
    {id feeder : NodeId} (depends : read.DependsOn id feeder) :
    model.order.toList.idxOf feeder < model.order.toList.idxOf id := by
  obtain ⟨target, copies, deferred, finished, feeds⟩ := depends
  obtain ⟨entered, call, outer, there, calls, rfl, awaits⟩ := copies.entered sound
  have member : call ∈ entered.calls := by simp [calls]
  obtain ⟨before, after, reaches, finishes, later⟩ := (there.through ends).finishes member
  have scheduled := Pass.Reaches.scheduled (there.trans reaches) sound.poised sound.scheduled
  obtain ⟨complete, same, ended⟩ := finishes.cases_leave
  obtain ⟨step, open_⟩ := finishes
  have along := step.scheduled sound.poised scheduled
  -- the call is left in full, so nothing is left to do for the body it awaits
  have todo : before.todo = [] := by
    cases complete with
    | true => exact ended rfl
    | false =>
        have clean := later.uncircular sound.poised along uncircular
        rw [same] at clean
        obtain ⟨first, todo, inner⟩ := before
        dsimp only at open_ clean
        subst open_
        cases awaits.symm.trans (scheduled.awaited_of_uncircular sound.gathered clean)
  -- so the feeder is done by then, and the tag of the call is not
  obtain ⟨task, waits, rfl⟩ := (sound.isFinished_iff feeder).mpr ⟨deferred, finished⟩
  have done := scheduled.awaited sound.gathered open_ todo awaits (Model.within_of_waits waits) feeds
  have earlier : (read.model.queue.get task).node ∈ before.model.order.toList :=
    (scheduled.order _).mpr ⟨task, ⟨waits, done⟩, rfl⟩
  have absent : call.node ∉ before.model.order.toList := by
    intro listed
    have last : call ∈ before.calls := by simp [open_]
    cases (scheduled.unresolved_call sound.gathered last).symm.trans ((scheduled.resolved _).mpr (Or.inr listed))
  obtain ⟨further, order⟩ := Pass.Reaches.order (.head step later) sound.poised scheduled
  rw [← order, List.idxOf_append_of_mem earlier, List.idxOf_append_of_notMem absent]
  have place := List.idxOf_lt_length_of_mem earlier
  omega

/-- A reference is reported as circular exactly when some tag depends on itself. -/
theorem compile_circular_iff {options : Options} {fetch : Fetch} {url : Url}
    {compilation : Compilation} (compiled : compile options fetch url = .ok compilation) :
    ∃ read, gather options fetch url = .ok read ∧
      Pass.Reaches read.outset ⟨compilation.model, [], []⟩ ∧
      ((∃ entry ∈ compilation.model.unresolved, entry.isCircular = true) ↔
        ∃ id, Relation.TransGen read.DependsOn id id) := by
  obtain ⟨read, gathered, sound, rfl⟩ := compile_ok compiled
  refine ⟨read, gathered, read.resolve_reaches, ?_, ?_⟩
  · rintro ⟨entry, noted, circular⟩
    obtain ⟨id, closes⟩ := closes_of_circular sound (untried_gather gathered)
      read.resolve_reaches noted circular
    exact ⟨id, closes.cycle sound⟩
  · rintro ⟨id, cycle⟩
    by_contra none_
    have uncircular : read.resolve.model.Uncircular := by
      intro entry noted
      exact Bool.eq_false_iff.mpr fun circular => none_ ⟨entry, noted, circular⟩
    -- along a path of dependencies the place in the order gets lower
    have lower {first last : NodeId} (path : Relation.TransGen read.DependsOn first last) :
        read.resolve.model.order.toList.idxOf last <
          read.resolve.model.order.toList.idxOf first := by
      induction path with
      | single depends => exact before_of_dependsOn sound read.resolve_reaches uncircular depends
      | tail _ depends ih =>
          exact Nat.lt_trans
            (before_of_dependsOn sound read.resolve_reaches uncircular depends) ih
    exact Nat.lt_irrefl _ (lower cycle)

def circleText : String :=
  "<x:schema xmlns:x='http://www.w3.org/2001/XMLSchema'><x:group name='g'><x:sequence>" ++
    "<x:group ref='g'/></x:sequence></x:group></x:schema>"

set_option maxRecDepth 100000 in
theorem compile_circular_iff_group :
    ∃ compilation read, compile .standard (serving circleText) someUrl = .ok compilation ∧
      gather .standard (serving circleText) someUrl = .ok read ∧
      (∃ entry ∈ compilation.model.unresolved, entry.isCircular = true) ∧
      ∃ id, Relation.TransGen (DependsOn read) id id := by
  obtain ⟨compilation, compiled, -, entry, noted, is⟩ :=
    @compile_of_checked circleText
      (fun model => ∃ entry ∈ model.unresolved.toList, entry.isCircular = true) _
      (by decide +kernel)
  have circular : ∃ entry ∈ compilation.model.unresolved, entry.isCircular = true :=
    ⟨entry, Array.mem_toList_iff.mp noted, is⟩
  obtain ⟨read, gathered, -, iff⟩ := compile_circular_iff compiled
  exact ⟨compilation, read, compiled, gathered, circular, iff.mp circular⟩

end

end Compilation

end XmlSchema

import XmlSchema.Proofs.Resolution.Ledger
import XmlSchema.Proofs.Resolution.Records

set_option autoImplicit false

namespace XmlSchema

namespace Model

theorem fault_place {model : Model} {id : NodeId} {closes : Bool} {mention : Mention}
    {entry : Unresolved} (noted : model.fault id closes mention = some entry) :
    entry.kind = (model.node id).kind ∧ entry.position = model.position id := by
  unfold fault at noted
  split at noted
  next =>
    cases noted
    exact ⟨rfl, rfl⟩
  next =>
    split at noted
    next =>
      cases noted
      exact ⟨rfl, rfl⟩
    next =>
      split at noted
      next =>
        cases noted
        exact ⟨rfl, rfl⟩
      next => cases noted

theorem leadsTo_of_fault {model : Model} {id : NodeId} {closes : Bool} {mention : Mention}
    (clean : model.fault id closes mention = none) :
    ∃ name target, model.readName id mention.written = .ok name ∧
      model.find id mention.symbols name = some target ∧
        model.leadsTo id mention = some target := by
  unfold fault at clean
  unfold leadsTo
  cases read : model.readName id mention.written with
  | error fault =>
      rw [read] at clean
      cases clean
  | ok name =>
      rw [read] at clean
      dsimp only at clean ⊢
      cases found : model.find id mention.symbols name with
      | none =>
          rw [found] at clean
          cases clean
      | some target => exact ⟨name, target, rfl, found, rfl⟩

end Model

namespace Pass

section

variable {start : Model} {pass next : Pass}

theorem Step.entered (step : Step pass next) (scheduled : Scheduled start pass) {task : TaskId}
    (waits : (pass.model.queue.get task).status = .waiting)
    (begun : (next.model.queue.get task).status ≠ .waiting) :
    ∃ model rest calls, pass = ⟨model, task :: rest, calls⟩ := by
  -- only a running task is marked when a call is left, so a waiting one still waits
  have left {model : Model} {todo : List TaskId} {call : Call} {outer : List Call}
      (scheduled : Scheduled start ⟨model, todo, call :: outer⟩) {complete : Bool}
      (waits : (model.queue.get task).status = .waiting) :
      ((Pass.leave model call outer complete).model.queue.get task).status = .waiting := by
    have queue : (Pass.leave model call outer complete).model.queue =
        model.queue.mark .done call.task :=
      congrArg (fun queue => Queue.mark queue .done call.task)
        (Model.queue_finish model call.node call.remainder complete)
    have runs := (scheduled.running call.task).mpr ⟨call, List.mem_cons_self, rfl⟩
    rw [queue, Queue.status_mark_of_ne _ _ fun same => ?_]
    · exact waits
    · subst same
      cases waits.symm.trans runs
  cases step with
  | enter model first rest calls =>
      by_cases same : task = first
      · exact ⟨model, rest, calls, by rw [same]⟩
      · have queue : (Pass.enter model first rest calls).model.queue =
            model.queue.mark .running first := Model.queue_prepare _ _
        rw [queue, Queue.status_mark_of_ne _ _ same] at begun
        exact absurd waits begun
  | skip => exact absurd waits begun
  | ignore => exact absurd waits begun
  | leave => exact absurd (left scheduled waits) begun
  | circle => exact absurd (left scheduled waits) begun

theorem Reaches.enters {model : Model} (ends : Reaches pass ⟨model, [], []⟩)
    (poised : start.Poised) (scheduled : Scheduled start pass) {task : TaskId}
    (waits : (pass.model.queue.get task).status = .waiting) :
    ∃ before rest calls, Reaches pass ⟨before, task :: rest, calls⟩ ∧
      (before.queue.get task).status = .waiting := by
  induction ends using Relation.ReflTransGen.head_induction_on with
  | refl => cases (scheduled.done task).symm.trans waits
  | @head pass next step rest ih =>
      by_cases still : (next.model.queue.get task).status = .waiting
      next =>
        obtain ⟨before, more, calls, reaches, there⟩ := ih (step.scheduled poised scheduled) still
        exact ⟨before, more, calls, .head step reaches, there⟩
      next =>
        obtain ⟨before, more, calls, rfl⟩ := step.entered scheduled waits still
        exact ⟨before, more, calls, .refl, waits⟩

theorem Reaches.recorded (reaches : Reaches pass next) (poised : start.Poised)
    (scheduled : Scheduled start pass) {task : TaskId} (inside : task.index < start.queue.size)
    (begun : (pass.model.queue.get task).status ≠ .waiting) {target : NodeId} {mention : Mention}
    (member : mention ∈ (start.node (start.queue.get task).node).mentions)
    (early : mention.role ≠ .base)
    (recorded : pass.model.Recorded (start.queue.get task).node target mention.role) :
    next.model.Recorded (start.queue.get task).node target mention.role := by
  induction reaches with
  | refl => exact recorded
  | @tail middle last before step ih =>
      have along := Reaches.scheduled before poised scheduled
      cases step with
      | enter model first rest calls waits =>
          refine along.recorded_enter poised.gathered waits ?_ ?_ early ih
          · -- the tag of a task that waits is not one whose task has been entered
            intro same
            have within : first.index < start.queue.size :=
              along.alike.tasks ▸ Model.within_of_waits waits
            rw [along.alike.task] at same
            obtain rfl := poised.gathered.queued.distinct task first inside within same
            exact begun (Reaches.waits before waits)
          · rw [along.alike.mentions]
            exact member
      | skip => exact ih
      | ignore => exact ih
      | leave => exact recorded_leave poised.gathered along early ih
      | circle => exact recorded_leave poised.gathered along early ih

theorem Finishes.based {call : Call} (finishes : Finishes pass next call) (poised : start.Poised)
    (scheduled : Scheduled start pass) {target type : NodeId}
    (derivation : (start.node call.node).kind.isDerivation = true)
    (awaits : call.remainder.awaited = some target)
    (around : start.enclosing call.node Kind.isType = some type) :
    (next.model.node type).base = some (.resolved target) := by
  obtain ⟨complete, same, -⟩ := finishes.cases_leave
  have calls := finishes.2
  obtain ⟨model, todo, open_⟩ := pass
  dsimp only at calls same
  subst calls
  have fits := scheduled.fits call List.mem_cons_self
  have base : call.remainder.base? = some (some (.resolved target)) := by
    rw [← scheduled.alike.kind] at derivation
    cases left : call.remainder with
    | nothing =>
        rw [left] at awaits
        cases awaits
    | own =>
        rw [left] at awaits
        cases awaits
    | derivation =>
        rw [left] at awaits
        cases awaits
    | body name other members =>
        rw [left] at fits
        -- a reference to a group is no derivation
        obtain ⟨-, -, ⟨is, -⟩ | ⟨is, -⟩⟩ := fits <;> rw [is] at derivation <;> cases derivation
    | inheritance how other written =>
        rw [left] at awaits
        cases awaits
        rfl
  have finished := scheduled.finished poised.gathered complete
  rw [← scheduled.alike.enclosing] at around
  rw [same]
  refine (base_complete _ call.task call.node type).trans (finished.derived _ type ?_ around)
  cases complete
  · exact (Remainder.base_alone _).trans base
  · exact base

end

end Pass

namespace Compilation

section

variable {read : Compilation} {id target : NodeId} {mention : Mention}

theorem recorded_early (sound : read.Sound) (untried : read.model.Untried) {model last : Model}
    (starts : read.Starts id model) (ends : Pass.Reaches read.outset ⟨last, [], []⟩)
    (member : mention ∈ (model.node id).mentions)
    (leads : model.leadsTo id mention = some target) (early : mention.role ≠ .base) :
    last.Recorded id target mention.role := by
  obtain ⟨task, rest, calls, there, waits, rfl⟩ := starts
  have scheduled := there.scheduled sound.poised sound.scheduled
  have step := Pass.Step.enter model task rest calls waits
  have after := step.scheduled sound.poised scheduled
  have onward := Pass.Reaches.through (there.tail step) ends
  have before := scheduled.alike
  have inside : task.index < read.model.queue.size := before.tasks ▸ Model.within_of_waits waits
  have tag := (sound.gathered.queued.deferred task inside).1
  rw [← before.task] at tag
  have marked := Model.Follows.mark (model.queue.get task).node model .running task
  have both := before.trans marked.alike
  have filed : (model.mark .running task).Filed := scheduled.filed
  -- the step that enters the task writes the record, and all later ones keep it
  have kept : (Pass.enter model task rest calls).model.Recorded (model.queue.get task).node target
      mention.role := by
    refine Model.recorded_prepare (both.shaped sound.gathered.shaped) filed
      ((both.isTag _).mpr tag) (fun kind => untried.bare both kind) ?_ ?_ early
    · rw [marked.alike.mentions]
      exact member
    · rw [marked.leadsTo]
      exact leads
  rw [before.mentions, before.task] at member
  rw [before.task] at kept ⊢
  refine onward.recorded sound.poised after inside ?_ member early kept
  rw [Pass.not_waits_enter waits]
  decide

theorem recorded_base (sound : read.Sound) {model last : Model}
    (starts : read.Starts id model) (ends : Pass.Reaches read.outset ⟨last, [], []⟩)
    (member : mention ∈ (model.node id).mentions)
    (leads : model.leadsTo id mention = some target) (base : mention.role = .base) :
    last.Recorded id target .base := by
  have ended := ends.scheduled sound.poised sound.scheduled
  have copies : read.Copies id target :=
    ⟨model, starts, mention, member, by rw [base]; rfl, leads⟩
  -- the base is written when the call for the derivation is left
  obtain ⟨entered, call, outer, there, calls, rfl, awaits⟩ := copies.entered sound
  have inner : call ∈ entered.calls := by simp [calls]
  obtain ⟨before, after, reaches, finishes, later⟩ := (there.through ends).finishes inner
  have scheduled := Pass.Reaches.scheduled (there.trans reaches) sound.poised sound.scheduled
  have along := finishes.1.scheduled sound.poised scheduled
  obtain ⟨task, rest, outer_, point, waits, same⟩ := starts
  have first := point.scheduled sound.poised sound.scheduled
  have derivation := (Node.kind_of_mention member).2.2.2 base
  have inside : task.index < read.model.queue.size := first.alike.tasks ▸ Model.within_of_waits waits
  have tag := (sound.gathered.queued.deferred task inside).1
  rw [first.alike.task] at same
  rw [same] at tag
  rw [first.alike.kind] at derivation
  obtain ⟨how, kind⟩ := (Kind.isDerivation_iff _).mp derivation
  obtain ⟨type, around, -⟩ := Model.enclosing_of_derivation sound.gathered.shaped tag kind
  refine ⟨type, (ended.alike.enclosing ..).trans around, fun only => ?_⟩
  rw [ended.alike.derivations] at only
  have based := finishes.based sound.poised scheduled derivation awaits around
  -- all derivations of the type are done then, and nothing else writes its base
  have done : ∀ each ∈ read.model.derivations type, (after.model.node each).isResolved = true := by
    intro each makes
    rw [only, List.mem_singleton] at makes
    exact makes ▸ finishes.resolved sound.gathered scheduled
  exact (later.base sound.poised along done).1.trans based

theorem Sound.starts (sound : read.Sound) (listed : id ∈ read.resolve.model.order.toList) :
    ∃ model, read.Starts id model := by
  obtain ⟨task, waits, rfl⟩ := (sound.ended.mem_order id).mp listed
  obtain ⟨model, rest, calls, there, still⟩ :=
    read.resolve_reaches.enters sound.poised sound.scheduled waits
  have scheduled := there.scheduled sound.poised sound.scheduled
  exact ⟨model, task, rest, calls, there, still, scheduled.alike.task task⟩

end

/-- Every name that the tags of finished documents write is accounted for, given the model in which
work on each tag starts and whether it closes a cycle. -/
structure Accounted (read compilation : Compilation) (seen : NodeId -> Model)
    (closes : NodeId -> Bool) : Prop where
  starts : ∀ id ∈ compilation.model.order.toList, ∀ model, read.Starts id model ↔ model = seen id
  closes_iff : ∀ id, closes id = true ↔ read.ClosesCycle id
  cycle : ∀ id, closes id = true -> Relation.TransGen read.DependsOn id id
  /-- All tags that write names are worked on, once, and no others than those of finished
  documents. -/
  worked : ∀ id mention, mention ∈ (compilation.model.node id).mentions ->
    (id ∈ compilation.model.order.toList ↔ compilation.IsFinished id)
  nodup : compilation.model.order.toList.Nodup
  /-- Each name that something is wrong with is noted once, and nothing else is noted. -/
  noted : compilation.model.unresolved.toList.Perm
    (compilation.model.order.toList.flatMap fun id =>
      (compilation.model.node id).mentions.filterMap ((seen id).fault id (closes id)))
  place : ∀ id ∈ compilation.model.order.toList, ∀ mention entry,
    (seen id).fault id (closes id) mention = some entry ->
      entry.kind = (compilation.model.node id).kind ∧
        entry.position = compilation.model.position id
  /-- Any other name leads to a node that may have it, and this node is kept. -/
  kept : ∀ id ∈ compilation.model.order.toList, ∀ mention ∈ (compilation.model.node id).mentions,
    (seen id).fault id (closes id) mention = none ->
      ∃ name target, (seen id).readName id mention.written = .ok name ∧
        (seen id).find id mention.symbols name = some target ∧
        compilation.model.Bears mention.symbols name target ∧
        compilation.model.Recorded id target mention.role
  check : compilation.check = .ok () ↔
    ∀ id ∈ compilation.model.order.toList, ∀ mention ∈ (compilation.model.node id).mentions,
      (seen id).fault id (closes id) mention = none

section

variable {read : Compilation}

theorem Sound.exists_seen (sound : read.Sound) :
    ∃ seen : NodeId -> Model, ∀ id model, read.Starts id model -> seen id = model :=
  ⟨fun id => Classical.epsilon (read.Starts id), fun _ model starts =>
    Starts.unique sound (Classical.epsilon_spec ⟨model, starts⟩) starts⟩

theorem exists_closes (read : Compilation) :
    ∃ closes : NodeId -> Bool, ∀ id, closes id = true ↔ read.ClosesCycle id :=
  ⟨fun id => @decide _ (Classical.propDecidable (read.ClosesCycle id)),
    fun _ => @decide_eq_true_iff _ (Classical.propDecidable _)⟩

theorem check_iff (compilation : Compilation) :
    compilation.check = .ok () ↔ compilation.model.unresolved.toList = [] := by
  unfold check
  cases none_ : compilation.model.unresolved.isEmpty with
  | true => simpa using none_
  | false =>
      refine iff_of_false (fun ok => by cases ok) fun empty => ?_
      rw [Array.toList_eq_nil_iff.mp empty] at none_
      cases none_

end

/-- No reference that fails is lost, and none is reported that does not fail. Each name on a tag of a
finished document is looked up when work on the tag starts. It is noted once if it is malformed, if
it leads nowhere, or if the body that it leads to turns out to depend on itself; otherwise it leads
to a node of that name, of a kind that belongs to the table asked for, and this node is kept. -/
theorem compile_references {options : Options} {fetch : Fetch} {url : Url}
    {compilation : Compilation} (compiled : compile options fetch url = .ok compilation) :
    ∃ read seen closes, gather options fetch url = .ok read ∧
      Pass.Reaches read.outset ⟨compilation.model, [], []⟩ ∧
      Accounted read compilation seen closes := by
  obtain ⟨read, gathered, sound, rfl⟩ := compile_ok compiled
  have untried := untried_gather gathered
  have ends := read.resolve_reaches
  have ended := sound.ended
  obtain ⟨seen, sees⟩ := sound.exists_seen
  obtain ⟨closes, closing⟩ := exists_closes read
  have booked {pass : Pass} (there : Pass.Reaches read.outset pass) :
      Booked read seen closes pass := Booked.reaches sound untried sees closing there
  have noted := (booked ends).ended
  simp only [← ended.alike.mentions] at noted
  -- a tag that is listed was worked on, starting in the model that is known for it
  have starts {id : NodeId} (listed : id ∈ read.resolve.model.order.toList) :
      read.Starts id (seen id) ∧ (seen id).Alike read.resolve.model ∧
        read.resolve.model.sources = (seen id).sources ∧ (seen id).Filed := by
    obtain ⟨model, starts⟩ := sound.starts listed
    obtain rfl := sees id model starts
    refine ⟨starts, ?_⟩
    obtain ⟨task, rest, calls, there, waits, -⟩ := starts
    have scheduled := there.scheduled sound.poised sound.scheduled
    have sources : (seen id).sources = read.model.sources := (booked there).sources
    have last : read.resolve.model.sources = read.model.sources := (booked ends).sources
    exact ⟨scheduled.alike.between ended.alike (ended.alike.rooted sound.gathered.shaped.registry),
      last.trans sources.symm, scheduled.filed⟩
  refine ⟨read, seen, closes, gathered, ends, ?_⟩
  constructor
  · intro id listed model
    refine ⟨fun started => (sees id model started).symm, fun same => same ▸ (starts listed).1⟩
  · exact closing
  · exact fun id closed => ((closing id).mp closed).cycle sound
  · intro id mention member
    rw [sound.mem_order_resolve]
    exact and_iff_right (Node.kind_of_mention member).1
  · exact ended.nodup
  · exact noted
  · intro id listed mention entry wrong
    obtain ⟨-, alike, sources, -⟩ := starts listed
    obtain ⟨kind, position⟩ := Model.fault_place wrong
    exact ⟨kind.trans (alike.kind id).symm, position.trans (alike.position sources id).symm⟩
  · intro id listed mention member clean
    obtain ⟨begun, alike, -, filed⟩ := starts listed
    obtain ⟨name, target, written, found, leads⟩ := Model.leadsTo_of_fault clean
    rw [alike.mentions] at member
    refine ⟨name, target, written, found, (alike.bears ..).mpr (filed.find found), ?_⟩
    by_cases base : mention.role = .base
    · rw [base]
      exact recorded_base sound begun ends member leads base
    · exact recorded_early sound untried begun ends member leads base
  · rw [check_iff]
    constructor
    · intro empty id listed mention member
      rw [empty] at noted
      have nothing := List.flatMap_eq_nil_iff.mp (List.nil_perm.mp noted) id listed
      exact List.filterMap_eq_nil_iff.mp nothing mention member
    · intro clean
      refine List.perm_nil.mp (noted.trans (List.Perm.of_eq ?_))
      refine List.flatMap_eq_nil_iff.mpr fun id listed => ?_
      exact List.filterMap_eq_nil_iff.mpr (clean id listed)

def referencesText : String :=
  "<x:schema xmlns:x='http://www.w3.org/2001/XMLSchema'><x:element name='a' type='x:string'/>" ++
    "<x:element name='b' type='x:strong'/></x:schema>"

set_option maxRecDepth 100000 in
theorem compile_references_elements :
    ∃ compilation read seen closes,
      compile .standard (serving referencesText) someUrl = .ok compilation ∧
      Accounted read compilation seen closes ∧
      compilation.model.unresolved.size = 1 ∧
      (compilation.model.node ⟨47⟩).typeRef = some (.resolved ⟨2⟩) ∧
      (seen ⟨48⟩).fault ⟨48⟩ (closes ⟨48⟩) ⟨.type, .types, "x:strong"⟩ ≠ none := by
  obtain ⟨compilation, compiled, -, noted, listed, first, mentions, second⟩ :=
    @compile_of_checked referencesText (fun model => model.unresolved.size = 1 ∧
      ⟨48⟩ ∈ model.order.toList ∧ (model.node ⟨47⟩).typeRef = some (.resolved ⟨2⟩) ∧
        ⟨.type, .types, "x:strong"⟩ ∈ (model.node ⟨48⟩).mentions ∧
          (model.node ⟨48⟩).typeRef =
            some (.unresolved ⟨some "http://www.w3.org/2001/XMLSchema", "strong"⟩)) _
      (by decide +kernel)
  obtain ⟨read, seen, closes, -, -, accounted⟩ := compile_references compiled
  refine ⟨compilation, read, seen, closes, compiled, accounted, noted, first, fun clean => ?_⟩
  obtain ⟨name, target, -, -, -, recorded⟩ := accounted.kept ⟨48⟩ listed _ mentions clean
  cases second.symm.trans recorded

end Compilation

end XmlSchema

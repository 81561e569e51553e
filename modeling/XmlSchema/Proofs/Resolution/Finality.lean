import XmlSchema.Proofs.Resolution.Completion

set_option autoImplicit false

namespace XmlSchema

namespace Kind

theorem holds_derivation {outer : Kind} {how : Derivation} (holds : outer.Holds how.kind) :
    outer = .simpleType ∨ outer = .complexContent ∨ outer = .simpleContent := by
  cases how <;> cases outer <;> revert holds <;> decide

theorem holds_content {outer inner : Kind} (holds : outer.Holds inner)
    (content : inner = .complexContent ∨ inner = .simpleContent) : outer = .complexType := by
  rcases content with rfl | rfl <;> cases outer <;> revert holds <;> decide

end Kind

namespace Model

section

variable {model : Model}

theorem Shaped.scope_of_not_isTag (shaped : model.Shaped) {id : NodeId} (other : ¬ model.IsTag id) :
    (model.node id).scope = Builtin.scope := by
  by_cases primitive : id.index < Builtin.nodes.length
  · exact (congrArg Node.scope (shaped.primitive id primitive).1 :)
  · rw [node_of_size_le model (Nat.not_lt.mp fun inside =>
      other ⟨Nat.not_lt.mp primitive, inside⟩)]
    rfl

theorem Shaped.eq_of_scope (shaped : model.Shaped) {owner id : NodeId} (tag : model.IsTag id)
    (plain : (model.node owner).kind ≠ .schema)
    (same : (model.node owner).scope = (model.node id).scope) : owner = id := by
  by_cases isTag : model.IsTag owner
  · exact shaped.apart owner id isTag tag plain same
  · rw [shaped.scope_of_not_isTag isTag] at same
    exact absurd same.symm (shaped.scope_ne_builtin tag)

theorem enclosing_of_parent (shaped : model.Shaped) {id parent : NodeId}
    (inside : (model.node id).parent = some parent) (accepts : Kind -> Bool) :
    model.enclosing id accepts =
      if accepts (model.node parent).kind then some parent else model.enclosing parent accepts := by
  unfold enclosing
  rw [shaped.ancestors_eq inside, List.find?_cons]
  cases accepts (model.node parent).kind <;> rfl

theorem enclosing_of_derivation (shaped : model.Shaped) {id : NodeId} {how : Derivation}
    (tag : model.IsTag id) (kind : (model.node id).kind = how.kind) :
    ∃ type, model.enclosing id Kind.isType = some type ∧ model.Feeds id type := by
  obtain ⟨parent, stands, inside⟩ := shaped.parent_of_kind tag (by rw [kind]; cases how <;> decide)
  have direct := shaped.feeds_parent inside
  have holds := stands.holds
  rw [kind] at holds
  rw [enclosing_of_parent shaped inside]
  rcases Kind.holds_derivation holds with simple | content
  · exact ⟨parent, by rw [simple, Kind.isType, if_pos rfl], direct⟩
  · -- the type is the one around the tag for the content
    have through : (model.node parent).kind.isType = false := by
      rcases content with is | is <;> rw [is] <;> rfl
    have open_ : (model.node parent).kind.isBoundary = false := by
      rcases content with is | is <;> rw [is] <;> rfl
    obtain ⟨outer, above, next⟩ := shaped.parent_of_kind stands.tag (by
      rcases content with is | is <;> rw [is] <;> decide)
    have type := Kind.holds_content above.holds content
    refine ⟨outer, ?_, feeds_trans direct (shaped.feeds_parent next) open_⟩
    rw [through, if_neg Bool.false_ne_true, enclosing_of_parent shaped next, type, Kind.isType,
      if_pos rfl]

end

/-- Nothing more is going to be added to a body: whatever feeds it is done, or is its own tag, which
only passes it on. -/
def Sealed (start model : Model) (owner : NodeId) : Prop :=
  ∀ task : TaskId, task.index < start.queue.size ->
    start.Feeds (start.queue.get task).node owner ->
      model.IsDone task ∨
        (start.queue.get task).node = owner ∧ (model.queue.get task).status ≠ .waiting

end Model

namespace Pass

section

variable {start : Model} {pass next : Pass} {owner : NodeId}

theorem Step.sealed (step : Step pass next) (sealed : start.Sealed pass.model owner) :
    start.Sealed next.model owner := by
  intro task inside feeds
  obtain ⟨done, waits⟩ := step.status task
  rcases sealed task inside feeds with before | ⟨same, started⟩
  · exact Or.inl (done before)
  · exact Or.inr ⟨same, fun waiting => started (waits waiting)⟩

theorem done_of_sealed {model : Model} {task : TaskId} (gathered : start.Gathered)
    (inside : task.index < start.queue.size) (plain : (start.node owner).kind ≠ .schema)
    (sealed : start.Sealed model owner)
    (same : (start.node owner).scope =
      start.scopes.surrounding (start.node (start.queue.get task).node).scope) :
    model.IsDone task := by
  obtain ⟨tag, deferred⟩ := gathered.queued.deferred task inside
  obtain ⟨parent, stands, around⟩ := gathered.shaped.parent_of_kind tag (by
    intro schema
    rw [schema] at deferred
    cases deferred)
  rw [gathered.shaped.surrounding_eq around] at same
  obtain rfl := gathered.shaped.eq_of_scope stands.tag plain same
  rcases sealed task inside (gathered.shaped.feeds_parent around) with done | ⟨self, -⟩
  · exact done
  · exact absurd stands.lower (by rw [self]; exact Nat.lt_irrefl _)

theorem done_of_heir {model : Model} {task : TaskId} {how : Derivation} {other : NodeId}
    (gathered : start.Gathered) (inside : task.index < start.queue.size)
    (plain : (start.node owner).kind ≠ .schema) (sealed : start.Sealed model owner)
    (kind : (start.node (start.queue.get task).node).kind = how.kind)
    (around : start.enclosing (start.queue.get task).node Kind.isType = some other)
    (same : (start.node owner).scope = (start.node other).scope) : model.IsDone task := by
  have tag := (gathered.queued.deferred task inside).1
  have outer := (Model.enclosing_spec around).1
  obtain rfl := gathered.shaped.eq_of_scope (gathered.shaped.of_mem_ancestors outer).1 plain same
  obtain ⟨type, made, feeds⟩ := Model.enclosing_of_derivation gathered.shaped tag kind
  obtain rfl := Option.some.inj (made.symm.trans around)
  rcases sealed task inside feeds with done | ⟨self, -⟩
  · exact done
  · exact absurd (Model.mem_ancestors_lt outer) (by rw [self]; exact Nat.lt_irrefl _)

theorem Scheduled.table_leave {model : Model} {todo : List TaskId} {call : Call}
    {outer : List Call} (gathered : start.Gathered)
    (scheduled : Scheduled start ⟨model, todo, call :: outer⟩) (complete : Bool)
    (plain : (start.node owner).kind ≠ .schema) (sealed : start.Sealed model owner)
    (kind : Symbols) :
    (Pass.leave model call outer complete).model.scopes.table (start.node owner).scope kind =
      model.scopes.table (start.node owner).scope kind := by
  have finished := scheduled.finished gathered complete
  have alike := scheduled.alike
  have runs := (scheduled.running call.task).mpr ⟨call, List.mem_cons_self, rfl⟩
  have inside : call.task.index < start.queue.size := alike.tasks ▸ Queue.within_of_running runs
  have placed := scheduled.placed call List.mem_cons_self
  have fits := scheduled.fits call List.mem_cons_self
  have open_ : ¬ model.IsDone call.task := by
    intro done
    cases done.symm.trans runs
  refine finished.elsewhere (start.node owner).scope kind (fun same => open_ ?_)
    fun other heir around same => open_ ?_
  · rw [alike.surrounding, placed] at same
    exact done_of_sealed gathered inside plain sealed same
  · have inherits : call.remainder.heritage? ≠ none := by
      cases complete
      · exact absurd (Remainder.heritage_alone call.remainder) heir
      · exact heir
    obtain ⟨how, is⟩ := fits.kind_of_heritage inherits
    rw [alike.kind, placed] at is
    rw [alike.enclosing, placed] at around
    rw [alike.scope] at same
    exact done_of_heir gathered inside plain sealed is around same

theorem Step.table (step : Step pass next) (poised : start.Poised)
    (scheduled : Scheduled start pass) (plain : (start.node owner).kind ≠ .schema)
    (sealed : start.Sealed pass.model owner) (kind : Symbols) :
    next.model.scopes.table (start.node owner).scope kind =
      pass.model.scopes.table (start.node owner).scope kind := by
  cases step with
  | enter model task rest calls waits =>
      have alike := scheduled.alike
      have inside : task.index < start.queue.size := alike.tasks ▸ Model.within_of_waits waits
      refine (scheduled.prepared poised.gathered waits).elsewhere _ kind fun same => ?_
      have around := (alike.trans (Model.Alike.mark model .running task)).surrounding
        (model.queue.get task).node
      rw [around, alike.task] at same
      have done := done_of_sealed poised.gathered inside plain sealed same
      cases done.symm.trans waits
  | skip => rfl
  | ignore => rfl
  | leave model call outer => exact scheduled.table_leave poised.gathered true plain sealed kind
  | circle model task rest call outer =>
      exact scheduled.table_leave poised.gathered false plain sealed kind

theorem Reaches.table (reaches : Reaches pass next) (poised : start.Poised)
    (scheduled : Scheduled start pass) (plain : (start.node owner).kind ≠ .schema)
    (sealed : start.Sealed pass.model owner) (kind : Symbols) :
    start.Sealed next.model owner ∧
      next.model.scopes.table (start.node owner).scope kind =
        pass.model.scopes.table (start.node owner).scope kind := by
  induction reaches with
  | refl => exact ⟨sealed, rfl⟩
  | tail before step ih =>
      have along := Reaches.scheduled before poised scheduled
      exact ⟨step.sealed ih.1, (step.table poised along plain ih.1 kind).trans ih.2⟩

end

def Finishes (pass next : Pass) (call : Call) : Prop :=
  Step pass next ∧ pass.calls = call :: next.calls

section

variable {start : Model} {pass : Pass} {call : Call} {outer : List Call}

theorem Scheduled.fed (scheduled : Scheduled start pass) (calls : pass.calls = call :: outer)
    (plain : (start.node call.node).kind.isBoundary = false) {task : TaskId}
    (inside : task.index < start.queue.size) (apart : task ≠ call.task)
    (feeds : start.Feeds (start.queue.get task).node call.node) : pass.model.IsDone task := by
  have behind := scheduled.behind
  have placed := scheduled.placed call (by rw [calls]; exact List.mem_cons_self)
  rw [calls] at behind
  rw [placed] at plain feeds
  exact (behind _ List.mem_cons_self).settled.1 task ⟨apart, inside, plain, feeds⟩

theorem Scheduled.awaited (gathered : start.Gathered) (scheduled : Scheduled start pass)
    (calls : pass.calls = call :: outer) (todo : pass.todo = []) {target : NodeId}
    (awaits : call.remainder.awaited = some target) {task : TaskId}
    (inside : task.index < start.queue.size)
    (feeds : start.Feeds (start.queue.get task).node target) : pass.model.IsDone task := by
  have front := scheduled.front
  rw [calls, todo] at front
  have member := (gathered.queued.mem_feeding target task).mpr ⟨inside, feeds⟩
  exact (front.awaited call target rfl awaits task member).resolve_right (by simp)

theorem Scheduled.sealed_node (scheduled : Scheduled start pass)
    (calls : pass.calls = call :: outer)
    (plain : (start.node call.node).kind.isBoundary = false) :
    start.Sealed pass.model call.node := by
  have member : call ∈ pass.calls := by
    rw [calls]
    exact List.mem_cons_self
  intro task inside feeds
  by_cases same : task = call.task
  · have runs := (scheduled.running task).mpr ⟨call, member, same.symm⟩
    refine Or.inr ⟨?_, by rw [runs]; decide⟩
    rw [scheduled.placed call member, same]
  · exact Or.inl (scheduled.fed calls plain inside same feeds)

/-- The body that a complete call has awaited is sealed. -/
theorem Scheduled.sealed_target (gathered : start.Gathered) (scheduled : Scheduled start pass)
    (calls : pass.calls = call :: outer) (todo : pass.todo = []) {target : NodeId}
    (awaits : call.remainder.awaited = some target) : start.Sealed pass.model target :=
  fun _ inside feeds => Or.inl (scheduled.awaited gathered calls todo awaits inside feeds)

theorem plain_of_awaited {model : Model} {id target : NodeId} {remainder : Remainder}
    (fits : model.Fits id remainder) (awaits : remainder.awaited = some target) :
    (model.node target).kind ≠ .schema := by
  intro schema
  cases remainder with
  | nothing => cases awaits
  | own => cases awaits
  | derivation => cases awaits
  | body name other members =>
      cases awaits
      obtain ⟨-, same, ⟨is, -⟩ | ⟨is, -⟩⟩ := fits <;> rw [schema, is] at same <;> cases same
  | inheritance how other written =>
      cases awaits
      have type := fits.2.2
      rw [schema] at type
      cases type

end

end Pass

namespace Compilation

theorem Sound.isFinished_of_feeds {read : Compilation} (sound : read.Sound) {feeder owner : NodeId}
    (finished : read.IsFinished owner) (feeds : read.model.Feeds feeder owner) :
    read.IsFinished feeder := by
  have shaped := sound.gathered.shaped
  obtain ⟨tag, document, state, source⟩ := finished
  rcases feeds with same | ⟨around, clear⟩
  · exact same ▸ ⟨tag, document, state, source⟩
  · refine ⟨?_, document, state, (shaped.of_mem_ancestors around).2.symm.trans source⟩
    cases inside : (read.model.node feeder).parent with
    | none =>
        rw [Model.ancestors_of_root inside] at around
        cases around
    | some parent => exact shaped.tag_of_parent inside

/-- No body is copied before it is finished. When a tag passes on its own body, every other tag that
feeds this body is done; when it copies the body of another tag, every tag of a finished document
that feeds that body is done. Neither body changes any more. -/
theorem compile_copies_finished {options : Options} {fetch : Fetch} {url : Url}
    {compilation : Compilation} (compiled : compile options fetch url = .ok compilation) :
    ∃ read, gather options fetch url = .ok read ∧
      Pass.Reaches read.outset ⟨compilation.model, [], []⟩ ∧
      ∀ pass next call, Pass.Reaches read.outset pass -> pass.Finishes next call ->
        ((compilation.model.node call.node).kind.isBody = true ->
          (∀ feeder, (compilation.model.node feeder).kind.isDeferred = true ->
            feeder ≠ call.node -> compilation.model.Feeds feeder call.node ->
              feeder ∈ pass.model.order.toList) ∧
          ∀ later kind, pass.Reaches later ->
            later.model.scopes.table (compilation.model.node call.node).scope kind =
              pass.model.scopes.table (compilation.model.node call.node).scope kind) ∧
        ∀ target, call.remainder.awaited = some target -> pass.todo = [] ->
          (∀ feeder, (compilation.model.node feeder).kind.isDeferred = true ->
            compilation.IsFinished feeder -> compilation.model.Feeds feeder target ->
              feeder ∈ pass.model.order.toList) ∧
          ∀ later kind, pass.Reaches later ->
            later.model.scopes.table (compilation.model.node target).scope kind =
              pass.model.scopes.table (compilation.model.node target).scope kind := by
  obtain ⟨read, gathered, sound, rfl⟩ := compile_ok compiled
  have poised := sound.poised
  have ended := read.resolve_reaches.scheduled poised sound.scheduled
  have alike := ended.alike
  have finished := isFinished_congr alike (resolve_eq read).2
  refine ⟨read, gathered, read.resolve_reaches, fun pass next call there finishes => ?_⟩
  have scheduled := there.scheduled poised sound.scheduled
  obtain ⟨step, calls⟩ := finishes
  have member : call ∈ pass.calls := by
    rw [calls]
    exact List.mem_cons_self
  have waits := scheduled.waited poised member
  have placed := scheduled.placed call member
  have own : read.IsFinished call.node :=
    placed ▸ ((sound.isFinished_iff _).mp ⟨call.task, waits, rfl⟩).2
  have listed {task : TaskId} (waits : (read.model.queue.get task).status = .waiting)
      (done : pass.model.IsDone task) :
      (read.model.queue.get task).node ∈ pass.model.order.toList :=
    (scheduled.order _).mpr ⟨task, ⟨waits, done⟩, rfl⟩
  constructor
  · -- the tag's own body: all that feeds it stands before its task in the list at hand
    intro body
    rw [alike.kind] at body
    have plain := Kind.isBoundary_of_isBody body
    have notSchema : (read.model.node call.node).kind ≠ .schema := by
      intro schema
      rw [schema] at body
      cases body
    constructor
    · intro feeder deferred apart feeds
      rw [alike.kind] at deferred
      rw [alike.feeds] at feeds
      obtain ⟨task, waits, rfl⟩ := (sound.isFinished_iff feeder).mpr
        ⟨deferred, sound.isFinished_of_feeds own feeds⟩
      refine listed waits (scheduled.fed calls plain (Model.within_of_waits waits) ?_ feeds)
      rintro rfl
      exact apart placed.symm
    · intro later kind after
      rw [alike.scope]
      exact (after.table poised scheduled notSchema (scheduled.sealed_node calls plain) kind).2
  · -- the body of another: all that feeds it has been gone through for this call
    intro target awaits todo
    have fits := scheduled.fits call member
    have notSchema := Pass.plain_of_awaited fits awaits
    rw [scheduled.alike.kind] at notSchema
    constructor
    · intro feeder deferred tag feeds
      rw [alike.kind] at deferred
      rw [alike.feeds] at feeds
      obtain ⟨task, waits, rfl⟩ := (sound.isFinished_iff feeder).mpr
        ⟨deferred, (finished feeder).mp tag⟩
      exact listed waits (scheduled.awaited poised.gathered calls todo awaits
        (Model.within_of_waits waits) feeds)
    · intro later kind after
      rw [alike.scope]
      exact (after.table poised scheduled notSchema
        (scheduled.sealed_target poised.gathered calls todo awaits) kind).2

def groupText : String :=
  "<x:schema xmlns:x='http://www.w3.org/2001/XMLSchema'><x:group name='g'><x:sequence>" ++
    "<x:element name='a'/></x:sequence></x:group><x:group name='h'><x:choice maxOccurs='2'>" ++
      "<x:group ref='g'/><x:element name='a'/></x:choice></x:group></x:schema>"

set_option maxRecDepth 100000 in
theorem compile_copies_finished_choice :
    ∃ compilation read, compile .standard (serving groupText) someUrl = .ok compilation ∧
      gather .standard (serving groupText) someUrl = .ok read ∧
      ⟨51⟩ ∈ compilation.model.order.toList ∧
      ∀ pass next call, Pass.Reaches read.outset pass -> pass.Finishes next call ->
        call.node = ⟨51⟩ -> ⟨52⟩ ∈ pass.model.order.toList ∧ ∀ later, pass.Reaches later ->
          later.model.scopes.table (compilation.model.node ⟨51⟩).scope .elements =
            pass.model.scopes.table (compilation.model.node ⟨51⟩).scope .elements := by
  obtain ⟨compilation, compiled, -, choice, reference, fed, listed⟩ :=
    @compile_of_checked groupText (fun model => (model.node ⟨51⟩).kind = .choice ∧
      (model.node ⟨52⟩).kind.isDeferred = true ∧ ⟨51⟩ ∈ model.fed ⟨52⟩ ∧
        ⟨51⟩ ∈ model.order.toList) _ (by decide +kernel)
  obtain ⟨read, gathered, -, copies⟩ := compile_copies_finished compiled
  refine ⟨compilation, read, compiled, gathered, listed, fun pass next call there finishes same => ?_⟩
  have passes := (copies pass next call there finishes).1 (by rw [same, choice]; rfl)
  rw [same] at passes
  exact ⟨passes.1 ⟨52⟩ reference (by decide) ((Model.mem_fed ..).mp fed),
    fun later after => passes.2 later .elements after⟩

end Compilation

end XmlSchema

import XmlSchema.Proofs.Documents.Arrival
import XmlSchema.Proofs.Resolution.Progress
import XmlSchema.Proofs.Walk

set_option autoImplicit false

namespace XmlSchema

namespace Compilation

/-- A tag of a document that was read to its end. -/
def IsFinished (compilation : Compilation) (id : NodeId) : Prop :=
  compilation.model.IsTag id ∧
    ∃ document, (compilation.document document).state = .finished ∧
      (compilation.model.node id).source = (compilation.document document).source

theorem isFinished_congr {old new : Compilation} (alike : old.model.Alike new.model)
    (documents : new.documents = old.documents) (id : NodeId) :
    new.IsFinished id ↔ old.IsFinished id := by
  unfold IsFinished document
  rw [alike.isTag, alike.source, documents]

namespace Sound

variable {read : Compilation}

theorem isFinished_iff (sound : read.Sound) (id : NodeId) :
    (∃ task, (read.model.queue.get task).status = .waiting ∧
        (read.model.queue.get task).node = id) ↔
      (read.model.node id).kind.isDeferred = true ∧ read.IsFinished id := by
  constructor
  · rintro ⟨task, waits, rfl⟩
    obtain ⟨document, member⟩ := (sound.waits_iff task).mp waits
    obtain ⟨finished, listed⟩ := (mem_duties read document task).mp member
    obtain ⟨inside, source, -⟩ :=
      sound.tasks document (within_of_finished finished) task listed
    obtain ⟨tag, deferred⟩ := sound.gathered.queued.deferred task inside
    exact ⟨deferred, tag, document, finished, source⟩
  · rintro ⟨deferred, tag, document, finished, source⟩
    have within := within_of_finished finished
    obtain ⟨begun, closed⟩ := sound.finished document within finished
    have there := closed id tag source
    rw [Model.Closed, if_pos deferred] at there
    obtain ⟨task, inside, rfl⟩ := there
    obtain ⟨other, placed, listed⟩ := sound.placed task inside
    obtain ⟨-, home, -⟩ := sound.tasks other placed task listed
    obtain ⟨shared, found⟩ := Option.ne_none_iff_exists'.mp begun
    have same := sound.distinct other document placed within shared
      (by rw [← home, source, found]) found
    refine ⟨task, (sound.waits_iff task).mpr ⟨document, ?_⟩, rfl⟩
    exact (mem_duties read document task).mpr ⟨finished, same ▸ listed⟩

end Sound

end Compilation

namespace Pass

section

variable {start : Model} {model : Model}

theorem Scheduled.done (scheduled : Scheduled start ⟨model, [], []⟩) (task : TaskId) :
    model.IsDone task := by
  cases status : (model.queue.get task).status with
  | waiting => cases scheduled.front.waiting rfl task status
  | running =>
      obtain ⟨_, member, -⟩ := (scheduled.running task).mp status
      cases member
  | done => exact status

theorem Scheduled.mem_order (scheduled : Scheduled start ⟨model, [], []⟩) (id : NodeId) :
    id ∈ model.order.toList ↔
      ∃ task, (start.queue.get task).status = .waiting ∧ (start.queue.get task).node = id := by
  refine (scheduled.order id).trans ?_
  constructor
  · rintro ⟨task, worked, same⟩
    exact ⟨task, worked.1, same⟩
  · rintro ⟨task, waits, same⟩
    exact ⟨task, ⟨waits, scheduled.done task⟩, same⟩

end

theorem Scheduled.waited {start : Model} {pass : Pass} (poised : start.Poised)
    (scheduled : Scheduled start pass) {call : Call} (member : call ∈ pass.calls) :
    (start.queue.get call.task).status = .waiting := by
  by_contra idle
  have runs := (scheduled.running call.task).mpr ⟨call, member, rfl⟩
  cases (scheduled.idle call.task (poised.idle call.task idle)).symm.trans runs

end Pass

namespace Compilation

namespace Sound

variable {read : Compilation}

theorem ended (sound : read.Sound) :
    Pass.Scheduled read.model ⟨read.resolve.model, [], []⟩ :=
  read.resolve_reaches.scheduled sound.poised sound.scheduled

theorem mem_order_resolve (sound : read.Sound) (id : NodeId) :
    id ∈ read.resolve.model.order.toList ↔
      (read.resolve.model.node id).kind.isDeferred = true ∧ read.resolve.IsFinished id := by
  rw [isFinished_congr sound.ended.alike (resolve_eq read).2, sound.ended.alike.kind,
    ← sound.isFinished_iff]
  exact sound.ended.mem_order id

theorem isResolved (sound : read.Sound) {id : NodeId} (tag : read.resolve.IsFinished id) :
    (read.resolve.model.node id).isResolved = true := by
  rw [sound.ended.resolved id]
  by_cases deferred : (read.resolve.model.node id).kind.isDeferred = true
  next => exact Or.inr ((sound.mem_order_resolve id).mpr ⟨deferred, tag⟩)
  next =>
    obtain ⟨isTag, document, state, source⟩ :=
      (isFinished_congr sound.ended.alike (resolve_eq read).2 id).mp tag
    have closed := (sound.finished document (within_of_finished state) state).2 id isTag source
    rw [sound.ended.alike.kind] at deferred
    rw [Model.Closed, if_neg deferred] at closed
    exact Or.inl closed

end Sound

theorem agenda_of_edgeless {compilation : Compilation}
    (alone : ∀ index < compilation.documents.size, (compilation.document ⟨index⟩).dependencies = #[]) :
    compilation.agenda =
      (List.range compilation.documents.size).flatMap fun index => compilation.duties ⟨index⟩ := by
  have edgeless (index : Nat) (member : index ∈ List.range compilation.documents.size) :
      compilation.graph.successors index = [] := by
    simp [Graph.successors, graph, alone index (List.mem_range.mp member)]
  rw [agenda, order, Graph.postorder_of_edgeless List.nodup_range edgeless, List.flatMap_map]

/-- The second pass ends; it works on the deferred tags of finished documents only, on each of them
once, and leaves nothing of these documents unresolved. -/
theorem compile_resolves {options : Options} {fetch : Fetch} {url : Url}
    {compilation : Compilation} (compiled : compile options fetch url = .ok compilation) :
    ∃ read, gather options fetch url = .ok read ∧
      Pass.Reaches read.outset ⟨compilation.model, [], []⟩ ∧
      WellFounded (fun next pass : Pass => pass.Step next) ∧
      compilation.model.order.toList.Nodup ∧
      (∀ id, id ∈ compilation.model.order.toList ↔
        (compilation.model.node id).kind.isDeferred = true ∧ compilation.IsFinished id) ∧
      (∀ id, compilation.IsFinished id -> (compilation.model.node id).isResolved = true) ∧
      ∀ pass, Pass.Reaches read.outset pass -> ∀ call ∈ pass.calls,
        compilation.IsFinished call.node ∧
          ∀ document, (compilation.document document).state = .failed ->
            call.task ∉ (compilation.document document).tasks := by
  obtain ⟨read, gathered, sound, rfl⟩ := compile_ok compiled
  refine ⟨read, gathered, read.resolve_reaches, Pass.wellFounded_step, sound.ended.nodup,
    sound.mem_order_resolve, fun id => sound.isResolved, fun pass there call member => ?_⟩
  have documents := (resolve_eq read).2
  have along := there.scheduled sound.poised sound.scheduled
  have waits := along.waited sound.poised member
  rw [isFinished_congr sound.ended.alike documents, along.placed call member]
  refine ⟨((sound.isFinished_iff _).mp ⟨call.task, waits, rfl⟩).2, fun document failed listed => ?_⟩
  rw [document_congr documents] at failed listed
  have within := Sound.within_of_ended (by rw [failed]; decide)
  obtain ⟨-, -, status⟩ := sound.tasks document within call.task listed
  rw [failed, if_neg (by decide), waits] at status
  cases status

def serving (text : String) : Fetch := fun url => .ok ⟨text.toUTF8.toList, url⟩

-- a run over a text is checked along the list of its bytes, for their places take too long
theorem toList_bytes (bytes : ByteArray) : bytes.toList = bytes.data.toList := by
  have loop (i : Nat) (read : List UInt8) :
      ByteArray.toList.loop bytes i read = read.reverse ++ bytes.data.toList.drop i := by
    induction i, read using ByteArray.toList.loop.induct bytes with
    | case1 i read before ih =>
        have inside : i < bytes.data.toList.length := before
        have byte : bytes.get! i = bytes.data.toList[i] := getElem!_pos bytes.data i inside
        rw [ByteArray.toList.loop, if_pos before, ih, List.drop_eq_getElem_cons inside, byte]
        simp
    | case2 i read past =>
        have size : bytes.size = bytes.data.toList.length := rfl
        rw [ByteArray.toList.loop, if_neg past, List.drop_eq_nil_of_le (by omega)]
        simp
  exact loop 0 []

theorem serving_eq (text : String) :
    serving text = fun url => .ok ⟨text.toUTF8.data.toList, url⟩ := by
  unfold serving
  rw [toList_bytes]

def someUrl : Url := { (default : Url) with scheme := "mem", path := .plain "a".toList }

def rootUrl : Url := { (default : Url) with scheme := "mem", path := .rooted "/a.xsd".toList }

/-- The first task has been started on. -/
def entered (read : Compilation) (rest : List TaskId) : Pass := Pass.enter read.model ⟨0⟩ rest []

theorem reaches_entered {read : Compilation} {rest : List TaskId}
    (agenda : read.agenda = ⟨0⟩ :: rest) (waits : (read.model.queue.get ⟨0⟩).status = .waiting) :
    Pass.Reaches read.outset (entered read rest) := by
  rw [outset, agenda]
  exact .single (.enter read.model ⟨0⟩ rest [] waits)

/-- A type that refers to a group before the group is declared, and the group to one of an included
document. -/
def drainingText : String :=
  "<schema xmlns='http://www.w3.org/2001/XMLSchema' xmlns:t='t' targetNamespace='t'>" ++
    "<include schemaLocation='b.xsd'/><complexType name='c'><group ref='t:g'/></complexType>" ++
      "<group name='g'><sequence><group ref='t:h'/></sequence></group></schema>"

/-- A document with a group, and then with an element whose name cannot be a name. -/
def drainedText : String :=
  "<schema xmlns='http://www.w3.org/2001/XMLSchema' targetNamespace='t'><group name='h'>" ++
    "<sequence><element name='e'/></sequence></group><element name='1'/></schema>"

def servingDrained : Fetch := fun url =>
  if url.text = rootUrl.text then .ok ⟨drainingText.toUTF8.toList, rootUrl⟩
  else .ok ⟨drainedText.toUTF8.toList, url⟩

/-- The first task has been started on, and the first of those that feed the group it refers to. -/
def drained (read : Compilation) : Pass :=
  let outer := entered read [⟨1⟩, ⟨2⟩, ⟨3⟩]
  Pass.enter outer.model ⟨1⟩ [⟨2⟩, ⟨3⟩] outer.calls

set_option maxRecDepth 100000 in
/-- A reference is worked on inside the work on another. Of what would feed the group that it refers
to nothing is ever worked on, since the document of that group has failed. -/
theorem compile_resolves_drained :
    ∃ compilation read, compile .standard servingDrained rootUrl = .ok compilation ∧
      Pass.Reaches read.outset (drained read) ∧
      Pass.Reaches (drained read) ⟨compilation.model, [], []⟩ ∧
      (drained read).calls.map Call.node = [⟨52⟩, ⟨49⟩] ∧
      (compilation.model.node ⟨52⟩).isResolved = true ∧
      (compilation.model.node ⟨49⟩).isResolved = true ∧
      (compilation.document ⟨1⟩).state = .failed ∧
      (drained read).todo = [⟨4⟩, ⟨5⟩, ⟨6⟩] ∧
      ∀ pass, Pass.Reaches read.outset pass -> ∀ call ∈ pass.calls,
        call.task ∉ (drained read).todo := by
  obtain ⟨read, gathered, size, alone, root, broken, waits, todo, inner, calls, fed, failed, tasks⟩ :=
    @gather_of_served .standard servingDrained rootUrl (fun read => read.documents.size = 2 ∧
      (∀ index < read.documents.size, (read.document ⟨index⟩).dependencies = #[]) ∧
      read.duties ⟨0⟩ = [⟨0⟩, ⟨1⟩, ⟨2⟩, ⟨3⟩] ∧ read.duties ⟨1⟩ = [] ∧
      (read.model.queue.get ⟨0⟩).status = .waiting ∧
      (entered read [⟨1⟩, ⟨2⟩, ⟨3⟩]).todo = [⟨1⟩, ⟨2⟩, ⟨3⟩] ∧
      ((entered read [⟨1⟩, ⟨2⟩, ⟨3⟩]).model.queue.get ⟨1⟩).status = .waiting ∧
      (drained read).calls.map Call.node = [⟨52⟩, ⟨49⟩] ∧ (drained read).todo = [⟨4⟩, ⟨5⟩, ⟨6⟩] ∧
      (read.document ⟨1⟩).state = .failed ∧ (read.document ⟨1⟩).tasks = #[⟨4⟩, ⟨5⟩, ⟨6⟩]) _ 1 (by
        unfold servingDrained
        rw [toList_bytes, toList_bytes]
        decide +kernel)
  have compiled : compile .standard servingDrained rootUrl = .ok read.resolve :=
    compile_of_gather gathered
  have agenda : read.agenda = [⟨0⟩, ⟨1⟩, ⟨2⟩, ⟨3⟩] := by
    rw [agenda_of_edgeless alone, size]
    simp [List.range_succ, root, broken]
  have reaches : Pass.Reaches read.outset (drained read) :=
    (reaches_entered agenda waits).tail (.of_waiting todo inner)
  obtain ⟨_, same, ends, -, -, -, resolved, runs⟩ := compile_resolves compiled
  cases gathered.symm.trans same
  have open_ (id : NodeId) (member : id ∈ (drained read).calls.map Call.node) :
      (read.resolve.model.node id).isResolved = true := by
    obtain ⟨call, inside, rfl⟩ := List.mem_map.mp member
    exact resolved _ (runs _ reaches call inside).1
  have document := document_congr (resolve_eq read).2 ⟨1⟩
  refine ⟨read.resolve, read, compiled, reaches, reaches.through ends, calls, open_ _ ?_, open_ _ ?_,
    by rw [document, failed], fed, fun pass there call member listed => ?_⟩
  · rw [calls]
    exact List.mem_cons_self
  · rw [calls]
    exact List.mem_cons_of_mem _ List.mem_cons_self
  · refine (runs pass there call member).2 ⟨1⟩ (by rw [document, failed]) ?_
    rw [document, tasks]
    rw [fed] at listed
    simpa using listed

def Intact (compilation : Compilation) : Prop :=
  ∀ document : DocumentId, (compilation.document document).state ≠ .failed

theorem Sound.isFinished_of_intact {read : Compilation} (sound : read.Sound)
    (intact : read.resolve.Intact) {id : NodeId} (tag : read.resolve.model.IsTag id) :
    read.resolve.IsFinished id := by
  have documents := (resolve_eq read).2
  rw [isFinished_congr sound.ended.alike documents]
  have before := (sound.ended.alike.isTag id).mp tag
  obtain ⟨document, within, source⟩ := sound.owner id before
  refine ⟨before, document, (sound.read document within).resolve_right fun failed => ?_, source⟩
  exact intact document ((congrArg Document.state (document_congr documents document)).trans failed)

/-- A root document that was read to its end and asks for no other. -/
def Alone (gathering : Gathering) : Prop :=
  gathering.requests = [] ∧ gathering.compilation.documents.size = 1 ∧
    (gathering.compilation.document ⟨0⟩).dependencies = #[] ∧
      (gathering.compilation.document ⟨0⟩).state = .finished

instance (gathering : Gathering) : Decidable (Alone gathering) :=
  inferInstanceAs (Decidable (_ ∧ _ ∧ _ ∧ _))

theorem compile_of_alone {options : Options} {fetch : Fetch} {url : Url} {gathering : Gathering}
    (started : Gathering.start options fetch url = .ok gathering) (alone : Alone gathering) :
    ∃ compilation, compile options fetch url = .ok compilation ∧
      compilation.documents = gathering.compilation.documents ∧
      compilation.model =
        gathering.compilation.model.runAll (gathering.compilation.duties ⟨0⟩) := by
  obtain ⟨requests, size, dependencies, -⟩ := alone
  obtain ⟨model, documents⟩ := resolve_eq gathering.compilation
  refine ⟨gathering.compilation.resolve, ?_, documents, ?_⟩
  · unfold compile
    rw [started, Except.map, requests, Gathering.run]
  · have edgeless (index : Nat) (within : index < gathering.compilation.documents.size) :
        (gathering.compilation.document ⟨index⟩).dependencies = #[] := by
      rw [size, Nat.lt_one_iff] at within
      exact within ▸ dependencies
    rw [model, agenda_of_edgeless edgeless, size]
    simp

theorem intact_of_alone {gathering : Gathering} (alone : Alone gathering)
    {compilation : Compilation}
    (documents : compilation.documents = gathering.compilation.documents) :
    compilation.Intact := by
  obtain ⟨-, size, -, finished⟩ := alone
  intro document failed
  rw [document_congr documents] at failed
  have within := Sound.within_of_ended (by rw [failed]; decide)
  obtain ⟨index⟩ := document
  rw [size] at within
  cases Nat.lt_one_iff.mp within
  cases finished.symm.trans failed

theorem compile_of_checked {text : String} {holds : Model -> Prop} [DecidablePred holds]
    (checked : (Gathering.start .standard (fun url => .ok ⟨text.toUTF8.data.toList, url⟩)
      someUrl).toOption.any (fun gathering => Alone gathering ∧
        holds (gathering.compilation.model.runAll (gathering.compilation.duties ⟨0⟩))) = true) :
    ∃ compilation, compile .standard (serving text) someUrl = .ok compilation ∧
      compilation.Intact ∧ holds compilation.model := by
  rw [← serving_eq] at checked
  cases started : Gathering.start .standard (serving text) someUrl with
  | error failure =>
      rw [started] at checked
      cases checked
  | ok gathering =>
      rw [started] at checked
      obtain ⟨alone, there⟩ := of_decide_eq_true checked
      obtain ⟨compilation, compiled, documents, model⟩ := compile_of_alone started alone
      exact ⟨compilation, compiled, intact_of_alone alone documents, model ▸ there⟩

end Compilation

end XmlSchema

import XmlSchema.Proofs.Arenas
import XmlSchema.Proofs.Reading.Builtins

set_option autoImplicit false

namespace XmlSchema

namespace Scopes

theorem change_eq_self (scopes : Scopes) (id : ScopeId) {f : Scope -> Scope}
    (same : ∀ scope, f scope = scope) : scopes.change id f = scopes := by
  obtain ⟨all⟩ := scopes
  refine congrArg Scopes.mk (Array.ext (Array.size_modify ..) fun index _ _ => ?_)
  rw [Array.getElem_modify]
  split
  · exact same _
  · rfl

theorem inlineInto_of_empty (scopes : Scopes) {source : ScopeId} {kind : Symbols}
    (nothing : scopes.table source kind = .empty) (target : ScopeId) (factor : Occurs)
    (inherited : Bool) : scopes.inlineInto target kind factor source inherited = scopes := by
  unfold inlineInto
  rw [nothing]
  refine change_eq_self scopes target fun scope => ?_
  cases kind <;> rfl

end Scopes

namespace Model

variable {old new model : Model} {id : NodeId}

theorem above_of_bears (shaped : model.Shaped) {kind : Symbols} {name : QName} {target : NodeId}
    (bears : model.Bears kind name target) (other : kind ≠ .types) :
    Builtin.nodes.length ≤ target.index := by
  refine Nat.not_lt.mp fun below => ?_
  have type := (shaped.primitive target below).2
  have symbols := bears.2
  cases is : (model.node target).kind <;> rw [is] at type symbols <;> cases type <;>
    exact other (Option.some.inj symbols).symm

namespace Spares

theorem noted (nodes : new.nodes = old.nodes) (noted : old.Noted new) : old.Spares new :=
  of_nodes nodes (by rw [noted.scopes])

theorem follow (model : Model) (id : NodeId) (kind : Symbols) (written : String) :
    model.Spares (model.follow id kind written).1 :=
  noted (nodes_follow ..) (.follow ..)

theorem prepare (raised : model.Raised id) (shaped : model.Shaped) (filed : model.Filed) :
    model.Spares (model.prepare id).1 := by
  obtain ⟨found, reached, -⟩ := Inquiry.Reached.prepare model id
  refine reached.keeps (P := fun inquiry => model.Spares inquiry.model) (refl model) ?_
  intro one two reached step before
  have still := raised.alike reached.alike
  have received {kind : Kind} {owner : NodeId} (receives : model.Receives id kind owner) :
      Builtin.nodes.length ≤ owner.index := by
    rcases receives with rfl | ⟨-, around⟩
    · exact raised.self
    · exact (raised.enclosing around).1
  refine before.trans ?_
  cases step with
  | follow after found kind written =>
      dsimp only
      exact follow after id kind written
  | @member after found kind name target =>
      have told : after.Spares (after.changeNode id fun node =>
          { node with referent := some target }) := changeNode after raised.self _
      refine told.trans (define _ ?_ ..)
      exact still.surrounding
  | group => exact changeNode _ raised.self _
  | type receives => exact changeNode _ (received receives) _
  | members receives => exact changeNode _ (received receives) _
  | head there =>
      -- an element may stand in for elements, and none of them is built in
      have bears := (reached.filed filed).bears there
      exact changeNode _ (above_of_bears shaped bears (by decide)) _

theorem inlineEach (model : Model) {target : ScopeId} (apart : target ≠ Builtin.scope)
    (kinds : List Symbols) (factor : Occurs) (source : ScopeId) (inherited : Bool) :
    model.Spares
      { model with scopes := model.scopes.inlineEach kinds target factor source inherited } := by
  induction kinds generalizing model with
  | nil => exact refl model
  | cons kind rest ih => exact (changeScope model apart _).trans (ih _)

theorem finish (raised : model.Raised id) (remainder : Remainder) (complete : Bool) :
    model.Spares (model.finish id remainder complete) := by
  refine (Remainder.Steps.finish model id remainder complete).keeps
    (P := model.Spares) (refl model) ?_
  intro one two steps step before
  have still := raised.alike steps.alike
  refine before.trans ?_
  cases step with
  | copy around =>
      obtain ⟨outer, same, apart⟩ := raised.outside
      cases same.symm.trans around
      exact inlineEach one apart ..
  | inherit around => exact inlineEach one (raised.enclosing around).2 ..
  | base _ around => exact changeNode one (raised.enclosing around).1 _
  | report => exact of_nodes rfl rfl
  | content => exact markWildcard still _
  | attributes => exact markWildcard still _

theorem complete (model : Model) (above : Builtin.nodes.length ≤ id.index) (task : TaskId) :
    model.Spares (model.complete task id) :=
  ⟨rfl, (changeNode (model.mark .done task) above _).nodes⟩

end Spares

end Model

namespace Pass

variable {start : Model} {pass next : Pass}

theorem Scheduled.raised (scheduled : Scheduled start pass) (gathered : start.Gathered)
    {task : TaskId} (within : task.index < start.queue.size) :
    pass.model.Raised (start.queue.get task).node := by
  obtain ⟨tag, deferred⟩ := gathered.queued.deferred task within
  refine (Model.Raised.of_shaped gathered.shaped tag fun schema => ?_).alike scheduled.alike
  rw [schema] at deferred
  cases deferred

theorem Scheduled.spares_leave {model : Model} {todo : List TaskId} {call : Call}
    {outer : List Call} (scheduled : Scheduled start ⟨model, todo, call :: outer⟩)
    (gathered : start.Gathered) (complete : Bool) :
    model.Spares (Pass.leave model call outer complete).model := by
  have runs := (scheduled.running call.task).mpr ⟨call, List.mem_cons_self, rfl⟩
  have raised := scheduled.raised gathered
    (scheduled.alike.tasks ▸ Queue.within_of_running runs)
  rw [← scheduled.placed call List.mem_cons_self] at raised
  exact (Model.Spares.finish raised ..).trans (.complete _ raised.self call.task)

theorem Step.spares (step : Step pass next) (poised : start.Poised)
    (scheduled : Scheduled start pass) : pass.model.Spares next.model := by
  have gathered := poised.gathered
  cases step with
  | skip => exact .refl _
  | ignore => exact .refl _
  | leave => exact scheduled.spares_leave gathered true
  | circle => exact scheduled.spares_leave gathered false
  | enter model task rest calls waits =>
      have marked := Model.Alike.mark model .running task
      have alike := scheduled.alike.trans marked
      have inside : task.index < start.queue.size :=
        scheduled.alike.tasks ▸ Model.within_of_waits waits
      have raised := (scheduled.raised gathered inside).alike marked
      rw [← scheduled.alike.task] at raised
      have prepared := Model.Spares.prepare raised (alike.shaped gathered.shaped) scheduled.filed
      exact ⟨prepared.scope, prepared.nodes⟩

theorem Reaches.spares (reaches : Reaches pass next) (poised : start.Poised)
    (scheduled : Scheduled start pass) : pass.model.Spares next.model := by
  induction reaches with
  | refl => exact .refl _
  | tail before step ih =>
      exact ih.trans (step.spares poised (Reaches.scheduled before poised scheduled))

end Pass

namespace Model

variable {model : Model}

/-- The layer below all documents: the built-in types as installed, in a scope of nothing else. -/
structure Primitive (model : Model) : Prop where
  types : model.scopes.table Builtin.scope .types = Builtin.table
  others : ∀ kind, kind ≠ .types -> model.scopes.table Builtin.scope kind = .empty
  unmarked : model.scopes.typeOf Builtin.scope = none
  nodes : ∀ id : NodeId, id.index < Builtin.nodes.length ->
    Builtin.nodes[id.index]? = some (model.node id)

theorem primitive_empty : empty.Primitive where
  types := by
    rw [table_empty_eq]
    rfl
  others kind other := by
    rw [table_empty_eq]
    cases kind <;> first | rfl | exact absurd rfl other
  unmarked := by
    rcases scopes_empty with same | ⟨home, same⟩ <;> rw [same]
    · rfl
    · exact Scopes.typeOf_create ..
  nodes id below := by
    rw [node, List.getElem?_eq_getElem below]
    simp [empty, List.getElem?_eq_getElem below]

theorem Primitive.spared {old new : Model} (primitive : old.Primitive) (spares : old.Spares new) :
    new.Primitive := by
  have table (kind : Symbols) : new.scopes.table Builtin.scope kind =
      old.scopes.table Builtin.scope kind := by
    rw [Scopes.table, spares.scope, ← Scopes.table]
  refine ⟨(table _).trans primitive.types, fun kind other => (table kind).trans
    (primitive.others kind other), ?_, fun id below => ?_⟩
  · rw [Scopes.typeOf, spares.scope]
    exact primitive.unmarked
  · rw [spares.nodes id below]
    exact primitive.nodes id below

theorem Primitive.inherit (primitive : model.Primitive) {target : NodeId}
    (builtin : target.index < Builtin.nodes.length) (owner : NodeId) :
    model.inherit owner target = model := by
  have scope : (model.node target).scope = Builtin.scope := by
    obtain ⟨localName, -, same⟩ :=
      List.mem_map.mp (List.mem_of_getElem? (primitive.nodes target builtin))
    rw [← same]
    rfl
  have each (kinds : List Symbols) (among : ∀ kind ∈ kinds, kind ≠ .types) (into : ScopeId) :
      model.scopes.inlineEach kinds into .once Builtin.scope true = model.scopes := by
    induction kinds with
    | nil => rfl
    | cons kind rest ih =>
        obtain ⟨first, others⟩ := List.forall_mem_cons.mp among
        rw [Scopes.inlineEach, List.foldl_cons,
          Scopes.inlineInto_of_empty _ (primitive.others kind first)]
        exact ih others
  have all := each inheritedKinds (by decide) (model.node owner).scope
  unfold Model.inherit
  dsimp only
  rw [scope]
  exact congrArg (fun scopes => { model with scopes := scopes }) all

theorem Primitive.derive (primitive : model.Primitive) {target : NodeId}
    (builtin : target.index < Builtin.nodes.length) (id : NodeId) (how : Derivation)
    (base : Option TypeRef) :
    model.derive id how base (some target) = model.derive id how base none := by
  unfold Model.derive
  simp only [primitive.inherit builtin]

end Model

namespace Stage

variable {options : Options} {fetch : Fetch} {url : Url} {adopted : Option String}
  {old : Compilation} {requests : List Request} {stage : Stage}

theorem Loads.primitive (loads : Loads options fetch old requests url adopted stage)
    (changes : Compilation.Changes options fetch .empty old) (plain : adopted ≠ some "") :
    stage.model.Primitive := by
  have before := Model.primitive_empty.spared changes.spares
  cases loads with
  | before => exact before
  | @reading fetched count reading takes reads =>
      have read := Compilation.spares_reading changes.sound options url (options.grants adopted)
        fetched.canonical ((Markup.scan fetched.bytes).items.take count)
      rw [← reads] at read
      exact before.spared read
  | after =>
      exact Model.primitive_empty.spared (Compilation.Changes.spares
        (changes.trans (Compilation.changes_load options fetch old url plain)))

theorem Arises.primitive (arises : Arises options fetch url stage) : stage.model.Primitive := by
  cases arises with
  | root loads => exact loads.primitive .refl nofun
  | settled arrives => exact Model.primitive_empty.spared arrives.changes.spares
  | request arrives loads =>
      have asked := arrives.changes_requests.2 _ List.mem_cons_self
      exact loads.primitive arrives.changes (asked.adopted_ne arrives.reads)
  | work gathered reaches =>
      have changes := (Compilation.gather_arrives gathered).changes
      have sound := changes.sound
      exact (Model.primitive_empty.spared changes.spares).spared
        (reaches.spares sound.poised sound.scheduled)

/-- The built-in types stay as installed in every state of every compilation, whatever the documents
declare and whether they are read to their end: their scope has them in its table of types, and
nothing else in any table. So deriving from one of them brings no member into the derived type. -/
theorem arises_primitive (arises : Arises options fetch url stage) :
    stage.model.Primitive ∧ ∀ target : NodeId, target.index < Builtin.nodes.length ->
      (∀ owner, stage.model.inherit owner target = stage.model) ∧
        ∀ id how base, stage.model.derive id how base (some target) =
          stage.model.derive id how base none :=
  ⟨arises.primitive, fun _ builtin =>
    ⟨arises.primitive.inherit builtin, arises.primitive.derive builtin⟩⟩

def intrudingText : String :=
  "<schema xmlns='http://www.w3.org/2001/XMLSchema' " ++
    "targetNamespace='http://www.w3.org/2001/XMLSchema'><complexType><attribute name='a'/>" ++
      "</complexType><simpleType name='s'><restriction base='string'/></simpleType></schema>"

set_option maxRecDepth 100000 in
/-- The nameless type and the name go into the scope of the namespace, where nothing looks for what
a type takes over from the built-in one. -/
theorem arises_primitive_intruding :
    ∃ stage, Arises .standard (Compilation.serving intrudingText) Compilation.someUrl stage ∧
      stage.model.scopes.typeOf ⟨1⟩ = some ⟨47⟩ ∧
      (stage.model.scopes.table ⟨1⟩ .types).get? (.inNamespace schemaUri "s") =
        some ⟨⟨49⟩, .once, false⟩ ∧
      (stage.model.node ⟨49⟩).base = some (.resolved ⟨2⟩) ∧
      stage.model.Primitive ∧ stage.model.inherit ⟨49⟩ ⟨2⟩ = stage.model := by
  obtain ⟨compilation, compiled, -, marked, named, base⟩ :=
    @Compilation.compile_of_checked intrudingText (fun model =>
      model.scopes.typeOf ⟨1⟩ = some ⟨47⟩ ∧
        (model.scopes.table ⟨1⟩ .types).get? (.inNamespace schemaUri "s") =
          some ⟨⟨49⟩, .once, false⟩ ∧
        (model.node ⟨49⟩).base = some (.resolved ⟨2⟩)) _ (by decide +kernel)
  obtain ⟨stage, arises, same⟩ := reached_arises (Compilation.reached_compile compiled)
  obtain ⟨primitive, derived⟩ := arises_primitive arises
  have builtin : (⟨2⟩ : NodeId).index < Builtin.nodes.length := by decide
  rw [← same] at marked named base
  exact ⟨stage, arises, marked, named, base, primitive, (derived ⟨2⟩ builtin).1 ⟨49⟩⟩

end Stage

end XmlSchema

import XmlSchema.Proofs.Reading.Targets
import XmlSchema.Proofs.Resolution.Completion
import XmlSchema.Proofs.Resolution.Records

set_option autoImplicit false

namespace XmlSchema

namespace Scopes

theorem typeOf_foldl {step : Scopes -> Symbols -> Scopes} {id : ScopeId}
    (same : ∀ scopes kind, (step scopes kind).typeOf id = scopes.typeOf id) (kinds : List Symbols)
    (scopes : Scopes) : (kinds.foldl step scopes).typeOf id = scopes.typeOf id := by
  induction kinds generalizing scopes with
  | nil => rfl
  | cons kind rest ih => exact (ih _).trans (same scopes kind)

theorem typeOf_inlineEach (scopes : Scopes) (kinds : List Symbols) (target : ScopeId)
    (factor : Occurs) (source : ScopeId) (inherited : Bool) (id : ScopeId) :
    (scopes.inlineEach kinds target factor source inherited).typeOf id = scopes.typeOf id :=
  typeOf_foldl (fun _ _ => typeOf_changeTable ..) kinds scopes

end Scopes

namespace Remainder

def target? (remainder : Remainder) : Option NodeId := remainder.base?.join.bind TypeRef.target?

theorem target?_of_base {remainder : Remainder} {base : Option TypeRef}
    (given : remainder.base? = some base) : remainder.target? = base.bind TypeRef.target? := by
  rw [target?, given, Option.join_some]

end Remainder

namespace Model

def Places (model : Model) (type : Option TypeRef) : Prop :=
  ∀ target, type.bind TypeRef.target? = some target -> target.index < model.nodes.size

variable {model new : Model} {id : NodeId}

theorem within_of_bears {kind : Symbols} {name : QName} {target : NodeId}
    (bears : model.Bears kind name target) : target.index < model.nodes.size := by
  refine Nat.not_le.mp fun outside => ?_
  have named := bears.1
  rw [node_of_size_le model outside] at named
  cases named

theorem typeOf_congr (scopes : new.scopes = model.scopes) (scope : ScopeId) :
    new.scopes.typeOf scope = model.scopes.typeOf scope := by rw [scopes]

theorem contained_follow (contained : model.Contained) (kind : Symbols) (written : String) :
    (model.follow id kind written).1.Contained :=
  contained.withScopes (nodes_follow ..) (typeOf_congr (Noted.follow model id kind written).scopes)

theorem typeOf_of_namelessType {target : NodeId}
    (leads : (model.namelessType id).bind TypeRef.target? = some target) :
    model.scopes.typeOf (model.node id).scope = some target := by
  unfold namelessType at leads
  cases marked : model.scopes.typeOf (model.node id).scope with
  | none =>
      rw [marked] at leads
      cases leads
  | some type =>
      rw [marked] at leads
      cases leads
      rfl

theorem places_namelessType (contained : model.Contained) (id : NodeId) :
    model.Places (model.namelessType id) :=
  fun _ leads => contained.markers _ _ (typeOf_of_namelessType leads)

theorem Places.congr {type : Option TypeRef} (places : model.Places type)
    (size : new.nodes.size = model.nodes.size) : new.Places type :=
  fun target leads => size ▸ places target leads

namespace Contained

theorem setReferent (contained : model.Contained) (id : NodeId) {target : NodeId}
    (within : target.index < model.nodes.size) :
    (model.changeNode id fun node => { node with referent := some target }).Contained := by
  refine contained.changeNode id fun other member => ?_
  simp only [Node.targets, Node.types, List.mem_append, Option.toList_some,
    List.mem_singleton] at member ⊢
  rcases member with (rfl | before) | before
  · exact .inr within
  · exact .inl (.inl (.inr before))
  · exact .inl (.inr before)

theorem setTypeRef (contained : model.Contained) (id : NodeId) {type : Option TypeRef}
    (places : model.Places type) : (model.setType id type).Contained := by
  refine contained.changeNode id fun other member => ?_
  simp only [Node.targets, Node.types, List.filterMap_append, List.mem_append] at member ⊢
  rcases member with before | (new | before) | before
  · exact .inl (.inl before)
  · obtain ⟨given, there, leads⟩ := List.mem_filterMap.mp new
    rw [Option.mem_toList.mp there] at places
    exact .inr (places other leads)
  · exact .inl (.inr (.inl (.inr before)))
  · exact .inl (.inr (.inr before))

theorem setBase (contained : model.Contained) (owner : NodeId) (how : Derivation)
    {base : Option TypeRef} (places : model.Places base) :
    (model.setBase owner how base).Contained := by
  refine contained.changeNode owner fun other member => ?_
  simp only [Node.targets, Node.types, List.filterMap_append, List.mem_append] at member ⊢
  rcases member with before | (before | new) | before
  · exact .inl (.inl before)
  · exact .inl (.inr (.inl (.inl before)))
  · obtain ⟨given, there, leads⟩ := List.mem_filterMap.mp new
    rw [Option.mem_toList.mp there] at places
    exact .inr (places other leads)
  · exact .inl (.inr (.inr before))

theorem setMemberTypes (contained : model.Contained) (id : NodeId) {types : List TypeRef}
    (places : ∀ type ∈ types, model.Places (some type)) :
    (model.setMemberTypes id types).Contained := by
  refine contained.changeNode id fun other member => ?_
  simp only [Node.targets, Node.types, List.filterMap_append, List.mem_append] at member ⊢
  rcases member with before | before | new
  · exact .inl (.inl before)
  · exact .inl (.inr (.inl before))
  · obtain ⟨given, there, leads⟩ := List.mem_filterMap.mp new
    exact .inr (places given there other leads)

theorem addSubstitute (contained : model.Contained) (head : NodeId)
    (inside : id.index < model.nodes.size) :
    (model.changeNode head fun node =>
      { node with substitutes := node.substitutes ++ [id] }).Contained := by
  refine contained.changeNode head fun other member => ?_
  simp only [Node.targets, Node.types, List.mem_append, List.mem_singleton] at member ⊢
  rcases member with (before | before | rfl) | before
  · exact .inl (.inl (.inl before))
  · exact .inl (.inl (.inr before))
  · exact .inr inside
  · exact .inl (.inr before)

theorem memberTypes (contained : model.Contained) (id : NodeId) :
    ∀ type ∈ (model.node id).memberTypes, model.Places (some type) := by
  intro type member target leads
  refine contained.targets id target ?_
  unfold Node.targets Node.types
  rw [List.filterMap_append]
  exact List.mem_append_right _
    (List.mem_append_right _ (List.mem_filterMap.mpr ⟨type, member, leads⟩))

end Contained

section

variable {found : List (Symbols × Reference)} {target : NodeId}

theorem Offers.leads {type : Option TypeRef} (offers : model.Offers id found type)
    (leads : type.bind TypeRef.target? = some target) :
    (model.namelessType id).bind TypeRef.target? = some target ∨
      ∃ name, (.types, .found name target) ∈ found := by
  rcases offers with rfl | ⟨reference, there, rfl⟩
  · exact .inl leads
  · cases reference with
    | found name other =>
        cases leads
        exact .inr ⟨name, there⟩
    | malformed => cases leads
    | absent name => cases leads

theorem Leaves.leads {remainder : Remainder} (leaves : model.Leaves id found remainder)
    (there : remainder.target? = some target) :
    (model.namelessType id).bind TypeRef.target? = some target ∨
      ∃ name, (.types, .found name target) ∈ found := by
  cases remainder with
  | derivation how base => exact Offers.leads leaves there
  | inheritance how other written =>
      cases there
      exact .inr leaves
  | nothing => cases there
  | own => cases there
  | body => cases there

end

theorem contained_prepare (contained : model.Contained) (filed : model.Filed)
    (tag : model.IsTag id) :
    (model.prepare id).1.Contained ∧
      ∀ target, (model.prepare id).2.target? = some target -> target.index < model.nodes.size := by
  have within {inquiry : Inquiry} (filed : inquiry.Filed model) {target : NodeId}
      (leads : (model.namelessType id).bind TypeRef.target? = some target ∨
        ∃ name, (.types, .found name target) ∈ inquiry.found) :
      target.index < model.nodes.size := by
    rcases leads with nameless | ⟨name, there⟩
    · exact places_namelessType contained id target nameless
    · exact within_of_bears (filed.bears there)
  obtain ⟨found, reached, leaves⟩ := Inquiry.Reached.prepare model id
  refine ⟨?_, fun target there => within (reached.filed filed) (leaves.leads there)⟩
  refine reached.keeps (P := fun inquiry => inquiry.model.Contained) contained ?_
  intro one two reached step before
  have filed := reached.filed filed
  have size := reached.alike.size
  have offered {type : Option TypeRef} (offers : model.Offers id one.found type) :
      one.model.Places type :=
    Places.congr (fun target leads => within filed (offers.leads leads)) size
  have there {kind : Symbols} {name : QName} {target : NodeId}
      (found : (kind, .found name target) ∈ one.found) : target.index < one.model.nodes.size :=
    size.symm ▸ within_of_bears (filed.bears found)
  cases step with
  | follow after found kind written =>
      dsimp only
      exact contained_follow before kind written
  | member found => exact Contained.define (before.setReferent id (there found)) ..
  | group found => exact before.setReferent id (there found)
  | type _ offers => exact before.setTypeRef _ (offered offers)
  | members _ offers =>
      refine before.setMemberTypes _ fun type member => ?_
      rcases offers type member with own | offers
      · exact (contained.memberTypes id type own).congr size
      · exact offered offers
  | head => exact before.addSubstitute _ (size.symm ▸ tag.2)

namespace Contained

theorem finish (contained : model.Contained) (id : NodeId) {remainder : Remainder}
    (places : ∀ target, remainder.target? = some target -> target.index < model.nodes.size)
    (complete : Bool) : (model.finish id remainder complete).Contained := by
  refine (Remainder.Steps.finish model id remainder complete).keeps
    (P := Model.Contained) contained ?_
  intro one two steps step before
  cases step with
  | copy => exact before.withScopes rfl fun _ => Scopes.typeOf_inlineEach ..
  | inherit => exact before.withScopes rfl fun _ => Scopes.typeOf_inlineEach ..
  | base how _ given =>
      refine before.setBase _ how fun target leads => steps.alike.size.symm ▸ places target ?_
      exact (Remainder.target?_of_base given).trans leads
  | report => exact before.withScopes rfl fun _ => rfl
  | content => exact before.markWildcard id fun _ => rfl
  | attributes => exact before.markWildcard id fun _ => rfl

theorem mark (contained : model.Contained) (status : Task.Status) (task : TaskId) :
    (model.mark status task).Contained := contained.withScopes rfl fun _ => rfl

theorem complete (contained : model.Contained) (task : TaskId) (id : NodeId) :
    (model.complete task id).Contained := by
  have noted : Model.Contained ((model.mark .done task).changeNode id fun node =>
      { node with isResolved := true }) := (contained.mark .done task).noted id fun _ => rfl
  exact noted.withScopes rfl fun _ => rfl

end Contained

end Model

namespace Pass

structure Contained (pass : Pass) : Prop where
  model : pass.model.Contained
  calls : ∀ call ∈ pass.calls, ∀ target, call.remainder.target? = some target ->
    target.index < pass.model.nodes.size

variable {start : Model} {pass next : Pass}

theorem Contained.leave {model : Model} {todo : List TaskId} {call : Call} {outer : List Call}
    (contained : Contained ⟨model, todo, call :: outer⟩) (poised : start.Poised)
    (scheduled : Scheduled start ⟨model, todo, call :: outer⟩) (complete : Bool) :
    (leave model call outer complete).Contained where
  model := (contained.model.finish call.node (contained.calls call List.mem_cons_self)
    complete).complete call.task call.node
  calls other member target leads := by
    have size := (scheduled.alike_leave poised.gathered complete).size
    exact Nat.lt_of_lt_of_eq (contained.calls other (List.mem_cons_of_mem _ member) target leads)
      size.symm

theorem Step.contained (step : Step pass next) (poised : start.Poised)
    (scheduled : Scheduled start pass) (contained : pass.Contained) : next.Contained := by
  cases step with
  | skip => exact ⟨contained.model, contained.calls⟩
  | ignore => exact ⟨contained.model, contained.calls⟩
  | leave => exact contained.leave poised scheduled true
  | circle => exact contained.leave poised scheduled false
  | enter model task rest calls waits =>
      have prepared := scheduled.prepared poised.gathered waits
      have marked := Model.Alike.mark model .running task
      have alike := scheduled.alike.trans marked
      have inside : task.index < start.queue.size :=
        scheduled.alike.tasks ▸ Model.within_of_waits waits
      have tag := (poised.gathered.queued.deferred task inside).1
      rw [← scheduled.alike.task] at tag
      obtain ⟨named, awaits⟩ := Model.contained_prepare (contained.model.mark .running task)
        scheduled.filed ((alike.isTag _).mpr tag)
      refine ⟨named, fun call member target leads => ?_⟩
      refine Nat.lt_of_lt_of_eq ?_ prepared.alike.size.symm
      rcases List.mem_cons.mp member with rfl | older
      · exact awaits target leads
      · exact contained.calls call older target leads

theorem Reaches.contained (reaches : Reaches pass next) (poised : start.Poised)
    (scheduled : Scheduled start pass) (contained : pass.Contained) : next.Contained := by
  induction reaches with
  | refl => exact contained
  | tail before step ih =>
      exact step.contained poised (Reaches.scheduled before poised scheduled) ih

end Pass

namespace Compilation

theorem Sound.contained_resolve {read : Compilation} (sound : read.Sound)
    (contained : read.model.Contained) : read.resolve.model.Contained :=
  (read.resolve_reaches.contained sound.poised sound.scheduled
    ⟨contained, fun _ member => by cases member⟩).model

end Compilation

end XmlSchema

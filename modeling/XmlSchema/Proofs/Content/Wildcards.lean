import XmlSchema.Proofs.Reading.Wildcards
import XmlSchema.Proofs.Resolution.Referents

set_option autoImplicit false

namespace XmlSchema

namespace Model

structure Refers (model : Model) (id target owner : NodeId) : Prop where
  group : (model.node id).kind.isGroup = true
  referent : (model.node id).referent = some target
  around : model.enclosing id Kind.ownsWildcards = some owner

inductive Wild (model : Model) (wildcard : Wildcard) : NodeId -> Prop where
  | hosts {owner : NodeId} (hosts : model.Hosts wildcard owner) : Wild model wildcard owner
  | group {id target owner : NodeId} (refers : model.Refers id target owner)
      (inner : Wild model wildcard target) : Wild model wildcard owner

/-- As far as tags have been worked on, in turn, a wildcard reaches a node: a reference hands on
what has reached its group before. -/
inductive Marked (model : Model) (wildcard : Wildcard) : List NodeId -> NodeId -> Prop where
  | hosts {worked : List NodeId} {owner : NodeId} (hosts : model.Hosts wildcard owner) :
      Marked model wildcard worked owner
  | group {before after : List NodeId} {id target owner : NodeId}
      (refers : model.Refers id target owner) (inner : Marked model wildcard before target) :
      Marked model wildcard (before ++ id :: after) owner

section

variable {model old new : Model} {wildcard : Wildcard} {worked : List NodeId}
  {id target owner : NodeId}

theorem Marked.wild (marked : model.Marked wildcard worked owner) : model.Wild wildcard owner := by
  induction marked with
  | hosts hosts => exact .hosts hosts
  | group refers _ ih => exact .group refers ih

theorem Marked.append (marked : model.Marked wildcard worked owner) (more : List NodeId) :
    model.Marked wildcard (worked ++ more) owner := by
  cases marked with
  | hosts hosts => exact .hosts hosts
  | group refers inner =>
    rw [List.append_assoc, List.cons_append]
    exact .group refers inner

theorem marked_concat : model.Marked wildcard (worked ++ [id]) owner ↔
    model.Marked wildcard worked owner ∨
      ∃ target, model.Refers id target owner ∧ model.Marked wildcard worked target := by
  constructor
  · intro marked
    generalize all : worked ++ [id] = list at marked
    cases marked with
    | hosts hosts => exact .inl (.hosts hosts)
    | @group before after last target _ refers inner =>
      -- the reference that marks the node is the last tag, or the last tag comes after it
      rcases List.eq_nil_or_concat after with rfl | ⟨rest, final, rfl⟩
      next =>
        obtain ⟨rfl, same⟩ := List.append_inj' all rfl
        cases same
        exact .inr ⟨target, refers, inner⟩
      next =>
        rw [List.concat_eq_append, ← List.cons_append, ← List.append_assoc] at all
        obtain ⟨rfl, -⟩ := List.append_inj' all rfl
        exact .inl (.group refers inner)
  · rintro (before | ⟨target, refers, inner⟩)
    · exact before.append [id]
    · exact .group refers inner

theorem Marked.mono (marked : old.Marked wildcard worked owner)
    (hosts : ∀ owner, old.Hosts wildcard owner -> new.Hosts wildcard owner)
    (refers : ∀ id ∈ worked, ∀ target owner, old.Refers id target owner ->
      new.Refers id target owner) : new.Marked wildcard worked owner := by
  induction marked with
  | hosts there => exact .hosts (hosts _ there)
  | @group before after id target owner reference _ ih =>
    refine .group (refers id (by simp) target owner reference) (ih fun inner member => ?_)
    exact refers inner (by simp [member])

theorem Alike.marked (alike : old.Alike new)
    (referent : ∀ id ∈ worked, (new.node id).referent = (old.node id).referent) :
    new.Marked wildcard worked owner ↔ old.Marked wildcard worked owner := by
  have hosts (owner : NodeId) : new.Hosts wildcard owner ↔ old.Hosts wildcard owner :=
    Hosts.congr alike.kind alike.parent
  have refers (id : NodeId) (member : id ∈ worked) (target owner : NodeId) :
      new.Refers id target owner ↔ old.Refers id target owner := by
    constructor
    · rintro ⟨group, leads, around⟩
      rw [alike.kind] at group
      rw [referent id member] at leads
      rw [alike.enclosing] at around
      exact ⟨group, leads, around⟩
    · rintro ⟨group, leads, around⟩
      refine ⟨?_, ?_, ?_⟩
      · rwa [alike.kind]
      · rwa [referent id member]
      · rwa [alike.enclosing]
  constructor
  · exact fun marked => marked.mono (fun owner => (hosts owner).mp) fun id member target owner =>
      (refers id member target owner).mp
  · exact fun marked => marked.mono (fun owner => (hosts owner).mpr) fun id member target owner =>
      (refers id member target owner).mpr

theorem Wild.marked (wild : model.Wild wildcard owner)
    (ordered : ∀ id target owner before after, model.Refers id target owner ->
      worked = before ++ id :: after -> ∀ inner other, model.Refers inner other target ->
        inner ∈ before)
    {front back : List NodeId} (split : worked = front ++ back)
    (inside : ∀ inner other, model.Refers inner other owner -> inner ∈ front) :
    model.Marked wildcard front owner := by
  -- the tags before a reference are a shorter front, so the front varies with the node
  induction wild generalizing front back with
  | hosts hosts => exact .hosts hosts
  | @group id target owner refers _ ih =>
    obtain ⟨before, after, rfl⟩ := List.append_of_mem (inside id target refers)
    have place : worked = before ++ id :: (after ++ back) := by
      rw [split, List.append_assoc, List.cons_append]
    exact .group refers (ih place (ordered id target owner before _ refers place))

end

section

variable {model : Model} {id : NodeId}

theorem sameMarks_prepare (model : Model) (id : NodeId) : model.SameMarks (model.prepare id).1 := by
  refine ⟨fun other wildcard => ?_⟩
  refine holds_prepare (fun node => node.allows wildcard = (model.node other).allows wildcard)
    ?_ ?_ ?_ ?_ rfl
  all_goals
    intros
    cases wildcard <;> assumption

theorem sameMarks_setBase (model : Model) (owner : NodeId) (how : Derivation)
    (base : Option TypeRef) : model.SameMarks (model.setBase owner how base) :=
  sameMarks_changeNode model owner fun _ wildcard => by cases wildcard <;> rfl

theorem sameMarks_finish {remainder : Remainder} (complete : Bool)
    (plain : ∀ name target members, remainder ≠ .body name target members) :
    model.SameMarks (model.finish id remainder complete) := by
  refine (Remainder.Steps.finish model id remainder complete).keeps
    (P := model.SameMarks) (.refl model) ?_
  intro one two _ step before
  refine before.trans ?_
  cases step with
  | copy => exact .of_nodes rfl
  | inherit => exact .of_nodes rfl
  | base how => exact sameMarks_setBase one _ how _
  | report => exact .of_nodes rfl
  | content group => exact absurd group (plain _ _ _)
  | attributes group => exact absurd group (plain _ _ _)

theorem enclosing_markWildcard (model : Model) (id other : NodeId) (wildcard : Wildcard)
    (accepts : Kind -> Bool) :
    (model.markWildcard other (Node.allow wildcard)).enclosing id accepts =
      model.enclosing id accepts := by
  have noted : model.Noted (model.markWildcard other (Node.allow wildcard)) :=
    .markWildcard model other fun _ => by cases wildcard <;> rfl
  exact noted.alike.enclosing id accepts

theorem allows_copyGroup (model : Model) (id target other : NodeId) (members : Symbols)
    (wildcard : Wildcard) :
    ((model.copyGroup id target members).node other).allows wildcard = true ↔
      (model.node other).allows wildcard = true ∨
        (model.node target).allows wildcard = true ∧
          model.enclosing id Kind.ownsWildcards = some other := by
  have handed (middle : Model) (given : Bool) (marked : Wildcard) :
      ((if given then middle.markWildcard id (Node.allow marked) else middle).node other).allows
          wildcard = true ↔
        (middle.node other).allows wildcard = true ∨
          given = true ∧ marked = wildcard ∧
            middle.enclosing id Kind.ownsWildcards = some other := by
    cases given
    · simp
    · simpa using allows_markWildcard middle id other marked wildcard
  let inlined : Model := { model with
    scopes := model.scopes.inlineIntoParent (model.node id).scope members (model.node id).occurs
      (model.node target).scope }
  let content := if (model.node target).anyContent then
    inlined.markWildcard id (Node.allow .content) else inlined
  have copied : model.copyGroup id target members =
      if (model.node target).anyAttribute then content.markWildcard id (Node.allow .attributes)
      else content := rfl
  -- neither the tables nor the first mark change what is around the tag
  have same : inlined.enclosing id Kind.ownsWildcards = model.enclosing id Kind.ownsWildcards := by
    have parent (outer : NodeId) : (inlined.node outer).parent = (model.node outer).parent := rfl
    exact enclosing_congr (ancestors_congr parent id) (fun _ _ => rfl) _
  have around : content.enclosing id Kind.ownsWildcards =
      model.enclosing id Kind.ownsWildcards := by
    unfold content
    split
    · rw [enclosing_markWildcard, same]
    · exact same
  have first : (content.node other).allows wildcard = true ↔
      (model.node other).allows wildcard = true ∨ (model.node target).anyContent = true ∧
        Wildcard.content = wildcard ∧ inlined.enclosing id Kind.ownsWildcards = some other :=
    handed inlined (model.node target).anyContent .content
  rw [copied, handed, first, around, same]
  cases wildcard <;> simp [Node.allows]

/-- What is marked is what has been marked by the tags that were worked on, in that order. -/
def Reckoned (model : Model) : Prop :=
  ∀ owner wildcard, (model.node owner).allows wildcard = true ↔
    model.Marked wildcard model.order.toList owner

end

end Model

namespace Pass

section

variable {start model : Model} {pass next : Pass}

theorem Scheduled.allows_leave {todo : List TaskId} {call : Call} {outer : List Call}
    (scheduled : Scheduled start ⟨model, todo, call :: outer⟩) {complete : Bool}
    (full : call.remainder.awaited ≠ none -> complete = true) (owner : NodeId)
    (wildcard : Wildcard) :
    ((Pass.leave model call outer complete).model.node owner).allows wildcard = true ↔
      (model.node owner).allows wildcard = true ∨
        ∃ target, model.Refers call.node target owner ∧
          (model.node target).allows wildcard = true := by
  have fits := scheduled.fits call List.mem_cons_self
  have completed : (model.finish call.node call.remainder complete).SameMarks
      (Pass.leave model call outer complete).model := by
    refine ⟨fun other marked => ?_⟩
    have last := node_complete (model.finish call.node call.remainder complete) call.task
      call.node other
    refine (congrArg (fun node => node.allows marked) last).trans ?_
    split
    · cases marked <;> rfl
    · rfl
  rw [completed.allows]
  -- only a reference to a group hands marks on
  by_cases body : ∃ name target members, call.remainder = .body name target members
  next =>
    obtain ⟨name, target, members, same⟩ := body
    obtain rfl := full (by simp [same, Remainder.awaited])
    rw [same] at fits ⊢
    have group : (model.node call.node).kind.isGroup = true := by
      rcases fits.2.2 with ⟨is, -⟩ | ⟨is, -⟩ <;> rw [is] <;> rfl
    refine (Model.allows_copyGroup model call.node target owner members wildcard).trans
      (or_congr_right ⟨?_, ?_⟩)
    · rintro ⟨marked, around⟩
      exact ⟨target, ⟨group, fits.1, around⟩, marked⟩
    · rintro ⟨other, refers, marked⟩
      obtain rfl := Option.some.inj (refers.referent.symm.trans fits.1)
      exact ⟨marked, refers.around⟩
  next =>
    have plain : ∀ name target members, call.remainder ≠ .body name target members :=
      fun name target members same => body ⟨name, target, members, same⟩
    rw [(Model.sameMarks_finish complete plain).allows]
    refine ⟨.inl, fun either => either.resolve_right ?_⟩
    rintro ⟨target, refers, -⟩
    obtain ⟨name, members, same⟩ := fits.body_of_group refers.group refers.referent
    exact plain name target members same

theorem Scheduled.reckoned_leave {todo : List TaskId} {call : Call} {outer : List Call}
    (gathered : start.Gathered) (scheduled : Scheduled start ⟨model, todo, call :: outer⟩)
    {complete : Bool} (full : call.remainder.awaited ≠ none -> complete = true)
    (reckoned : model.Reckoned) : (Pass.leave model call outer complete).model.Reckoned := by
  intro owner wildcard
  have order : (Pass.leave model call outer complete).model.order =
      (model.finish call.node call.remainder complete).order.push call.node := rfl
  have kept := (scheduled.finished gathered complete).order
  have alike := scheduled.alike_leave gathered complete
  have referent := scheduled.referent_leave gathered complete
  -- the call that is left is the last in the new order, and earlier references are as they were
  rw [scheduled.allows_leave full, order, kept, Array.toList_push,
    alike.marked fun id _ => referent id, Model.marked_concat]
  exact or_congr (reckoned owner wildcard)
    (exists_congr fun target => and_congr_right fun _ => reckoned target wildcard)

theorem Scheduled.reckoned_enter {task : TaskId} {rest : List TaskId} {calls : List Call}
    (gathered : start.Gathered) (scheduled : Scheduled start ⟨model, task :: rest, calls⟩)
    (waits : (model.queue.get task).status = .waiting) (reckoned : model.Reckoned) :
    (Pass.enter model task rest calls).model.Reckoned := by
  intro owner wildcard
  have marked := Model.Alike.mark model .running task
  have prepared : (model.mark .running task).Prepared (Pass.enter model task rest calls).model
      (model.queue.get task).node _ := scheduled.prepared gathered waits
  have runs : model.SameMarks (model.mark .running task) := .of_nodes rfl
  have follows : (model.mark .running task).SameMarks (Pass.enter model task rest calls).model :=
    Model.sameMarks_prepare ..
  have same := runs.trans follows
  have order : (Pass.enter model task rest calls).model.order = model.order := prepared.order
  -- the tag that is entered is not among those that were worked on
  have inside : task.index < start.queue.size :=
    scheduled.alike.tasks ▸ Model.within_of_waits waits
  have unresolved : (model.node (model.queue.get task).node).isResolved = false := by
    rw [scheduled.alike.task]
    refine scheduled.unresolved gathered inside fun done => ?_
    cases done.symm.trans waits
  have referent (id : NodeId) (worked : id ∈ model.order.toList) :
      ((Pass.enter model task rest calls).model.node id).referent = (model.node id).referent := by
    refine prepared.referent id ?_
    rintro rfl
    have resolved := (scheduled.resolved _).mpr (.inr worked)
    cases unresolved.symm.trans resolved
  rw [same.allows, order, (marked.trans prepared.alike).marked referent]
  exact reckoned owner wildcard

theorem Step.reckoned (step : Step pass next) (gathered : start.Gathered)
    (scheduled : Scheduled start pass) (uncircular : next.model.Uncircular)
    (reckoned : pass.model.Reckoned) : next.model.Reckoned := by
  cases step with
  | enter model task rest calls waits => exact scheduled.reckoned_enter gathered waits reckoned
  | skip => exact reckoned
  | ignore => exact reckoned
  | leave model call outer => exact scheduled.reckoned_leave gathered (fun _ => rfl) reckoned
  | circle model task rest call outer =>
    -- nothing is circular, so the call that is cut short here awaits no body
    have awaits := scheduled.awaited_of_uncircular gathered uncircular
    exact scheduled.reckoned_leave gathered (fun other => absurd awaits other) reckoned

theorem Reaches.reckoned (reaches : Reaches pass next) (poised : start.Poised)
    (scheduled : Scheduled start pass) (uncircular : next.model.Uncircular)
    (reckoned : pass.model.Reckoned) : next.model.Reckoned :=
  reaches.keeps poised scheduled uncircular
    (fun _ _ step along clean => step.reckoned poised.gathered along clean) reckoned

end

end Pass

namespace Model

theorem mention_of_refersTo {model : Model} {id target : NodeId}
    (group : (model.node id).kind.isGroup = true) (leads : model.refersTo id = some target) :
    ∃ mention ∈ (model.node id).mentions, mention.role.copies = true ∧
      model.leadsTo id mention = some target := by
  unfold refersTo at leads
  simp only [Option.bind_eq_some_iff] at leads
  obtain ⟨kind, listed, written, there, found⟩ := leads
  have same : model.leadsTo id ⟨.body, kind, written⟩ =
      model.leadsTo id ⟨.referent, kind, written⟩ := by
    unfold leadsTo
    dsimp only
  refine ⟨⟨.body, kind, written⟩, ?_, rfl, same.trans found⟩
  have is : (model.node id).kind = .group ∨ (model.node id).kind = .attributeGroup := by
    revert group
    cases (model.node id).kind <;> simp [Kind.isGroup]
  rcases is with is | is
  all_goals
    rw [is] at listed
    obtain rfl := Option.some.inj listed
    simp [Node.mentions, is, Node.mention_of_some there]

end Model

namespace Compilation

section

variable {options : Options} {fetch : Fetch} {url : Url} {read : Compilation}

theorem Changes.reckoned (changes : Changes options fetch .empty read) (sound : read.Sound)
    (intact : read.Intact) : read.model.Reckoned := by
  intro owner wildcard
  rw [sound.order]
  constructor
  · exact fun marked => .hosts (changes.marksHosts owner wildcard marked)
  · intro marked
    generalize none_ : (#[] : Array NodeId).toList = worked at marked
    cases marked with
    | hosts hosts => exact changes.hostsMarked intact owner wildcard hosts
    | group => simp at none_

theorem copies_of_refers (sound : read.Sound) {id target owner : NodeId}
    (refers : read.resolve.model.Refers id target owner) : read.Copies id target := by
  rcases referent_reaches sound read.resolve_reaches id with none_ | ⟨model, starts, leads⟩
  next => cases none_.symm.trans refers.referent
  next =>
    have begun := starts
    obtain ⟨task, rest, calls, there, -⟩ := begun
    have group := refers.group
    have scheduled := there.scheduled sound.poised sound.scheduled
    rw [sound.ended.alike.kind, ← scheduled.alike.kind] at group
    exact ⟨model, starts, Model.mention_of_refersTo group (leads.symm.trans refers.referent)⟩

theorem worked_of_refers (sound : read.Sound) (intact : read.resolve.Intact)
    {id target owner : NodeId} (refers : read.resolve.model.Refers id target owner) :
    id ∈ read.resolve.model.order.toList := by
  have shaped := sound.ended.alike.shaped sound.gathered.shaped
  refine (sound.mem_order_resolve id).mpr ⟨Kind.isDeferred_of_isGroup refers.group, ?_⟩
  refine sound.isFinished_of_intact intact ?_
  cases inside : (read.resolve.model.node id).parent with
  | none =>
    have around := refers.around
    simp [Model.enclosing, Model.ancestors_of_root inside] at around
  | some parent => exact shaped.tag_of_parent inside

theorem before_of_refers (sound : read.Sound) (intact : read.resolve.Intact)
    (uncircular : read.resolve.model.Uncircular) {id target owner inner other : NodeId}
    (refers : read.resolve.model.Refers id target owner)
    (within : read.resolve.model.Refers inner other target)
    (feeds : read.resolve.model.Feeds inner target) {before after : List NodeId}
    (order : read.resolve.model.order.toList = before ++ id :: after) : inner ∈ before := by
  have alike := sound.ended.alike
  have deferred := Kind.isDeferred_of_isGroup within.group
  have finished := ((sound.mem_order_resolve inner).mp (worked_of_refers sound intact within)).2
  rw [alike.kind] at deferred
  rw [isFinished_congr alike (resolve_eq read).2] at finished
  rw [alike.feeds] at feeds
  have earlier := before_of_dependsOn sound read.resolve_reaches uncircular
    ⟨target, copies_of_refers sound refers, deferred, finished, feeds⟩
  have nodup : read.resolve.model.order.toList.Nodup := sound.ended.nodup
  rw [order] at nodup
  have first : id ∉ before := fun member =>
    (List.nodup_append.mp nodup).2.2 id member id List.mem_cons_self rfl
  -- no tag is worked on twice, so one that has an earlier place stands in front of the reference
  by_contra absent
  rw [order, List.idxOf_append_of_notMem absent, List.idxOf_append_of_notMem first,
    List.idxOf_cons_self] at earlier
  omega

/-- Marks are exact as to the order in which tags were worked on. They are no more than what
wildcards reach, and no less if the references in a group that is referred to all feed its body, so
that they are worked on before. -/
theorem compile_wildcards {compilation : Compilation}
    (compiled : compile options fetch url = .ok compilation) (intact : compilation.Intact)
    (uncircular : compilation.model.Uncircular) (wildcard : Wildcard) (owner : NodeId) :
    ((compilation.model.node owner).allows wildcard = true ↔
        compilation.model.Marked wildcard compilation.model.order.toList owner) ∧
      ((compilation.model.node owner).allows wildcard = true ->
        compilation.model.Wild wildcard owner) ∧
      ((∀ id target top inner other, compilation.model.Refers id target top ->
          compilation.model.Refers inner other target -> compilation.model.Feeds inner target) ->
        ((compilation.model.node owner).allows wildcard = true ↔
          compilation.model.Wild wildcard owner)) := by
  obtain ⟨read, gathered, sound, rfl⟩ := compile_ok compiled
  have whole : read.Intact := by
    intro document failed
    refine intact document ?_
    unfold Compilation.document at failed ⊢
    rwa [(resolve_eq read).2]
  have begun := (gather_arrives gathered).changes.reckoned sound whole
  have reckoned : read.resolve.model.Reckoned :=
    read.resolve_reaches.reckoned sound.poised sound.scheduled uncircular begun
  have reached (marked : (read.resolve.model.node owner).allows wildcard = true) :
      read.resolve.model.Wild wildcard owner := ((reckoned owner wildcard).mp marked).wild
  refine ⟨reckoned owner wildcard, reached, fun feeds => ⟨reached, fun wild => ?_⟩⟩
  refine (reckoned owner wildcard).mpr (wild.marked ?_ (List.append_nil _).symm ?_)
  · intro id target top before after refers order inner other within
    exact before_of_refers sound intact uncircular refers within
      (feeds id target top inner other refers within) order
  · exact fun inner other within => worked_of_refers sound intact within

def handingText : String :=
  "<x:schema xmlns:x='http://www.w3.org/2001/XMLSchema'>" ++
    "<x:complexType name='T'><x:attributeGroup ref='g'/></x:complexType>" ++
      "<x:attributeGroup name='g'><x:attributeGroup ref='h'/></x:attributeGroup>" ++
        "<x:attributeGroup name='h'><x:anyAttribute/></x:attributeGroup></x:schema>"

set_option maxRecDepth 100000 in
theorem compile_wildcards_handing :
    ∃ compilation, compile .standard (serving handingText) someUrl = .ok compilation ∧
      (compilation.model.node ⟨47⟩).kind = .complexType ∧
      (compilation.model.node ⟨47⟩).anyAttribute = true ∧
      compilation.model.Wild .attributes ⟨47⟩ := by
  obtain ⟨compilation, compiled, intact, uncircular, type, marked, direct⟩ :=
    @compile_of_checked handingText (fun model => model.Uncircular ∧
      (model.node ⟨47⟩).kind = .complexType ∧ (model.node ⟨47⟩).anyAttribute = true ∧
        ∀ index, index < model.nodes.size ->
          (model.enclosing ⟨index⟩ Kind.ownsWildcards).all (fun type =>
            decide (type ∈ model.fed ⟨index⟩)) = true) _ (by decide +kernel)
  have feeds (id target top inner other : NodeId) (_ : compilation.model.Refers id target top)
      (within : compilation.model.Refers inner other target) :
      compilation.model.Feeds inner target := by
    have there : inner.index < compilation.model.nodes.size := by
      by_contra outside
      have group := within.group
      rw [Model.node_of_size_le _ (Nat.not_lt.mp outside)] at group
      cases group
    have fed := direct inner.index there
    rw [within.around] at fed
    exact (Model.mem_fed ..).mp (of_decide_eq_true fed)
  have reaches := (compile_wildcards compiled intact uncircular .attributes ⟨47⟩).2.2 feeds
  exact ⟨compilation, compiled, type, marked, reaches.mp marked⟩

/-- A type that refers to a group. The reference in the group stands in an attribute, and feeds the
body of that one only, so the wildcard reaches the group after the work on the type's reference. -/
def lateText : String :=
  "<x:schema xmlns:x='http://www.w3.org/2001/XMLSchema'>" ++
    "<x:complexType name='T'><x:attributeGroup ref='g'/></x:complexType>" ++
      "<x:attributeGroup name='g'><x:attribute name='a'><x:simpleType>" ++
        "<x:restriction base='x:string'><x:attributeGroup ref='h'/></x:restriction>" ++
          "</x:simpleType></x:attribute></x:attributeGroup>" ++
            "<x:attributeGroup name='h'><x:anyAttribute/></x:attributeGroup></x:schema>"

set_option maxRecDepth 100000 in
theorem compile_wildcards_late :
    ∃ compilation, compile .standard (serving lateText) someUrl = .ok compilation ∧
      compilation.Intact ∧ compilation.model.Uncircular ∧
      (compilation.model.node ⟨47⟩).kind = .complexType ∧
      compilation.model.Wild .attributes ⟨47⟩ ∧
      (compilation.model.node ⟨47⟩).anyAttribute = false ∧
      (compilation.model.node ⟨49⟩).anyAttribute = true := by
  obtain ⟨compilation, compiled, intact, uncircular, type, tag, inner, group, leads, around, outer,
      asks, above, missing, marked⟩ :=
    @compile_of_checked lateText (fun model => model.Uncircular ∧
      (model.node ⟨47⟩).kind = .complexType ∧ (model.node ⟨55⟩).kind = .anyAttribute ∧
        model.enclosing ⟨55⟩ Kind.ownsWildcards = some ⟨54⟩ ∧
        (model.node ⟨53⟩).kind.isGroup = true ∧ (model.node ⟨53⟩).referent = some ⟨54⟩ ∧
        model.enclosing ⟨53⟩ Kind.ownsWildcards = some ⟨49⟩ ∧
        (model.node ⟨48⟩).kind.isGroup = true ∧ (model.node ⟨48⟩).referent = some ⟨49⟩ ∧
        model.enclosing ⟨48⟩ Kind.ownsWildcards = some ⟨47⟩ ∧
        (model.node ⟨47⟩).anyAttribute = false ∧ (model.node ⟨49⟩).anyAttribute = true) _
      (by decide +kernel)
  have wild : compilation.model.Wild .attributes ⟨47⟩ :=
    .group ⟨outer, asks, above⟩ (.group ⟨group, leads, around⟩ (.hosts ⟨⟨55⟩, tag, inner⟩))
  exact ⟨compilation, compiled, intact, uncircular, type, wild, missing, marked⟩

end

end Compilation

end XmlSchema

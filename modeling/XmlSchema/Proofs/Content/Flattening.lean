import XmlSchema.Proofs.Resolution.Finality

set_option autoImplicit false

namespace XmlSchema

namespace Model

section

variable {old new : Model} {id : NodeId} {remainder : Remainder}

theorem own_ite (here : Prop) [Decidable here] (added : Option Definition) :
    Definition.own (if here then added else none) = if here then Definition.own added else 0 := by
  split <;> rfl

theorem Prepared.ownBounds (prepared : old.Prepared new id remainder) (other : NodeId)
    {kind : Symbols} (member : kind.isMember = true) (name : QName) :
    new.ownBounds other kind name = old.ownBounds other kind name +
      if (old.node other).scope = old.scopes.surrounding (old.node id).scope then
        new.referred kind id name
      else 0 := by
  rw [Model.ownBounds, SymbolTable.own, prepared.alike.scope, prepared.tables _ kind name member,
    Definition.own_join, own_ite, own_referral]
  rfl

theorem Finished.ownBounds (finished : old.Finished new id remainder) (other : NodeId)
    {kind : Symbols} (member : kind.isMember = true) (name : QName) :
    new.ownBounds other kind name = old.ownBounds other kind name +
      if (old.node other).scope = old.scopes.surrounding (old.node id).scope then
        Definition.own (old.offered id remainder kind name)
      else 0 := by
  rw [Model.ownBounds, SymbolTable.own, finished.alike.scope, finished.tables _ kind name member,
    Definition.own_join, Definition.own_join, own_ite, own_inherited, add_zero]
  rfl

theorem passed_congr (alike : old.Alike new)
    (referent : (new.node id).referent = (old.node id).referent)
    (own : (old.node id).kind.isBody = true ->
      ∀ kind name, new.ownBounds id kind name = old.ownBounds id kind name)
    (other : (old.node id).kind.isGroup = true -> ∀ target, (old.node id).referent = some target ->
      ∀ kind name, new.ownBounds target kind name = old.ownBounds target kind name)
    (kind : Symbols) (name : QName) : new.passed kind id name = old.passed kind id name := by
  unfold passed
  simp only [alike.kind, alike.occurs, referent]
  cases is : (old.node id).kind <;> rw [is] at own other <;> cases kind <;>
    simp only [Kind.isBody, Kind.isGroup, forall_const] at own other ⊢ <;>
    first
    | rfl
    | simp only [own]
    | (split
       next target refers => simp only [other target refers]
       next => rfl)

theorem named_alike (alike : old.Alike new) (kind : Symbols) (id : NodeId) (name : QName) :
    new.named kind id name = old.named kind id name :=
  named_congr kind name ⟨alike.kind id, alike.name id, alike.occurs id⟩

theorem referred_alike (alike : old.Alike new)
    (referent : (new.node id).referent = (old.node id).referent) (kind : Symbols) (name : QName) :
    new.referred kind id name = old.referred kind id name := by
  simp only [referred, alike.kind, alike.name, alike.occurs, referent]

theorem referred_of_fresh {model : Model} (fresh : (model.node id).referent = none)
    (kind : Symbols) (name : QName) : model.referred kind id name = 0 := by
  simp [referred, fresh]

theorem contributed_of_unresolved {model : Model} (unresolved : (model.node id).isResolved = false)
    (kind : Symbols) (name : QName) :
    model.contributed kind id name = model.named kind id name + model.referred kind id name := by
  simp [contributed, unresolved]

theorem contributed_of_resolved {model : Model} (resolved : (model.node id).isResolved = true)
    (kind : Symbols) (name : QName) :
    model.contributed kind id name = model.contribution kind id name := by
  simp [contributed, contribution, resolved]

theorem contributed_congr (alike : old.Alike new) {kind : Symbols} {name : QName}
    (referent : (new.node id).referent = (old.node id).referent)
    (resolved : (new.node id).isResolved = (old.node id).isResolved)
    (passed : (old.node id).isResolved = true ->
      new.passed kind id name = old.passed kind id name) :
    new.contributed kind id name = old.contributed kind id name := by
  unfold contributed
  rw [named_alike alike, referred_alike alike referent, resolved]
  congr 1
  split
  next there => exact passed there
  next => rfl

end

theorem Fits.body_of_group {model : Model} {id : NodeId} {remainder : Remainder}
    (fits : model.Fits id remainder) (group : (model.node id).kind.isGroup = true) {target : NodeId}
    (refers : (model.node id).referent = some target) :
    ∃ name members, remainder = .body name target members := by
  cases remainder with
  | nothing => cases (fits.2 group).symm.trans refers
  | own kinds factor =>
    have body : (model.node id).body? = some (kinds, factor) := fits
    unfold Node.body? at body
    cases kind : (model.node id).kind <;> simp [kind, Kind.isGroup] at body group
  | body name other members =>
    obtain rfl := Option.some.inj (refers.symm.trans fits.1)
    exact ⟨name, members, rfl⟩
  | derivation how base =>
    rw [fits.1] at group
    cases how <;> cases group
  | inheritance how other written =>
    rw [fits.1] at group
    cases how <;> cases group

theorem Tallied.gain {old new : Model} (tallied : old.Tallied) (shaped : old.Shaped)
    (alike : old.Alike new) {id parent : NodeId} (around : (old.node id).parent = some parent)
    {gain : Symbols -> QName -> Bounds}
    (elsewhere : ∀ child, child ≠ id -> ∀ kind name,
      new.contributed kind child name = old.contributed kind child name)
    (here : ∀ kind name, kind.isMember = true ->
      new.contributed kind id name = old.contributed kind id name + gain kind name)
    (bounds : ∀ other kind name, kind.isMember = true ->
      new.ownBounds other kind name = old.ownBounds other kind name +
        if (old.node other).scope = (old.node parent).scope then gain kind name else 0) :
    new.Tallied := by
  refine tallied.step alike.size (fun id => ⟨alike.kind id, alike.parent id⟩)
    fun other kind name isTag plain member => ?_
  by_cases same : other = parent
  next =>
    subst same
    refine Or.inr ⟨id, _, (mem_children ..).mpr around, ?_, here kind name member,
      fun child _ apart => elsewhere child apart kind name⟩
    simpa using bounds other kind name member
  next =>
    refine Or.inl ⟨?_, fun child inside => elsewhere child ?_ kind name⟩
    · rw [bounds other kind name member, if_neg, add_zero]
      exact fun scopes =>
        same (shaped.eq_of_scope (shaped.standsIn around).tag plain scopes)
    · rintro rfl
      rw [mem_children, around] at inside
      exact same (Option.some.inj inside).symm

/-- No reference has been found to lead back to where it stands. -/
def Uncircular (model : Model) : Prop :=
  ∀ entry ∈ model.unresolved, entry.isCircular = false

instance (model : Model) : Decidable model.Uncircular :=
  decidable_of_iff (∀ entry ∈ model.unresolved.toList, entry.isCircular = false) (by
    simp only [Uncircular, Array.mem_toList_iff])

end Model

namespace Pass

/-- Every body holds what the tags in it have contributed so far, and the bodies that have been
passed on are sealed. -/
structure Balanced (start model : Model) : Prop where
  tallied : model.Tallied
  sealed : ∀ id, (model.node id).isResolved = true ->
    ((model.node id).kind.isBody = true -> start.Sealed model id) ∧
      ((model.node id).kind.isGroup = true -> ∀ target, (model.node id).referent = some target ->
        start.Sealed model target ∧ (start.node target).kind ≠ .schema)

section

variable {start : Model}

theorem Scheduled.unresolved {pass : Pass} (gathered : start.Gathered)
    (scheduled : Scheduled start pass) {task : TaskId} (inside : task.index < start.queue.size)
    (open_ : ¬ pass.model.IsDone task) :
    (pass.model.node (start.queue.get task).node).isResolved = false := by
  refine Bool.eq_false_iff.mpr fun resolved => ?_
  rcases (scheduled.resolved _).mp resolved with before | listed
  · have plain := gathered.unworked.waiting _ before
    rw [(gathered.queued.deferred task inside).2] at plain
    cases plain
  · obtain ⟨other, worked, same⟩ := (scheduled.order _).mp listed
    have equal := gathered.queued.distinct other task (Model.within_of_waits worked.1) inside same
    exact open_ (equal ▸ worked.2)

theorem Scheduled.stands {pass : Pass} (gathered : start.Gathered)
    (scheduled : Scheduled start pass) {task : TaskId} (inside : task.index < start.queue.size) :
    ∃ parent, pass.model.StandsIn (start.queue.get task).node parent ∧
      (pass.model.node (start.queue.get task).node).parent = some parent := by
  obtain ⟨tag, deferred⟩ := gathered.queued.deferred task inside
  have alike := scheduled.alike
  refine (alike.shaped gathered.shaped).parent_of_kind ((alike.isTag _).mpr tag) fun schema => ?_
  rw [alike.kind] at schema
  rw [schema] at deferred
  cases deferred

theorem ownBounds_of_table {old new : Model} (before : start.Alike old) (alike : old.Alike new)
    {owner : NodeId} (table : ∀ kind, new.scopes.table (start.node owner).scope kind =
      old.scopes.table (start.node owner).scope kind) (kind : Symbols) (name : QName) :
    new.ownBounds owner kind name = old.ownBounds owner kind name :=
  Model.ownBounds_congr kind name (alike.scope owner) (by rw [before.scope]; exact table kind)

theorem Balanced.contributed {old new : Model} (balanced : Balanced start old)
    (before : start.Alike old) (alike : old.Alike new)
    (tables : ∀ owner, (start.node owner).kind ≠ .schema -> start.Sealed old owner ->
      ∀ kind, new.scopes.table (start.node owner).scope kind =
        old.scopes.table (start.node owner).scope kind)
    {id : NodeId} (referent : (new.node id).referent = (old.node id).referent)
    (resolved : (new.node id).isResolved = (old.node id).isResolved) (kind : Symbols)
    (name : QName) : new.contributed kind id name = old.contributed kind id name := by
  have same {owner : NodeId} (plain : (start.node owner).kind ≠ .schema)
      (sealed : start.Sealed old owner) :=
    ownBounds_of_table before alike (tables owner plain sealed)
  refine Model.contributed_congr alike referent resolved fun there => ?_
  obtain ⟨body, group⟩ := balanced.sealed id there
  refine Model.passed_congr alike referent (fun is => same ?_ (body is)) (fun is target refers =>
    same (group is target refers).2 (group is target refers).1) kind name
  intro schema
  rw [before.kind, schema] at is
  cases is

theorem Balanced.enter {model : Model} {task : TaskId} {rest : List TaskId} {calls : List Call}
    (poised : start.Poised) (scheduled : Scheduled start ⟨model, task :: rest, calls⟩)
    (waits : (model.queue.get task).status = .waiting) (balanced : Balanced start model) :
    Balanced start (Pass.enter model task rest calls).model := by
  have gathered := poised.gathered
  have prepared : (model.mark .running task).Prepared (Pass.enter model task rest calls).model
      (model.queue.get task).node _ := scheduled.prepared gathered waits
  have before := scheduled.alike
  have step := Step.enter model task rest calls waits
  have alike := (Model.Alike.mark model .running task).trans prepared.alike
  have inside : task.index < start.queue.size := before.tasks ▸ Model.within_of_waits waits
  have unresolved : (model.node (model.queue.get task).node).isResolved = false := by
    rw [before.task]
    refine scheduled.unresolved gathered inside fun done => ?_
    cases done.symm.trans waits
  have shaped := before.shaped gathered.shaped
  obtain ⟨parent, stands, around⟩ := scheduled.stands gathered inside
  rw [← before.task] at stands around
  have fresh := scheduled.fresh task waits
  rw [← before.task] at fresh
  -- only the tag that is entered comes to contribute more, by what it refers to
  have elsewhere {child : NodeId} (apart : child ≠ (model.queue.get task).node) (kind : Symbols)
      (name : QName) :
      (Pass.enter model task rest calls).model.contributed kind child name =
        model.contributed kind child name :=
    balanced.contributed before alike
      (fun _ plain sealed kind => step.table poised scheduled plain sealed kind)
      (prepared.referent child apart) (prepared.resolved child) kind name
  have here (kind : Symbols) (name : QName) :
      (Pass.enter model task rest calls).model.contributed kind (model.queue.get task).node name =
        model.contributed kind (model.queue.get task).node name +
          (Pass.enter model task rest calls).model.referred kind (model.queue.get task).node name := by
    rw [Model.contributed_of_unresolved ((prepared.resolved _).trans unresolved),
      Model.contributed_of_unresolved unresolved, Model.referred_of_fresh fresh, add_zero,
      Model.named_alike alike]
  have bounds (id : NodeId) (kind : Symbols) (name : QName) (member : kind.isMember = true) :
      (Pass.enter model task rest calls).model.ownBounds id kind name =
        model.ownBounds id kind name +
          if (model.node id).scope = (model.node parent).scope then
            (Pass.enter model task rest calls).model.referred kind (model.queue.get task).node name
          else 0 := by
    rw [← shaped.surrounding_eq around]
    exact prepared.ownBounds id member name
  constructor
  · exact balanced.tallied.gain shaped alike around (fun _ => elsewhere)
      (fun kind name _ => here kind name) bounds
  · intro id resolved
    rw [prepared.resolved] at resolved
    have apart : id ≠ (model.queue.get task).node := by
      rintro rfl
      cases unresolved.symm.trans resolved
    obtain ⟨body, group⟩ := balanced.sealed id resolved
    rw [alike.kind]
    refine ⟨fun is => step.sealed (body is), fun is target refers => ?_⟩
    obtain ⟨sealed, plain⟩ := group is target ((prepared.referent id apart).symm.trans refers)
    exact ⟨step.sealed sealed, plain⟩

theorem Scheduled.sealed_bodies {model : Model} {todo : List TaskId} {call : Call}
    {outer : List Call} (gathered : start.Gathered)
    (scheduled : Scheduled start ⟨model, todo, call :: outer⟩)
    (full : call.remainder.awaited ≠ none -> todo = []) :
    ((model.node call.node).kind.isBody = true -> start.Sealed model call.node) ∧
      ((model.node call.node).kind.isGroup = true ->
        ∀ target, (model.node call.node).referent = some target ->
          start.Sealed model target ∧ (start.node target).kind ≠ .schema) := by
  have before := scheduled.alike
  have fits := scheduled.fits call List.mem_cons_self
  constructor
  · intro body
    rw [before.kind] at body
    exact scheduled.sealed_node rfl (Kind.isBoundary_of_isBody body)
  · intro group target refers
    have awaits : call.remainder.awaited = some target := by
      obtain ⟨name, members, same⟩ := fits.body_of_group group refers
      rw [same, Remainder.awaited]
    have plain := plain_of_awaited fits awaits
    rw [before.kind] at plain
    have todo := full (by rw [awaits]; exact Option.some_ne_none target)
    exact ⟨scheduled.sealed_target gathered rfl todo awaits, plain⟩

section

variable {model : Model} {todo : List TaskId} {call : Call} {outer : List Call}

theorem Scheduled.unresolved_call {pass : Pass} (gathered : start.Gathered)
    (scheduled : Scheduled start pass) {open_ : Call} (member : open_ ∈ pass.calls) :
    (pass.model.node open_.node).isResolved = false := by
  have runs := (scheduled.running open_.task).mpr ⟨open_, member, rfl⟩
  have inside : open_.task.index < start.queue.size :=
    scheduled.alike.tasks ▸ Queue.within_of_running runs
  rw [scheduled.placed open_ member]
  refine scheduled.unresolved gathered inside fun done => ?_
  cases done.symm.trans runs

theorem Scheduled.stands_call {pass : Pass} (gathered : start.Gathered)
    (scheduled : Scheduled start pass) {open_ : Call} (member : open_ ∈ pass.calls) :
    ∃ parent, pass.model.StandsIn open_.node parent ∧
      (pass.model.node open_.node).parent = some parent := by
  have runs := (scheduled.running open_.task).mpr ⟨open_, member, rfl⟩
  rw [scheduled.placed open_ member]
  exact scheduled.stands gathered (scheduled.alike.tasks ▸ Queue.within_of_running runs)

theorem Scheduled.finished_full (gathered : start.Gathered)
    (scheduled : Scheduled start ⟨model, todo, call :: outer⟩) {complete : Bool}
    (full : call.remainder.awaited ≠ none -> complete = true) :
    model.Finished (model.finish call.node call.remainder complete) call.node
      call.remainder := by
  have finished := scheduled.finished gathered complete
  cases awaits : call.remainder.awaited with
  | none => rwa [Remainder.alone_of_awaited awaits, ite_self] at finished
  | some target =>
      have complete := full (by rw [awaits]; exact Option.some_ne_none target)
      subst complete
      exact finished

theorem Scheduled.alike_leave (gathered : start.Gathered)
    (scheduled : Scheduled start ⟨model, todo, call :: outer⟩) (complete : Bool) :
    model.Alike (Pass.leave model call outer complete).model :=
  (scheduled.finished gathered complete).alike.trans (alike_complete _ call.task call.node)

theorem Scheduled.referent_leave (gathered : start.Gathered)
    (scheduled : Scheduled start ⟨model, todo, call :: outer⟩) (complete : Bool) (id : NodeId) :
    ((Pass.leave model call outer complete).model.node id).referent = (model.node id).referent :=
  (referent_complete _ call.task call.node id).trans
    ((scheduled.finished gathered complete).referent id)

theorem Scheduled.resolved_leave (gathered : start.Gathered)
    (scheduled : Scheduled start ⟨model, todo, call :: outer⟩) (complete : Bool) (id : NodeId) :
    ((Pass.leave model call outer complete).model.node id).isResolved =
      if id = call.node then true else (model.node id).isResolved := by
  have finished := scheduled.finished gathered complete
  obtain ⟨parent, -, around⟩ := scheduled.stands_call gathered List.mem_cons_self
  have there := ((scheduled.alike.shaped gathered.shaped).tag_of_parent around).2
  rw [← finished.alike.size] at there
  rw [← finished.resolved id]
  exact resolved_complete there call.task id

theorem Scheduled.awaited_of_uncircular (gathered : start.Gathered)
    (scheduled : Scheduled start ⟨model, todo, call :: outer⟩)
    (uncircular : (Pass.leave model call outer false).model.Uncircular) :
    call.remainder.awaited = none := by
  by_contra awaits
  obtain ⟨parent, -, around⟩ := scheduled.stands_call gathered List.mem_cons_self
  have shaped := scheduled.alike.shaped gathered.shaped
  have plain : (model.node call.node).kind ≠ .schema := by
    intro schema
    rw [shaped.parent_of_schema schema] at around
    cases around
  obtain ⟨entry, member, circular⟩ := Model.circular_finish shaped scheduled.filed
    (shaped.tag_of_parent around) plain awaits
  cases (uncircular entry member).symm.trans circular

end

theorem Balanced.leave {model : Model} {todo : List TaskId} {call : Call} {outer : List Call}
    {complete : Bool} (poised : start.Poised)
    (scheduled : Scheduled start ⟨model, todo, call :: outer⟩)
    (step : Step ⟨model, todo, call :: outer⟩ (Pass.leave model call outer complete))
    (full : call.remainder.awaited ≠ none -> complete = true ∧ todo = [])
    (balanced : Balanced start model) :
    Balanced start (Pass.leave model call outer complete).model := by
  have gathered := poised.gathered
  have before := scheduled.alike
  have fits := scheduled.fits call List.mem_cons_self
  have bodies := scheduled.sealed_bodies gathered fun awaits => (full awaits).2
  have finished := scheduled.finished_full gathered fun awaits => (full awaits).1
  have unresolved := scheduled.unresolved_call gathered List.mem_cons_self
  have shaped := before.shaped gathered.shaped
  obtain ⟨parent, stands, around⟩ := scheduled.stands_call gathered List.mem_cons_self
  have single : model.Single := by
    intro id kind
    rw [before.kind] at kind
    rw [before.occurs]
    exact gathered.single id kind
  have tables (owner : NodeId) (plain : (start.node owner).kind ≠ .schema)
      (sealed : start.Sealed model owner) := step.table poised scheduled plain sealed
  have alike := scheduled.alike_leave gathered complete
  have referent := scheduled.referent_leave gathered complete
  have resolved := scheduled.resolved_leave gathered complete
  -- only the tag that is left comes to contribute more, by what it passes on
  have elsewhere {child : NodeId} (apart : child ≠ call.node) (kind : Symbols) (name : QName) :
      (Pass.leave model call outer complete).model.contributed kind child name =
        model.contributed kind child name :=
    balanced.contributed before alike tables (referent child)
      ((resolved child).trans (if_neg apart)) kind name
  have here (kind : Symbols) (name : QName) (member : kind.isMember = true) :
      (Pass.leave model call outer complete).model.contributed kind call.node name =
        model.contributed kind call.node name +
          Definition.own (model.offered call.node call.remainder kind name) := by
    have isResolved := (resolved call.node).trans (if_pos rfl)
    have same {owner : NodeId} (plain : (start.node owner).kind ≠ .schema)
        (sealed : start.Sealed model owner) :=
      ownBounds_of_table before alike (tables owner plain sealed)
    -- the bodies that it passes on are sealed, so they are the same after the step
    have passed : (Pass.leave model call outer complete).model.passed kind call.node name =
        model.passed kind call.node name := by
      refine Model.passed_congr alike (referent call.node) (fun is => same ?_ (bodies.1 is))
        (fun is target refers => same (bodies.2 is target refers).2 (bodies.2 is target refers).1)
        kind name
      intro schema
      rw [before.kind, schema] at is
      cases is
    rw [Model.contributed_of_resolved isResolved, Model.contribution,
      Model.contributed_of_unresolved unresolved, Model.named_alike alike,
      Model.referred_alike alike (referent call.node), passed, Model.own_offered single fits member]
  have bounds (id : NodeId) (kind : Symbols) (name : QName) (member : kind.isMember = true) :
      (Pass.leave model call outer complete).model.ownBounds id kind name =
        model.ownBounds id kind name +
          if (model.node id).scope = (model.node parent).scope then
            Definition.own (model.offered call.node call.remainder kind name)
          else 0 := by
    rw [← shaped.surrounding_eq around, ← finished.ownBounds id member name]
    exact Model.ownBounds_congr kind name ((alike_complete _ call.task call.node).scope id) rfl
  constructor
  · exact balanced.tallied.gain shaped alike around (fun _ => elsewhere) here bounds
  · intro id there
    rw [resolved] at there
    rw [alike.kind, referent]
    have sealed : ((model.node id).kind.isBody = true -> start.Sealed model id) ∧
        ((model.node id).kind.isGroup = true -> ∀ target, (model.node id).referent = some target ->
          start.Sealed model target ∧ (start.node target).kind ≠ .schema) := by
      split at there
      next same => exact same ▸ bodies
      next => exact balanced.sealed id there
    exact ⟨fun is => step.sealed (sealed.1 is), fun is target refers =>
      ⟨step.sealed (sealed.2 is target refers).1, (sealed.2 is target refers).2⟩⟩

variable {pass next : Pass}

theorem Step.unresolved (step : Step pass next) (gathered : start.Gathered)
    (scheduled : Scheduled start pass) {entry : Unresolved}
    (member : entry ∈ pass.model.unresolved) : entry ∈ next.model.unresolved := by
  cases step with
  | enter model task rest calls waits =>
      exact (scheduled.prepared gathered waits).unresolved entry member
  | skip => exact member
  | ignore => exact member
  | leave => exact (scheduled.finished gathered true).unresolved entry member
  | circle => exact (scheduled.finished gathered false).unresolved entry member

theorem Step.balanced (step : Step pass next) (poised : start.Poised)
    (scheduled : Scheduled start pass) (uncircular : next.model.Uncircular)
    (balanced : Balanced start pass.model) : Balanced start next.model := by
  cases step with
  | enter model task rest calls waits => exact balanced.enter poised scheduled waits
  | skip => exact balanced
  | ignore => exact balanced
  | leave model call outer =>
      exact balanced.leave poised scheduled (.leave model call outer) fun _ => ⟨rfl, rfl⟩
  | circle model task rest call outer runs =>
      have awaits := scheduled.awaited_of_uncircular poised.gathered uncircular
      exact balanced.leave poised scheduled (.circle model task rest call outer runs) fun other =>
        absurd awaits other

theorem Step.uncircular (step : Step pass next) (gathered : start.Gathered)
    (scheduled : Scheduled start pass) (uncircular : next.model.Uncircular) :
    pass.model.Uncircular :=
  fun entry member => uncircular entry (step.unresolved gathered scheduled member)

theorem Reaches.uncircular (reaches : Reaches pass next) (poised : start.Poised)
    (scheduled : Scheduled start pass) (uncircular : next.model.Uncircular) :
    pass.model.Uncircular := by
  induction reaches with
  | refl => exact uncircular
  | tail before step ih =>
      have along := Reaches.scheduled before poised scheduled
      exact ih (step.uncircular poised.gathered along uncircular)

theorem Reaches.keeps {holds : Model -> Prop} (reaches : Reaches pass next)
    (poised : start.Poised) (scheduled : Scheduled start pass)
    (uncircular : next.model.Uncircular)
    (keeps : ∀ before after, Step before after -> Scheduled start before ->
      after.model.Uncircular -> holds before.model -> holds after.model)
    (first : holds pass.model) : holds next.model := by
  induction reaches with
  | refl => exact first
  | @tail middle last before step ih =>
      have along := Reaches.scheduled before poised scheduled
      have clean := step.uncircular poised.gathered along uncircular
      exact keeps middle last step along uncircular (ih clean)

theorem Reaches.balanced (reaches : Reaches pass next) (poised : start.Poised)
    (scheduled : Scheduled start pass) (uncircular : next.model.Uncircular)
    (balanced : Balanced start pass.model) : Balanced start next.model :=
  reaches.keeps poised scheduled uncircular
    (fun _ _ step along clean => step.balanced poised along clean) balanced

theorem balanced_start (gathered : start.Gathered) : Balanced start start where
  tallied := gathered.tallied
  sealed id resolved := by
    have plain := gathered.unworked.waiting id resolved
    constructor
    · intro body
      cases plain.symm.trans (Kind.isDeferred_of_isBody body)
    · intro group
      cases plain.symm.trans (Kind.isDeferred_of_isGroup group)

end

end Pass

namespace Compilation

theorem Sound.flattens {read : Compilation} (sound : read.Sound) (intact : read.resolve.Intact)
    (uncircular : read.resolve.model.Uncircular) {id : NodeId} {kind : Symbols}
    (tag : read.resolve.model.IsTag id) (plain : (read.resolve.model.node id).kind ≠ .schema)
    (member : kind.isMember = true) (name : QName) :
    read.resolve.model.ownBounds id kind name = read.resolve.model.content kind id name := by
  have balanced := read.resolve_reaches.balanced sound.poised sound.scheduled uncircular
    (Pass.balanced_start sound.gathered)
  have shaped := sound.ended.alike.shaped sound.gathered.shaped
  rw [balanced.tallied id kind name tag plain member]
  refine congrArg List.sum (List.map_congr_left fun child inside => ?_)
  have isTag := shaped.tag_of_parent ((Model.mem_children ..).mp inside)
  have resolved := sound.isResolved (sound.isFinished_of_intact intact isTag)
  exact Model.contributed_of_resolved resolved kind name

/-- What a body declares itself is the sum of what the tags in it contribute, of which a particle
contributes its own body by its bounds, and a reference to a group that group's body. -/
theorem compile_flattens {options : Options} {fetch : Fetch} {url : Url}
    {compilation : Compilation} (compiled : compile options fetch url = .ok compilation)
    (intact : compilation.Intact) (uncircular : compilation.model.Uncircular) :
    (∀ scope kind, (compilation.model.scopes.table scope kind).keys.Nodup) ∧
      ∀ id kind name, compilation.model.IsTag id -> (compilation.model.node id).kind ≠ .schema ->
        kind.isMember = true ->
        compilation.model.ownBounds id kind name = compilation.model.content kind id name := by
  obtain ⟨read, -, sound, rfl⟩ := compile_ok compiled
  exact ⟨fun scope kind => Table.nodup_keys _, fun id kind name tag plain member =>
    sound.flattens intact uncircular tag plain member name⟩

set_option maxRecDepth 100000 in
theorem compile_flattens_group :
    ∃ compilation, compile .standard (serving groupText) someUrl = .ok compilation ∧
      compilation.model.ownBounds ⟨50⟩ .elements ⟨none, "a"⟩ = (⟨0, some 4⟩ : Occurs) ∧
      compilation.model.content .elements ⟨50⟩ ⟨none, "a"⟩ = (⟨0, some 4⟩ : Occurs) := by
  obtain ⟨compilation, compiled, intact, uncircular, tag, group, bounds⟩ :=
    @compile_of_checked groupText (fun model => model.Uncircular ∧ model.IsTag ⟨50⟩ ∧
      (model.node ⟨50⟩).kind = .group ∧
        model.ownBounds ⟨50⟩ .elements ⟨none, "a"⟩ = (⟨0, some 4⟩ : Occurs)) _ (by decide +kernel)
  obtain ⟨-, flat⟩ := compile_flattens compiled intact uncircular
  refine ⟨compilation, compiled, bounds, ?_⟩
  rw [← flat ⟨50⟩ .elements ⟨none, "a"⟩ tag (by rw [group]; decide) rfl, bounds]

end Compilation

end XmlSchema

import XmlSchema.Proofs.Content.Declaration

set_option autoImplicit false

namespace XmlSchema

namespace Definition

def taken (definition : Definition) : Definition := { definition with inherited := true }

theorem copied_once (definition : Definition) :
    definition.copied .once true = definition.taken := by
  simp [copied, taken, Occurs.mul_once]

end Definition

namespace Remainder

@[simp] theorem base_alone (remainder : Remainder) : remainder.alone.base? = remainder.base? := by
  cases remainder <;> rfl

end Remainder

namespace Model

/-- A type derives from a base by the only derivation in it, if that names the base. -/
structure DerivesBy (model : Model) (type derivation base : NodeId) : Prop where
  only : model.derivations type = [derivation]
  written : (model.node derivation).attribute? "base" ≠ none
  base : (model.node type).base = some (.resolved base)

def Derives (model : Model) (type base : NodeId) : Prop :=
  ∃ derivation, model.DerivesBy type derivation base

inductive Lineage (model : Model) : NodeId -> List NodeId -> Prop where
  | root {type : NodeId} (last : ∀ base, ¬ model.Derives type base) : Lineage model type [type]
  | derived {type base : NodeId} {further : List NodeId} (derives : model.Derives type base)
      (line : Lineage model base further) : Lineage model type (type :: further)

def ownEntry (model : Model) (type : NodeId) (kind : Symbols) (name : QName) :
    Option Definition :=
  (model.entry type kind name).filter fun definition => !definition.inherited

theorem ownEntry_cases (model : Model) (type : NodeId) (kind : Symbols) (name : QName) :
    (∃ definition, model.entry type kind name = some definition ∧
        model.ownEntry type kind name = some definition) ∨
      Definition.own (model.entry type kind name) = 0 ∧ model.ownEntry type kind name = none := by
  unfold ownEntry
  cases model.entry type kind name with
  | none => exact Or.inr ⟨rfl, rfl⟩
  | some definition =>
      cases inherited : definition.inherited with
      | false => exact Or.inl ⟨definition, rfl, by simp [inherited]⟩
      | true => exact Or.inr ⟨by simp [Definition.own, inherited], by simp [inherited]⟩

def rebuilt (model : Model) (kind : Symbols) (name : QName) : List NodeId -> Option Definition
  | [] => none
  | type :: further =>
      (model.ownEntry type kind name).or ((model.rebuilt kind name further).map Definition.taken)

structure Sourced (model : Model) : Prop where
  own : ∀ id kind name definition, model.IsTag id -> (model.node id).kind ≠ .schema ->
    kind.isMember = true -> model.entry id kind name = some definition ->
      definition.inherited = false -> model.Declares kind name id definition.target
  inherited : ∀ id kind name definition, (model.node id).kind ≠ .schema ->
    kind.isMember = true -> model.entry id kind name = some definition ->
      definition.inherited = true -> ∃ derivation ∈ model.derivations id,
        (model.node derivation).isResolved = true ∧
          (model.derivations id = [derivation] -> ∃ base, model.DerivesBy id derivation base)

section

variable {old new : Model}

theorem Alike.derivesBy_iff (alike : old.Alike new) {type : NodeId}
    (same : (new.node type).base = (old.node type).base) (derivation base : NodeId) :
    new.DerivesBy type derivation base ↔ old.DerivesBy type derivation base := by
  constructor
  · intro derives
    exact ⟨(alike.derivations type).symm.trans derives.only,
      alike.attribute derivation "base" ▸ derives.written, same.symm.trans derives.base⟩
  · intro derives
    refine ⟨(alike.derivations type).trans derives.only, ?_, same.trans derives.base⟩
    rw [alike.attribute]
    exact derives.written

theorem DerivesBy.mem {model : Model} {type derivation base : NodeId}
    (derives : model.DerivesBy type derivation base) : derivation ∈ model.derivations type := by
  rw [derives.only]
  exact List.mem_singleton_self derivation

theorem DerivesBy.plain {model : Model} {type derivation base : NodeId}
    (derives : model.DerivesBy type derivation base) : (model.node type).kind ≠ .schema := by
  intro schema
  have isType := isType_of_derivation derives.mem
  rw [schema] at isType
  cases isType

theorem Sourced.step (sourced : old.Sourced) (alike : old.Alike new)
    (referent : ∀ id target, (old.node id).referent = some target ->
      (new.node id).referent = some target)
    (resolved : ∀ id, (old.node id).isResolved = true -> (new.node id).isResolved = true)
    (keeps : ∀ type derivation base, old.DerivesBy type derivation base ->
      new.DerivesBy type derivation base) (parent : NodeId)
    (added : Symbols -> QName -> Option Definition)
    (heirlooms : NodeId -> Symbols -> QName -> Option Definition)
    (entries : ∀ id kind name, (old.node id).kind ≠ .schema -> kind.isMember = true ->
      new.entry id kind name =
        Definition.join (if id = parent then added kind name else none)
          (Definition.join (heirlooms id kind name) (old.entry id kind name)))
    (declared : ∀ kind name definition, kind.isMember = true ->
      added kind name = some definition ->
        definition.inherited = false ∧ new.Declares kind name parent definition.target)
    (heirs : ∀ id kind name definition, (old.node id).kind ≠ .schema ->
      heirlooms id kind name = some definition ->
        definition.inherited = true ∧ ∃ derivation ∈ new.derivations id,
          (new.node derivation).isResolved = true ∧
            (new.derivations id = [derivation] -> ∃ base, new.DerivesBy id derivation base)) :
    new.Sourced := by
  -- an entry goes back to one that was added, one that was taken over or one that was there
  have origin {id : NodeId} {kind : Symbols} {name : QName} {definition : Definition}
      (plain : (old.node id).kind ≠ .schema) (member : kind.isMember = true)
      (found : new.entry id kind name = some definition) :
      ∃ origin, definition.target = origin.target ∧ definition.inherited = origin.inherited ∧
        (id = parent ∧ added kind name = some origin ∨ heirlooms id kind name = some origin ∨
          old.entry id kind name = some origin) := by
    rw [entries id kind name plain member] at found
    obtain ⟨first, either, target, inherited⟩ := Definition.join_cases found
    rcases either with here | there
    · exact ⟨first, target, inherited, Or.inl (Option.ite_none_right_eq_some.mp here)⟩
    · obtain ⟨second, either, next, flag⟩ := Definition.join_cases there
      exact ⟨second, target.trans next, inherited.trans flag, Or.inr either⟩
  constructor
  · intro id kind name definition tag plain member found own
    rw [alike.kind] at plain
    obtain ⟨first, target, inherited, either⟩ := origin plain member found
    rw [inherited] at own
    rw [target]
    rcases either with ⟨rfl, here⟩ | taken | before
    · exact (declared kind name first member here).2
    · cases own.symm.trans (heirs id kind name first plain taken).1
    · exact (sourced.own id kind name first ((alike.isTag id).mp tag) plain member before own).mono
        alike referent
  · intro id kind name definition plain member found isInherited
    rw [alike.kind] at plain
    obtain ⟨first, -, inherited, either⟩ := origin plain member found
    rw [inherited] at isInherited
    rcases either with ⟨-, here⟩ | taken | before
    · cases isInherited.symm.trans (declared kind name first member here).1
    · exact (heirs id kind name first plain taken).2
    · obtain ⟨derivation, makes, done, only⟩ :=
        sourced.inherited id kind name first plain member before isInherited
      rw [alike.derivations]
      refine ⟨derivation, makes, resolved derivation done, fun single => ?_⟩
      obtain ⟨base, derives⟩ := only single
      exact ⟨base, keeps id derivation base derives⟩

theorem lineage_grow (opened : NodeId -> Prop)
    (keeps : ∀ type base, old.Derives type base -> new.Derives type base)
    (adds : ∀ type base, new.Derives type base -> old.Derives type base ∨ opened type)
    (closed : ∀ type base, old.Derives type base -> ¬ opened base)
    (apart : ∀ type base, opened type -> new.Derives type base -> ¬ opened base)
    (lineage : ∀ type, ∃ chain, old.Lineage type chain) (type : NodeId) :
    ∃ chain, new.Lineage type chain := by
  have settled {type : NodeId} {chain : List NodeId} (line : old.Lineage type chain)
      (unopened : ¬ opened type) : new.Lineage type chain := by
    induction line with
    | root last =>
        exact .root fun base derives => (adds _ base derives).elim (last base) unopened
    | derived derives _ ih => exact .derived (keeps _ _ derives) (ih (closed _ _ derives))
  by_cases here : opened type
  next =>
    by_cases derived : ∃ base, new.Derives type base
    next =>
      obtain ⟨base, derives⟩ := derived
      obtain ⟨chain, line⟩ := lineage base
      exact ⟨_, .derived derives (settled line (apart type base here derives))⟩
    next => exact ⟨_, .root fun base derives => derived ⟨base, derives⟩⟩
  next =>
    obtain ⟨chain, line⟩ := lineage type
    exact ⟨chain, settled line here⟩

end

section

variable {model : Model} {id : NodeId} {remainder : Remainder}

theorem Fits.heritage (fits : model.Fits id remainder) {target : NodeId}
    (written : (model.node id).attribute? "base" ≠ none)
    (based : remainder.base? = some (some (.resolved target))) :
    remainder.heritage? = some target ∧ remainder.awaited = some target := by
  cases remainder with
  | nothing => cases based
  | own => cases based
  | body => cases based
  | derivation how base => exact absurd (fits.2 target (Option.some.inj based)) written
  | inheritance how other written =>
      cases based
      exact ⟨rfl, rfl⟩

theorem Fits.of_heritage (fits : model.Fits id remainder) {target : NodeId}
    (heir : remainder.heritage? = some target) :
    remainder.base? = some (some (.resolved target)) ∧
      (model.node id).attribute? "base" ≠ none := by
  cases remainder with
  | nothing => cases heir
  | own => cases heir
  | body => cases heir
  | derivation => cases heir
  | inheritance how other written =>
      cases heir
      exact ⟨rfl, by rw [fits.2.1]; exact Option.some_ne_none written⟩

theorem inherited_eq_some (shaped : model.Shaped) {owner : NodeId} {kind : Symbols} {name : QName}
    {definition : Definition} (plain : (model.node owner).kind ≠ .schema)
    (found : model.inherited id remainder (model.node owner).scope kind name = some definition) :
    definition.inherited = true ∧ model.enclosing id Kind.isType = some owner ∧
      ∃ target, remainder.heritage? = some target := by
  unfold inherited at found
  split at found
  next other target around heir =>
    obtain ⟨scopes, copy⟩ := Option.ite_none_right_eq_some.mp found
    obtain ⟨original, -, rfl⟩ := Option.map_eq_some_iff.mp copy
    have tag := (shaped.of_mem_ancestors (enclosing_spec around).1).1
    obtain rfl := shaped.eq_of_scope tag plain scopes
    exact ⟨rfl, around, target, heir⟩
  next => cases found

theorem inherited_eq {owner target : NodeId} (around : model.enclosing id Kind.isType = some owner)
    (heir : remainder.heritage? = some target) (kind : Symbols) (name : QName) :
    model.inherited id remainder (model.node owner).scope kind name =
      (model.entry target kind name).map Definition.taken := by
  unfold inherited copied
  rw [around, heir]
  simp only [if_true, Definition.copied_once]
  rfl

end

section

variable {old new : Model} {id parent other : NodeId} {remainder : Remainder} {kind : Symbols}

theorem Shaped.scope_eq_iff {model : Model} (shaped : model.Shaped) (tag : model.IsTag id)
    (plain : (model.node other).kind ≠ .schema) :
    (model.node other).scope = (model.node id).scope ↔ other = id := by
  constructor
  · exact shaped.eq_of_scope tag plain
  · rintro rfl
    rfl

theorem Prepared.entry (prepared : old.Prepared new id remainder) (shaped : old.Shaped)
    (around : (old.node id).parent = some parent) (plain : (old.node other).kind ≠ .schema)
    (member : kind.isMember = true) (name : QName) :
    new.entry other kind name =
      Definition.join (if other = parent then new.referral id kind name else none)
        (old.entry other kind name) := by
  have stands := shaped.standsIn around
  rw [Model.entry, prepared.alike.scope, prepared.tables _ kind name member,
    shaped.surrounding_eq around]
  simp only [shaped.scope_eq_iff stands.tag plain]
  rfl

theorem Finished.entry (finished : old.Finished new id remainder) (shaped : old.Shaped)
    (around : (old.node id).parent = some parent) (plain : (old.node other).kind ≠ .schema)
    (member : kind.isMember = true) (name : QName) :
    new.entry other kind name =
      Definition.join (if other = parent then old.offered id remainder kind name else none)
        (Definition.join (old.inherited id remainder (old.node other).scope kind name)
          (old.entry other kind name)) := by
  have stands := shaped.standsIn around
  rw [Model.entry, finished.alike.scope, finished.tables _ kind name member,
    shaped.surrounding_eq around]
  simp only [shaped.scope_eq_iff stands.tag plain]
  rfl

end

end Model

namespace Pass

/-- A base is complete, and its entries are taken over wherever the type has none of its own. -/
structure Overlaid (start model : Model) (type derivation base : NodeId) : Prop where
  resolved : (model.node derivation).isResolved = true
  sealed : start.Sealed model base
  plain : (start.node base).kind ≠ .schema
  entry : ∀ kind name, kind.isMember = true -> Definition.own (model.entry type kind name) = 0 ->
    model.entry type kind name = (model.entry base kind name).map Definition.taken

structure Layered (start model : Model) : Prop where
  sourced : model.Sourced
  overlaid : ∀ type derivation base, model.DerivesBy type derivation base ->
    Overlaid start model type derivation base
  lineage : ∀ type, ∃ chain, model.Lineage type chain

section

variable {start : Model} {pass next : Pass}

theorem Step.entry (step : Step pass next) (poised : start.Poised)
    (scheduled : Scheduled start pass) {owner : NodeId}
    (plain : (start.node owner).kind ≠ .schema) (sealed : start.Sealed pass.model owner)
    (kind : Symbols) (name : QName) :
    next.model.entry owner kind name = pass.model.entry owner kind name := by
  have after := (step.scheduled poised scheduled).alike
  rw [Model.entry, after.scope, step.table poised scheduled plain sealed,
    ← scheduled.alike.scope, ← Model.entry]

theorem Overlaid.step {type derivation base : NodeId}
    (overlaid : Overlaid start pass.model type derivation base) (step : Step pass next)
    (poised : start.Poised) (scheduled : Scheduled start pass)
    (resolved : (next.model.node derivation).isResolved = true)
    (same : ∀ kind name, kind.isMember = true ->
      Definition.own (next.model.entry type kind name) = 0 ->
        next.model.entry type kind name = pass.model.entry type kind name) :
    Overlaid start next.model type derivation base where
  resolved := resolved
  sealed := step.sealed overlaid.sealed
  plain := overlaid.plain
  entry kind name member undeclared := by
    have kept := same kind name member undeclared
    rw [kept] at undeclared ⊢
    rw [step.entry poised scheduled overlaid.plain overlaid.sealed]
    exact overlaid.entry kind name member undeclared

theorem base_complete (model : Model) (task : TaskId) (id other : NodeId) :
    ((model.complete task id).node other).base = (model.node other).base := by
  rw [node_complete]
  split <;> rfl

theorem Scheduled.base_leave {model : Model} {todo : List TaskId} {call : Call}
    {outer : List Call} (gathered : start.Gathered)
    (scheduled : Scheduled start ⟨model, todo, call :: outer⟩) (complete : Bool) {type : NodeId}
    (other : call.node ∉ model.derivations type) :
    ((Pass.leave model call outer complete).model.node type).base = (model.node type).base := by
  have fits := scheduled.fits call List.mem_cons_self
  refine (base_complete _ call.task call.node type).trans
    ((scheduled.finished gathered complete).base type fun based around => other ?_)
  have derives : call.remainder.base? ≠ none := by
    cases complete
    · simpa using based
    · exact based
  exact (Model.mem_derivations ..).mpr ⟨fits.based_iff.mp derives, around⟩

theorem Layered.enter {model : Model} {task : TaskId} {rest : List TaskId} {calls : List Call}
    (poised : start.Poised) (scheduled : Scheduled start ⟨model, task :: rest, calls⟩)
    (waits : (model.queue.get task).status = .waiting) (layered : Layered start model) :
    Layered start (Pass.enter model task rest calls).model := by
  have gathered := poised.gathered
  have prepared : (model.mark .running task).Prepared (Pass.enter model task rest calls).model
      (model.queue.get task).node _ := scheduled.prepared gathered waits
  have step := Step.enter model task rest calls waits
  have alike := (Model.Alike.mark model .running task).trans prepared.alike
  have before := scheduled.alike
  have shaped := before.shaped gathered.shaped
  have inside : task.index < start.queue.size := before.tasks ▸ Model.within_of_waits waits
  obtain ⟨parent, -, around⟩ := scheduled.stands gathered inside
  have fresh := scheduled.fresh task waits
  rw [← before.task] at around fresh
  have entries (id : NodeId) (kind : Symbols) (name : QName)
      (plain : (model.node id).kind ≠ .schema) (member : kind.isMember = true) :
      (Pass.enter model task rest calls).model.entry id kind name =
        Definition.join
          (if id = parent then
            (Pass.enter model task rest calls).model.referral (model.queue.get task).node kind name
          else none) (model.entry id kind name) :=
    prepared.entry ((Model.Alike.mark model .running task).shaped shaped) around plain member name
  have added (kind : Symbols) (name : QName) (definition : Definition)
      (found : (Pass.enter model task rest calls).model.referral (model.queue.get task).node
        kind name = some definition) :=
    Model.declares_of_referral ((alike.parent _).trans around) found
  have derives (type derivation base : NodeId) :=
    alike.derivesBy_iff (prepared.base type) derivation base
  constructor
  · refine layered.sourced.step alike ?_ (fun id done => (prepared.resolved id).trans done)
      (fun type derivation base => (derives type derivation base).mpr) parent _
      (fun _ _ _ => none) entries (fun kind name definition _ => added kind name definition)
      fun _ _ _ _ _ taken => by cases taken
    -- the tag that is entered had no referent, so no reference has changed
    intro id target refers
    rw [prepared.referent id]
    · exact refers
    · rintro rfl
      cases fresh.symm.trans refers
  · intro type derivation base there
    rw [derives] at there
    have overlaid := layered.overlaid type derivation base there
    refine overlaid.step step poised scheduled
      ((prepared.resolved derivation).trans overlaid.resolved) fun kind name member undeclared => ?_
    rw [entries type kind name there.plain member] at undeclared ⊢
    rw [Definition.eq_none_of_own (Definition.own_of_join undeclared).1, Definition.join_none]
    intro found here
    exact (added kind name found (Option.ite_none_right_eq_some.mp here).2).1
  · have same (type base : NodeId) :
        (Pass.enter model task rest calls).model.Derives type base ↔ model.Derives type base :=
      exists_congr fun derivation => derives type derivation base
    exact Model.lineage_grow (fun _ => False) (fun type base => (same type base).mpr)
      (fun type base there => Or.inl ((same type base).mp there)) (fun _ _ _ no => no)
      (fun _ _ no => no.elim) layered.lineage

theorem entry_complete (model : Model) (task : TaskId) (id other : NodeId) (kind : Symbols)
    (name : QName) : (model.complete task id).entry other kind name = model.entry other kind name := by
  rw [Model.entry, (alike_complete model task id).scope]
  rfl

theorem Scheduled.not_heir {model : Model} {todo : List TaskId} {call : Call} {outer : List Call}
    (gathered : start.Gathered) (scheduled : Scheduled start ⟨model, todo, call :: outer⟩)
    {base : NodeId} (plain : (start.node base).kind ≠ .schema)
    (sealed : start.Sealed model base) : call.node ∉ model.derivations base := by
  intro makes
  have before := scheduled.alike
  have runs := (scheduled.running call.task).mpr ⟨call, List.mem_cons_self, rfl⟩
  have inside : call.task.index < start.queue.size := before.tasks ▸ Queue.within_of_running runs
  rw [before.derivations, scheduled.placed call List.mem_cons_self] at makes
  obtain ⟨isDerivation, around⟩ := (Model.mem_derivations ..).mp makes
  obtain ⟨how, is⟩ := (Kind.isDerivation_iff _).mp isDerivation
  cases (done_of_heir gathered inside plain sealed is around rfl).symm.trans runs

theorem Layered.offered {model : Model} (layered : Layered start model) (shaped : model.Shaped)
    {id parent : NodeId} {remainder : Remainder} (fits : model.Fits id remainder)
    (around : (model.node id).parent = some parent) {kind : Symbols}
    (member : kind.isMember = true) {name : QName} {definition : Definition}
    (found : model.offered id remainder kind name = some definition) :
    definition.inherited = false ∧ model.Declares kind name parent definition.target := by
  refine fits.declares around member (fun source original passes held => ?_) found
  obtain ⟨tag, plain, noType⟩ := passes.plain shaped (shaped.tag_of_parent around)
  cases isInherited : original.inherited with
  | false => exact ⟨rfl, layered.sourced.own source kind name original tag plain member held isInherited⟩
  | true =>
      obtain ⟨derivation, makes, -⟩ :=
        layered.sourced.inherited source kind name original plain member held isInherited
      cases noType.symm.trans (Model.isType_of_derivation makes)

end

section

variable {start model : Model} {todo : List TaskId} {call : Call} {outer : List Call}
  {complete : Bool} {type derivation base : NodeId}

theorem Scheduled.entry_leave (gathered : start.Gathered)
    (scheduled : Scheduled start ⟨model, todo, call :: outer⟩)
    (full : call.remainder.awaited ≠ none -> complete = true) {id parent : NodeId}
    (around : (model.node call.node).parent = some parent) {kind : Symbols} (name : QName)
    (plain : (model.node id).kind ≠ .schema) (member : kind.isMember = true) :
    (Pass.leave model call outer complete).model.entry id kind name =
      Definition.join
        (if id = parent then model.offered call.node call.remainder kind name else none)
        (Definition.join
          (model.inherited call.node call.remainder (model.node id).scope kind name)
          (model.entry id kind name)) :=
  (entry_complete _ call.task call.node id kind name).trans
    ((scheduled.finished_full gathered full).entry (scheduled.alike.shaped gathered.shaped) around
      plain member name)

theorem Scheduled.based_leave (gathered : start.Gathered)
    (scheduled : Scheduled start ⟨model, todo, call :: outer⟩)
    (full : call.remainder.awaited ≠ none -> complete = true) {based : Option TypeRef}
    (is : call.remainder.base? = some based)
    (around : model.enclosing call.node Kind.isType = some type) :
    ((Pass.leave model call outer complete).model.node type).base = based :=
  (base_complete _ call.task call.node type).trans
    ((scheduled.finished_full gathered full).derived based type is around)

theorem Scheduled.derives_leave (gathered : start.Gathered)
    (scheduled : Scheduled start ⟨model, todo, call :: outer⟩)
    (full : call.remainder.awaited ≠ none -> complete = true)
    (derives : (Pass.leave model call outer complete).model.DerivesBy type call.node base) :
    model.enclosing call.node Kind.isType = some type ∧
      call.remainder.heritage? = some base ∧ call.remainder.awaited = some base := by
  have alike := scheduled.alike_leave gathered complete
  have fits := scheduled.fits call List.mem_cons_self
  have makes := derives.mem
  rw [alike.derivations] at makes
  obtain ⟨isDerivation, around⟩ := (Model.mem_derivations ..).mp makes
  obtain ⟨based, is⟩ := Option.ne_none_iff_exists'.mp (fits.based_iff.mpr isDerivation)
  have same := (scheduled.based_leave gathered full is around).symm.trans derives.base
  refine ⟨around, fits.heritage ?_ (same ▸ is)⟩
  rw [← alike.attribute]
  exact derives.written

theorem Layered.keeps_leave (gathered : start.Gathered)
    (scheduled : Scheduled start ⟨model, todo, call :: outer⟩) (layered : Layered start model)
    (complete : Bool) (derives : model.DerivesBy type derivation base) :
    (Pass.leave model call outer complete).model.DerivesBy type derivation base := by
  have other : call.node ∉ model.derivations type := by
    rw [derives.only, List.mem_singleton]
    rintro rfl
    have unresolved := scheduled.unresolved_call gathered List.mem_cons_self
    cases unresolved.symm.trans (layered.overlaid _ _ _ derives).resolved
  exact ((scheduled.alike_leave gathered complete).derivesBy_iff
    (scheduled.base_leave gathered complete other) derivation base).mpr derives

theorem Scheduled.adds_leave (gathered : start.Gathered)
    (scheduled : Scheduled start ⟨model, todo, call :: outer⟩)
    (derives : (Pass.leave model call outer complete).model.DerivesBy type derivation base) :
    derivation = call.node ∨
      call.node ∉ model.derivations type ∧ model.DerivesBy type derivation base := by
  have alike := scheduled.alike_leave gathered complete
  by_cases same : derivation = call.node
  next => exact Or.inl same
  next =>
    have other : call.node ∉ model.derivations type := by
      rw [← alike.derivations, derives.only, List.mem_singleton]
      exact Ne.symm same
    exact Or.inr ⟨other, (alike.derivesBy_iff (scheduled.base_leave gathered complete other)
      derivation base).mp derives⟩

theorem Layered.sourced_leave (gathered : start.Gathered)
    (scheduled : Scheduled start ⟨model, todo, call :: outer⟩) (layered : Layered start model)
    (full : call.remainder.awaited ≠ none -> complete = true) :
    (Pass.leave model call outer complete).model.Sourced := by
  have shaped := scheduled.alike.shaped gathered.shaped
  have alike := scheduled.alike_leave gathered complete
  have referent := scheduled.referent_leave gathered complete
  have resolved := scheduled.resolved_leave gathered complete
  have fits := scheduled.fits call List.mem_cons_self
  obtain ⟨parent, -, around⟩ := scheduled.stands_call gathered List.mem_cons_self
  have refers (id target : NodeId) (there : (model.node id).referent = some target) :=
    (referent id).trans there
  refine layered.sourced.step alike refers (fun id done => ?_)
    (fun _ _ _ => layered.keeps_leave gathered scheduled complete) parent _ _
    (fun _ _ name => scheduled.entry_leave gathered full around name)
    (fun kind name definition member found => ?_) fun id kind name definition plain found => ?_
  · rw [resolved, done, ite_self]
  · obtain ⟨own, declares⟩ := layered.offered shaped fits around member found
    exact ⟨own, declares.mono alike refers⟩
  · obtain ⟨inherited, outside, target, heir⟩ := Model.inherited_eq_some shaped plain found
    obtain ⟨based, written⟩ := fits.of_heritage heir
    have makes : call.node ∈ model.derivations id :=
      (Model.mem_derivations ..).mpr ⟨fits.based_iff.mp (by simp [based]), outside⟩
    rw [alike.derivations]
    refine ⟨inherited, call.node, makes, by rw [resolved, if_pos rfl], fun only => ⟨target, ?_⟩⟩
    refine ⟨(alike.derivations id).trans only, ?_, ?_⟩
    · rw [alike.attribute]
      exact written
    · exact scheduled.based_leave gathered full based outside

theorem Layered.overlaid_leave (poised : start.Poised)
    (scheduled : Scheduled start ⟨model, todo, call :: outer⟩) (layered : Layered start model)
    (step : Step ⟨model, todo, call :: outer⟩ (Pass.leave model call outer complete))
    (full : call.remainder.awaited ≠ none -> complete = true ∧ todo = [])
    (derives : (Pass.leave model call outer complete).model.DerivesBy type call.node base) :
    start.Sealed model base ∧
      Overlaid start (Pass.leave model call outer complete).model type call.node base := by
  have gathered := poised.gathered
  have shaped := scheduled.alike.shaped gathered.shaped
  have alike := scheduled.alike_leave gathered complete
  have fits := scheduled.fits call List.mem_cons_self
  have unresolved := scheduled.unresolved_call gathered List.mem_cons_self
  obtain ⟨parent, -, around⟩ := scheduled.stands_call gathered List.mem_cons_self
  obtain ⟨outside, heir, awaits⟩ :=
    scheduled.derives_leave gathered (fun awaits => (full awaits).1) derives
  have todo := (full (by rw [awaits]; exact Option.some_ne_none base)).2
  have sealed := scheduled.sealed_target gathered rfl todo awaits
  have plainBase := plain_of_awaited fits awaits
  rw [scheduled.alike.kind] at plainBase
  have plain := derives.plain
  rw [alike.kind] at plain
  refine ⟨sealed, ?_, step.sealed sealed, plainBase, fun kind name member undeclared => ?_⟩
  · rw [scheduled.resolved_leave gathered complete, if_pos rfl]
  rw [scheduled.entry_leave gathered (fun awaits => (full awaits).1) around name plain member]
    at undeclared ⊢
  obtain ⟨none_, inner⟩ := Definition.own_of_join undeclared
  have nothing : model.entry type kind name = none := by
    refine Definition.eq_none_of_own (Definition.own_of_join inner).2 fun found there => ?_
    refine Bool.eq_false_iff.mpr fun isInherited => ?_
    -- nothing can have been inherited before: the only derivation of the type ends now
    obtain ⟨derivation, makes, done, -⟩ :=
      layered.sourced.inherited type kind name found plain member there isInherited
    rw [← alike.derivations, derives.only, List.mem_singleton] at makes
    cases unresolved.symm.trans (makes ▸ done)
  rw [Definition.eq_none_of_own none_ fun found there => ?_, Definition.join_none, nothing,
    Definition.join_of_none, Model.inherited_eq outside heir,
    step.entry poised scheduled plainBase sealed]
  exact (layered.offered shaped fits around member (Option.ite_none_right_eq_some.mp there).2).1

theorem Layered.leave (poised : start.Poised)
    (scheduled : Scheduled start ⟨model, todo, call :: outer⟩) (layered : Layered start model)
    (step : Step ⟨model, todo, call :: outer⟩ (Pass.leave model call outer complete))
    (full : call.remainder.awaited ≠ none -> complete = true ∧ todo = []) :
    Layered start (Pass.leave model call outer complete).model := by
  have gathered := poised.gathered
  have shaped := scheduled.alike.shaped gathered.shaped
  have alike := scheduled.alike_leave gathered complete
  have fits := scheduled.fits call List.mem_cons_self
  obtain ⟨parent, -, around⟩ := scheduled.stands_call gathered List.mem_cons_self
  have keeps (type base : NodeId) (derives : model.Derives type base) :
      (Pass.leave model call outer complete).model.Derives type base := by
    obtain ⟨derivation, by_⟩ := derives
    exact ⟨derivation, layered.keeps_leave gathered scheduled complete by_⟩
  refine ⟨layered.sourced_leave gathered scheduled fun awaits => (full awaits).1, ?_, ?_⟩
  · intro type derivation base derives
    -- the base is one that is recorded now, or the type was derived before and is sealed
    rcases scheduled.adds_leave gathered derives with rfl | ⟨other, before⟩
    next => exact (layered.overlaid_leave poised scheduled step full derives).2
    next =>
      have overlaid := layered.overlaid type derivation base before
      refine overlaid.step step poised scheduled ?_ fun kind name member undeclared => ?_
      · rw [scheduled.resolved_leave gathered complete, overlaid.resolved, ite_self]
      rw [scheduled.entry_leave gathered (fun awaits => (full awaits).1) around name before.plain
        member] at undeclared ⊢
      have nothing : model.inherited call.node call.remainder (model.node type).scope kind name =
          none := by
        refine Option.eq_none_iff_forall_ne_some.mpr fun found taken => other ?_
        obtain ⟨-, outside, target, heir⟩ := Model.inherited_eq_some shaped before.plain taken
        have based := (fits.of_heritage heir).1
        exact (Model.mem_derivations ..).mpr ⟨fits.based_iff.mp (by simp [based]), outside⟩
      rw [nothing, Definition.join_none,
        Definition.eq_none_of_own (Definition.own_of_join undeclared).1, Definition.join_none]
      intro found there
      exact (layered.offered shaped fits around member
        (Option.ite_none_right_eq_some.mp there).2).1
  · refine Model.lineage_grow (fun type => call.node ∈ model.derivations type) keeps ?_ ?_ ?_
      layered.lineage
    · rintro type base ⟨derivation, derives⟩
      rcases scheduled.adds_leave gathered derives with rfl | ⟨-, before⟩
      · exact Or.inr (alike.derivations type ▸ derives.mem)
      · exact Or.inl ⟨derivation, before⟩
    · rintro type base ⟨derivation, derives⟩
      have overlaid := layered.overlaid type derivation base derives
      exact scheduled.not_heir gathered overlaid.plain overlaid.sealed
    · rintro type base makes ⟨derivation, derives⟩
      rw [← alike.derivations, derives.only, List.mem_singleton] at makes
      subst makes
      obtain ⟨sealed, overlaid⟩ := layered.overlaid_leave poised scheduled step full derives
      exact scheduled.not_heir gathered overlaid.plain sealed

end

section

variable {start : Model} {pass next : Pass}

theorem Step.layered (step : Step pass next) (poised : start.Poised)
    (scheduled : Scheduled start pass) (uncircular : next.model.Uncircular)
    (layered : Layered start pass.model) : Layered start next.model := by
  cases step with
  | enter model task rest calls waits => exact layered.enter poised scheduled waits
  | skip => exact layered
  | ignore => exact layered
  | leave model call outer =>
      exact layered.leave poised scheduled (.leave model call outer) fun _ => ⟨rfl, rfl⟩
  | circle model task rest call outer runs =>
      have awaits := scheduled.awaited_of_uncircular poised.gathered uncircular
      exact layered.leave poised scheduled (.circle model task rest call outer runs) fun other =>
        absurd awaits other

theorem Reaches.layered (reaches : Reaches pass next) (poised : start.Poised)
    (scheduled : Scheduled start pass) (uncircular : next.model.Uncircular)
    (layered : Layered start pass.model) : Layered start next.model :=
  reaches.keeps poised scheduled uncircular
    (fun _ _ step along clean => step.layered poised along clean) layered

theorem Step.resolved (step : Step pass next) (gathered : start.Gathered)
    (scheduled : Scheduled start pass) {id : NodeId}
    (resolved : (pass.model.node id).isResolved = true) :
    (next.model.node id).isResolved = true := by
  cases step with
  | enter model task rest calls waits =>
      exact ((scheduled.prepared gathered waits).resolved id).trans resolved
  | skip => exact resolved
  | ignore => exact resolved
  | leave => rw [scheduled.resolved_leave gathered, resolved, ite_self]
  | circle => rw [scheduled.resolved_leave gathered, resolved, ite_self]

theorem Step.base (step : Step pass next) (gathered : start.Gathered)
    (scheduled : Scheduled start pass) {type : NodeId}
    (done : ∀ derivation ∈ start.derivations type,
      (pass.model.node derivation).isResolved = true) :
    (next.model.node type).base = (pass.model.node type).base := by
  have other {call : Call} (member : call ∈ pass.calls) :
      call.node ∉ pass.model.derivations type := by
    intro makes
    rw [scheduled.alike.derivations] at makes
    cases (scheduled.unresolved_call gathered member).symm.trans (done call.node makes)
  cases step with
  | enter model task rest calls waits => exact (scheduled.prepared gathered waits).base type
  | skip => rfl
  | ignore => rfl
  | leave => exact scheduled.base_leave gathered true (other List.mem_cons_self)
  | circle => exact scheduled.base_leave gathered false (other List.mem_cons_self)

theorem Reaches.base (reaches : Reaches pass next) (poised : start.Poised)
    (scheduled : Scheduled start pass) {type : NodeId}
    (done : ∀ derivation ∈ start.derivations type,
      (pass.model.node derivation).isResolved = true) :
    (next.model.node type).base = (pass.model.node type).base ∧
      ∀ derivation ∈ start.derivations type, (next.model.node derivation).isResolved = true := by
  induction reaches with
  | refl => exact ⟨rfl, done⟩
  | tail before step ih =>
      have along := Reaches.scheduled before poised scheduled
      refine ⟨(step.base poised.gathered along ih.2).trans ih.1, fun derivation makes => ?_⟩
      exact step.resolved poised.gathered along (ih.2 derivation makes)

theorem Finishes.cases_leave {call : Call} (finishes : Finishes pass next call) :
    ∃ complete, next = Pass.leave pass.model call next.calls complete ∧
      (complete = true -> pass.todo = []) := by
  obtain ⟨step, calls⟩ := finishes
  cases step with
  | enter model task rest outer =>
      have longer := congrArg List.length calls
      simp only [Pass.enter, List.length_cons] at longer
      omega
  | skip model task rest outer =>
      have longer := congrArg List.length calls
      simp at longer
  | ignore => cases calls
  | leave model first outer =>
      cases calls
      exact ⟨true, rfl, fun _ => rfl⟩
  | circle model task rest first outer =>
      cases calls
      exact ⟨false, rfl, fun other => by cases other⟩

theorem Finishes.resolved {call : Call} (finishes : Finishes pass next call)
    (gathered : start.Gathered) (scheduled : Scheduled start pass) :
    (next.model.node call.node).isResolved = true := by
  obtain ⟨complete, same, -⟩ := finishes.cases_leave
  have calls := finishes.2
  obtain ⟨model, todo, open_⟩ := pass
  dsimp only at calls same
  subst calls
  rw [same, scheduled.resolved_leave gathered complete, if_pos rfl]

/-- What a type holds is what it declares itself, or else what its base holds. -/
theorem Layered.rebuilt {model : Model} (layered : Layered start model) (alike : start.Alike model)
    {type : NodeId} {chain : List NodeId} (line : model.Lineage type chain)
    (plain : (model.node type).kind ≠ .schema)
    (single : ∀ each ∈ chain, (model.derivations each).length ≤ 1) {kind : Symbols}
    (member : kind.isMember = true) (name : QName) :
    model.entry type kind name = model.rebuilt kind name chain := by
  induction line with
  | @root type last =>
      have declared (definition : Definition)
          (found : model.entry type kind name = some definition) :
          definition.inherited = false := by
        refine Bool.eq_false_iff.mpr fun inherited => ?_
        obtain ⟨derivation, makes, -, only⟩ :=
          layered.sourced.inherited type kind name definition plain member found inherited
        obtain ⟨other, is⟩ := List.length_eq_one_iff.mp (Nat.le_antisymm
          (single type List.mem_cons_self) (List.length_pos_of_mem makes))
        rw [is, List.mem_singleton] at makes
        subst makes
        obtain ⟨base, derives⟩ := only is
        exact last base ⟨derivation, derives⟩
      rw [Model.rebuilt, Model.rebuilt, Option.map_none, Option.or_none]
      rcases model.ownEntry_cases type kind name with ⟨definition, found, own⟩ | ⟨none_, own⟩
      · rw [found, own]
      · rw [own, Definition.eq_none_of_own none_ declared]
  | @derived type base further derives line ih =>
      obtain ⟨derivation, derives⟩ := derives
      have overlaid := layered.overlaid type derivation base derives
      have below := ih (alike.kind base ▸ overlaid.plain) fun each member =>
        single each (List.mem_cons_of_mem _ member)
      rw [Model.rebuilt, ← below]
      rcases model.ownEntry_cases type kind name with ⟨definition, found, own⟩ | ⟨none_, own⟩
      · rw [found, own, Option.some_or]
      · rw [own, Option.none_or, overlaid.entry kind name member none_]

end

end Pass

namespace Compilation

end Compilation

end XmlSchema

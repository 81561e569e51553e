import XmlSchema.Proofs.Reading.Allotment
import XmlSchema.Proofs.Resolution.References

set_option autoImplicit false

namespace XmlSchema

namespace Kind

theorem isDeferred_of_holds {outer inner : Kind} (boundary : outer.isBoundary = true)
    (holds : outer.Holds inner) : inner.isDeferred = false := by
  cases outer <;> cases boundary <;> cases inner <;> revert holds <;> decide

theorem isBody_of_holds {inner : Kind} (holds : Kind.schema.Holds inner) : inner.isBody = false := by
  cases inner <;> revert holds <;> decide

theorem isBoundary_of_symbols {kind : Kind} {symbols : Symbols} (listed : kind.symbols? = some symbols)
    (member : symbols.isMember = true) : kind.isBoundary = true := by
  cases kind <;> cases listed <;> first | rfl | cases member

theorem symbols_of_isBoundary {kind : Kind} (boundary : kind.isBoundary = true) :
    ∃ symbols, kind.symbols? = some symbols := by
  cases kind <;> cases boundary
  · exact ⟨.elements, rfl⟩
  · exact ⟨.attributes, rfl⟩

theorem eq_of_symbols {kind other : Kind} {symbols : Symbols} (boundary : kind.isBoundary = true)
    (listed : kind.symbols? = some symbols) (same : other.symbols? = some symbols) :
    other = kind := by
  cases kind <;> cases boundary <;> cases listed <;> cases other <;> cases same <;> rfl

theorem isDeferred_of_isBoundary {kind : Kind} (boundary : kind.isBoundary = true) :
    kind.isDeferred = true := by
  cases kind <;> cases boundary <;> rfl

end Kind

theorem Node.isBody_of_body {node : Node} {kinds : List Symbols} {factor : Occurs}
    (passes : node.body? = some (kinds, factor)) : node.kind.isBody = true := by
  unfold Node.body? at passes
  split at passes
  case h_6 => cases passes
  all_goals simp [Kind.isBody, *]

theorem Scopes.exists_chain (scopes : Scopes) (id : ScopeId) :
    ∃ outer, scopes.chain id = id :: outer := by
  rw [chain]
  split
  · exact ⟨[], rfl⟩
  · split
    · exact ⟨_, rfl⟩
    · exact ⟨[], rfl⟩

namespace Model

def Names (model : Model) (id : NodeId) (name : QName) : Prop :=
  ∃ written, (model.node id).attribute? "ref" = some written ∧
    model.readName id written = .ok name

def IsOwn (model : Model) (id : NodeId) (name : QName) : Prop :=
  (model.scopes.get (model.node id).scope).home = model.namespaces.find name.uriText

def IsGlobal (model : Model) (id : NodeId) : Prop :=
  ∃ parent, (model.node id).parent = some parent ∧ (model.node parent).kind = .schema

def path (model : Model) (id : NodeId) (name : QName) : List ScopeId :=
  match model.namespaces.find name.uriText with
  | none => []
  | some home =>
      let own := (model.node id).scope
      model.scopes.chain
        (if (model.scopes.get own).home = some home then own else (model.namespaces.get home).root)

/-- The first scope on the path that has an entry of the name leads to the target. -/
def Nearest (model : Model) (id : NodeId) (kind : Symbols) (name : QName) (target : NodeId) : Prop :=
  ∃ inner scope outer definition, model.path id name = inner ++ scope :: outer ∧
    (∀ closer ∈ inner, (model.scopes.table closer kind).get? name = none) ∧
    (model.scopes.table scope kind).get? name = some definition ∧ definition.target = target

theorem find_iff_nearest {model : Model} {id : NodeId} {kind : Symbols} {name : QName}
    {target : NodeId} :
    model.find id kind name = some target ↔ model.Nearest id kind name target := by
  have found : model.find id kind name =
      ((model.path id name).findSome? fun scope => (model.scopes.table scope kind).get? name).map
        Definition.target := by
    unfold find path Namespaces.lookup
    cases model.namespaces.find name.uriText <;> rfl
  rw [found, Option.map_eq_some_iff]
  constructor
  · rintro ⟨definition, looked, rfl⟩
    obtain ⟨inner, scope, outer, path, entry, closer⟩ := List.findSome?_eq_some_iff.mp looked
    exact ⟨inner, scope, outer, definition, path, closer, entry, rfl⟩
  · rintro ⟨inner, scope, outer, definition, path, closer, entry, rfl⟩
    exact ⟨definition, List.findSome?_eq_some_iff.mpr ⟨inner, scope, outer, path, entry, closer⟩, rfl⟩

theorem Names.unique {model : Model} {id : NodeId} {name other : QName}
    (names : model.Names id name) (again : model.Names id other) : name = other := by
  obtain ⟨written, there, read⟩ := names
  obtain ⟨same, found, reads⟩ := again
  cases there.symm.trans found
  exact Except.ok.inj (read.symm.trans reads)

theorem Alike.names {old new : Model} (alike : old.Alike new) (id : NodeId) (name : QName) :
    new.Names id name ↔ old.Names id name := by
  simp only [Names, alike.attribute, alike.readName alike.sources]

theorem Alike.isOwn {old new : Model} (alike : old.Alike new) (id : NodeId) (name : QName) :
    new.IsOwn id name ↔ old.IsOwn id name := by
  have home : (new.scopes.get (old.node id).scope).home = (old.scopes.get (old.node id).scope).home :=
    (congrArg Scope.home (alike.frame (old.node id).scope) :)
  unfold IsOwn Namespaces.find
  rw [alike.scope, home, alike.registry.byName]

theorem Alike.isGlobal {old new : Model} (alike : old.Alike new) (id : NodeId) :
    new.IsGlobal id ↔ old.IsGlobal id := by
  simp only [IsGlobal, alike.parent, alike.kind]

def refersTo (model : Model) (id : NodeId) : Option NodeId :=
  (model.node id).kind.symbols?.bind fun kind =>
    ((model.node id).attribute? "ref").bind fun written =>
      model.leadsTo id ⟨.referent, kind, written⟩

theorem refersTo_iff {model : Model} {id target : NodeId} {kind : Symbols}
    (listed : (model.node id).kind.symbols? = some kind) :
    model.refersTo id = some target ↔
      ∃ name, model.Names id name ∧ model.Nearest id kind name target := by
  unfold refersTo Names leadsTo
  simp only [listed, Option.bind_some, Option.bind_eq_some_iff, ← find_iff_nearest]
  constructor
  · rintro ⟨written, there, leads⟩
    cases read : model.readName id written with
    | error fault =>
        rw [read] at leads
        cases leads
    | ok name =>
        rw [read] at leads
        exact ⟨name, ⟨written, there, read⟩, leads⟩
  · rintro ⟨name, ⟨written, there, read⟩, found⟩
    refine ⟨written, there, ?_⟩
    rw [read]
    exact found

section

variable {model : Model} {id : NodeId}

theorem referent_followMember_eq (tag : model.IsTag id) (fresh : (model.node id).referent = none)
    (kind : Symbols) (written : String) :
    ((model.followMember id kind written).node id).referent =
      model.leadsTo id ⟨.referent, kind, written⟩ := by
  cases leads : model.leadsTo id ⟨.referent, kind, written⟩ with
  | some target => exact referent_followMember tag leads
  | none =>
      have same := node_congr (nodes_follow model id kind written)
      rw [← target?_follow] at leads
      unfold followMember
      dsimp only at leads ⊢
      generalize model.follow id kind written = followed at same leads ⊢
      obtain ⟨after, reference⟩ := followed
      rw [← same] at fresh
      cases reference with
      | found name other => cases leads
      | malformed => exact fresh
      | absent name => exact fresh

theorem referent_resolveMember (tag : model.IsTag id) (fresh : (model.node id).referent = none)
    (kind : Symbols) :
    ((model.resolveMember id kind).node id).referent =
      ((model.node id).attribute? "ref").bind fun written =>
        model.leadsTo id ⟨.referent, kind, written⟩ := by
  -- only following the name in `ref` has to do with the referent
  have rest (middle : Model) (target : Option NodeId)
      (before : (middle.node id).referent = target) :
      ((middle.followMemberType id).node id).referent = target ∧ ∀ written,
        (((middle.followMemberType id).followHead id written).node id).referent = target := by
    have typed : ((middle.followMemberType id).node id).referent = target :=
      holds_followMemberType (fun node => node.referent = target) (fun _ _ _ refers => refers) before
    exact ⟨typed, fun written => holds_followHead (fun node => node.referent = target)
      (fun _ refers => refers) written typed⟩
  unfold resolveMember
  dsimp only
  cases (model.node id).attribute? "ref" <;>
    cases (model.node id).attribute? "substitutiongroup" <;>
      simp only [Option.bind_none, Option.bind_some]
  · exact (rest model none fresh).1
  · exact (rest model none fresh).2 _
  · exact (rest _ _ (referent_followMember_eq tag fresh kind _)).1
  · exact (rest _ _ (referent_followMember_eq tag fresh kind _)).2 _

theorem referent_prepareGroup (tag : model.IsTag id) (fresh : (model.node id).referent = none)
    (kind members : Symbols) :
    ((model.prepareGroup id kind members).1.node id).referent =
      ((model.node id).attribute? "ref").bind fun written =>
        model.leadsTo id ⟨.referent, kind, written⟩ := by
  unfold prepareGroup
  cases (model.node id).attribute? "ref" with
  | none => exact fresh
  | some written =>
      have nodes := nodes_follow model id kind written
      rw [Option.bind_some, ← target?_follow]
      dsimp only
      generalize model.follow id kind written = followed at nodes ⊢
      obtain ⟨after, reference⟩ := followed
      rw [← node_congr nodes] at fresh
      cases reference with
      | found name other => exact referent_changeNode ⟨tag.1, nodes ▸ tag.2⟩ other
      | malformed => exact fresh
      | absent name => exact fresh

theorem referent_prepare (tag : model.IsTag id) (fresh : (model.node id).referent = none)
    (deferred : (model.node id).kind.isDeferred = true) :
    ((model.prepare id).1.node id).referent = model.refersTo id := by
  -- nothing but an element, an attribute or a group is given a referent
  have unset (plain : (model.node id).kind.isBoundary = false ∧
      (model.node id).kind.isGroup = false) :
      ((model.prepare id).1.node id).referent = none := by
    refine holds_prepare (fun node => node.referent = none) (fun _ refers => ?_) (fun _ none_ => none_)
      (fun _ _ _ none_ => none_) (fun _ _ _ none_ => none_) fresh
    simp [plain] at refers
  unfold refersTo
  cases kind : (model.node id).kind with
  | element =>
      simp only [prepare, kind]
      exact referent_resolveMember tag fresh .elements
  | attributeTag =>
      simp only [prepare, kind]
      exact referent_resolveMember tag fresh .attributes
  | group =>
      simp only [prepare, kind]
      exact referent_prepareGroup tag fresh .groups .elements
  | attributeGroup =>
      simp only [prepare, kind]
      exact referent_prepareGroup tag fresh .attributeGroups .attributes
  | complexType | simpleType =>
      rw [kind] at deferred
      cases deferred
  | _ => exact unset (by rw [kind]; decide)

end

def Quiet (model : Model) (scope : ScopeId) : Prop :=
  scope = Builtin.scope ∨ ∃ id, model.IsTag id ∧ (model.node id).kind.isBoundary = true ∧
    scope = (model.node id).scope

/-- The root scope of a namespace, or any other scope next to that of the built-in types. -/
def Outermost (model : Model) (scope : ScopeId) : Prop :=
  (model.scopes.get scope).parent = some Builtin.scope

section

variable {model : Model} {id : NodeId} {scope : ScopeId}

theorem Shaped.schema_of_outermost (shaped : model.Shaped) (tag : model.IsTag id)
    (outermost : model.Outermost (model.node id).scope) : (model.node id).kind = .schema := by
  cases inside : (model.node id).parent with
  | none => exact (shaped.root id tag inside).1
  | some parent =>
      have stands := shaped.standsIn inside
      have same := stands.scope.symm.trans outermost
      exact absurd (Option.some.inj same) (shaped.scope_ne_builtin stands.tag)

theorem Shaped.outermost_of_schema (shaped : model.Shaped) (tag : model.IsTag id)
    (schema : (model.node id).kind = .schema) : model.Outermost (model.node id).scope :=
  (shaped.root id tag (shaped.parent_of_schema schema)).2

theorem Gathered.quiet (gathered : model.Gathered) (quiet : model.Quiet scope) {kind : Symbols}
    (member : kind.isMember = true) (name : QName) :
    (model.scopes.table scope kind).get? name = none := by
  have shaped := gathered.shaped
  cases found : (model.scopes.table scope kind).get? name with
  | none => rfl
  | some definition =>
      rcases quiet with rfl | ⟨id, tag, boundary, rfl⟩
      next =>
        have listed : kind ≠ .types := by
          rintro rfl
          cases member
        obtain ⟨parent, inside, there⟩ := gathered.homed _ kind name definition (.inr listed) found
        exact absurd there (shaped.scope_ne_builtin (shaped.standsIn inside).tag)
      next =>
        have plain : (model.node id).kind ≠ .schema := by
          intro schema
          rw [schema] at boundary
          cases boundary
        have inside := gathered.homed.parent shaped tag plain found
        have listed := (gathered.filed _ kind name definition found).2
        have deferred := Kind.isDeferred_of_isBoundary (Kind.isBoundary_of_symbols listed member)
        cases deferred.symm.trans (Kind.isDeferred_of_holds boundary (shaped.standsIn inside).holds)

theorem Quiet.ne_surrounding (quiet : model.Quiet scope) (shaped : model.Shaped)
    (tag : model.IsTag id) (deferred : (model.node id).kind.isDeferred = true) :
    scope ≠ model.scopes.surrounding (model.node id).scope := by
  obtain ⟨parent, stands, inside⟩ := shaped.parent_of_kind tag (by
    intro schema
    rw [schema] at deferred
    cases deferred)
  rw [shaped.surrounding_eq inside]
  rcases quiet with rfl | ⟨other, tagged, boundary, rfl⟩
  · exact fun same => shaped.scope_ne_builtin stands.tag same.symm
  · intro same
    have plain : (model.node other).kind ≠ .schema := by
      intro schema
      rw [schema] at boundary
      cases boundary
    obtain rfl := shaped.apart other parent tagged stands.tag plain same
    cases deferred.symm.trans (Kind.isDeferred_of_holds boundary stands.holds)

theorem Quiet.ne_type (quiet : model.Quiet scope) (shaped : model.Shaped) (tag : model.IsTag id)
    (type : (model.node id).kind.isType = true) : scope ≠ (model.node id).scope := by
  rcases quiet with rfl | ⟨other, tagged, boundary, rfl⟩
  · exact fun same => shaped.scope_ne_builtin tag same.symm
  · intro same
    have plain : (model.node other).kind ≠ .schema := by
      intro schema
      rw [schema] at boundary
      cases boundary
    obtain rfl := shaped.apart other id tagged tag plain same
    cases kind : (model.node other).kind <;> rw [kind] at boundary type <;> cases boundary <;>
      cases type

theorem Shaped.mem_chain (shaped : model.Shaped) (tag : model.IsTag id)
    (member : scope ∈ model.scopes.chain (model.node id).scope) :
    scope = Builtin.scope ∨ model.Outermost scope ∨ scope = (model.node id).scope ∨
      ∃ around ∈ model.ancestors id, (model.node around).kind ≠ .schema ∧
        scope = (model.node around).scope := by
  obtain ⟨index⟩ := id
  induction index using Nat.strongRecOn with
  | ind index ih =>
      rw [Scopes.chain] at member
      cases inside : (model.node ⟨index⟩).parent with
      | none =>
          rw [(shaped.root _ tag inside).2] at member
          dsimp only at member
          split at member
          next =>
            rcases List.mem_cons.mp member with same | outer
            · exact .inr (.inr (.inl same))
            · rw [Scopes.chain, shaped.outermost] at outer
              exact .inl (List.mem_singleton.mp outer)
          next => exact .inr (.inr (.inl (List.mem_singleton.mp member)))
      | some parent =>
          -- the scope around a body is that of the tag around it, for which the induction speaks
          have stands := shaped.standsIn inside
          rw [stands.scope] at member
          dsimp only at member
          split at member
          next =>
            rw [shaped.ancestors_eq inside]
            rcases List.mem_cons.mp member with same | outer
            next => exact .inr (.inr (.inl same))
            next =>
              rcases ih parent.index stands.lower stands.tag outer with builtin | outer | rfl | further
              · exact .inl builtin
              · exact .inr (.inl outer)
              · by_cases schema : (model.node parent).kind = .schema
                · exact .inr (.inl (shaped.outermost_of_schema stands.tag schema))
                · exact .inr (.inr (.inr ⟨parent, List.mem_cons_self, schema, rfl⟩))
              · obtain ⟨around, above, rest⟩ := further
                exact .inr (.inr (.inr ⟨around, List.mem_cons_of_mem _ above, rest⟩))
          next => exact .inr (.inr (.inl (List.mem_singleton.mp member)))

theorem Shaped.mem_path (shaped : model.Shaped) (tag : model.IsTag id) {name : QName}
    (member : scope ∈ model.path id name) :
    scope = Builtin.scope ∨ model.Outermost scope ∨
      model.IsOwn id name ∧
        (scope = (model.node id).scope ∨
          ∃ around ∈ model.ancestors id, (model.node around).kind ≠ .schema ∧
            scope = (model.node around).scope) := by
  unfold path at member
  cases known : model.namespaces.find name.uriText with
  | none =>
      rw [known] at member
      cases member
  | some home =>
      rw [known] at member
      dsimp only at member
      by_cases own : (model.scopes.get (model.node id).scope).home = some home
      next =>
        rw [if_pos own] at member
        rcases shaped.mem_chain tag member with builtin | outer | body
        · exact .inl builtin
        · exact .inr (.inl outer)
        · exact .inr (.inr ⟨own.trans known.symm, body⟩)
      next =>
        rw [if_neg own, Scopes.chain] at member
        have root := shaped.registry.around home (shaped.registry.byName _ home known)
        rw [root] at member
        dsimp only at member
        split at member
        next =>
          rcases List.mem_cons.mp member with rfl | outer
          · exact .inr (.inl root)
          · rw [Scopes.chain, shaped.outermost] at outer
            exact .inl (List.mem_singleton.mp outer)
        next =>
          rw [List.mem_singleton.mp member]
          exact .inr (.inl root)

theorem Shaped.schema_around (shaped : model.Shaped) (isGlobal : model.IsGlobal id) {around : NodeId}
    (above : around ∈ model.ancestors id) : (model.node around).kind = .schema := by
  obtain ⟨parent, inside, schema⟩ := isGlobal
  rw [shaped.ancestors_eq inside] at above
  rcases List.mem_cons.mp above with rfl | further
  · exact schema
  · rw [ancestors, shaped.parent_of_schema schema] at further
    cases further

theorem Shaped.isGlobal (shaped : model.Shaped) (tag : model.IsTag id)
    (deferred : (model.node id).kind.isDeferred = true)
    (outermost : model.Outermost (model.scopes.surrounding (model.node id).scope)) :
    model.IsGlobal id := by
  obtain ⟨parent, stands, inside⟩ := shaped.parent_of_kind tag (by
    intro schema
    rw [schema] at deferred
    cases deferred)
  rw [shaped.surrounding_eq inside] at outermost
  exact ⟨parent, inside, shaped.schema_of_outermost stands.tag outermost⟩

theorem Gathered.outermost (gathered : model.Gathered) (outermost : model.Outermost scope)
    {kind : Symbols} {name : QName} {definition : Definition}
    (found : (model.scopes.table scope kind).get? name = some definition) :
    model.IsGlobal definition.target := by
  have shaped := gathered.shaped
  have apart : scope ≠ Builtin.scope := by
    rintro rfl
    cases outermost.symm.trans shaped.outermost
  obtain ⟨parent, inside, rfl⟩ := gathered.homed scope kind name definition (.inl apart) found
  exact ⟨parent, inside, shaped.schema_of_outermost (shaped.standsIn inside).tag outermost⟩

theorem Fits.eq_nothing {remainder : Remainder} (fits : model.Fits id remainder)
    (holds : Kind.schema.Holds (model.node id).kind)
    (alone : (model.node id).kind.isGroup = true -> (model.node id).referent = none) :
    remainder = .nothing := by
  have plain := Kind.isBody_of_holds holds
  cases remainder with
  | nothing => rfl
  | own kinds factor =>
      cases plain.symm.trans (Node.isBody_of_body fits)
  | body name target members =>
      obtain ⟨refers, -, group⟩ := fits
      have group : (model.node id).kind.isGroup = true := by
        rcases group with ⟨is, -⟩ | ⟨is, -⟩ <;> rw [is] <;> rfl
      cases (alone group).symm.trans refers
  | derivation how base =>
      rw [fits.1] at plain
      cases how <;> cases plain
  | inheritance how target written =>
      rw [fits.1] at plain
      cases how <;> cases plain

end

end Model

namespace Pass

section

variable {start model : Model} {pass next : Pass}

theorem Scheduled.deferred_call (gathered : start.Gathered) (scheduled : Scheduled start pass)
    {call : Call} (member : call ∈ pass.calls) :
    start.IsTag call.node ∧ (start.node call.node).kind.isDeferred = true := by
  have runs := (scheduled.running call.task).mpr ⟨call, member, rfl⟩
  have inside : call.task.index < start.queue.size :=
    scheduled.alike.tasks ▸ Queue.within_of_running runs
  rw [scheduled.placed call member]
  exact gathered.queued.deferred call.task inside

theorem Scheduled.deferred_task (gathered : start.Gathered) (scheduled : Scheduled start pass)
    {task : TaskId} (waits : (pass.model.queue.get task).status = .waiting) :
    start.IsTag (pass.model.queue.get task).node ∧
      (start.node (pass.model.queue.get task).node).kind.isDeferred = true := by
  rw [scheduled.alike.task]
  exact gathered.queued.deferred task (scheduled.alike.tasks ▸ Model.within_of_waits waits)

theorem Scheduled.referent_enter (gathered : start.Gathered) {task : TaskId} {rest : List TaskId}
    {calls : List Call} (scheduled : Scheduled start ⟨model, task :: rest, calls⟩)
    (waits : (model.queue.get task).status = .waiting) :
    ((Pass.enter model task rest calls).model.node (model.queue.get task).node).referent =
      model.refersTo (model.queue.get task).node := by
  obtain ⟨tag, deferred⟩ := scheduled.deferred_task gathered waits
  have marked := Model.Follows.mark (model.queue.get task).node model .running task
  have both := scheduled.alike.trans marked.alike
  have fresh := scheduled.fresh task waits
  rw [← scheduled.alike.task] at fresh
  refine (Model.referent_prepare ((both.isTag _).mpr tag) fresh
    ((congrArg Kind.isDeferred (both.kind _)).trans deferred)).trans ?_
  simp only [Model.refersTo, Node.attribute?, marked.alike.kind, marked.alike.attributes,
    marked.leadsTo]

theorem Scheduled.entry_enter (gathered : start.Gathered) {task : TaskId} {rest : List TaskId}
    {calls : List Call} (scheduled : Scheduled start ⟨model, task :: rest, calls⟩)
    (waits : (model.queue.get task).status = .waiting) {scope : ScopeId} {kind : Symbols}
    {name : QName} {definition : Definition} (member : kind.isMember = true)
    (found : ((Pass.enter model task rest calls).model.scopes.table scope kind).get? name =
      some definition) :
    (∃ old, (model.scopes.table scope kind).get? name = some old ∧
        definition.target = old.target) ∨
      scope = start.scopes.surrounding (start.node (model.queue.get task).node).scope ∧
        (start.node (model.queue.get task).node).kind.symbols? = some kind ∧
        model.refersTo (model.queue.get task).node = some definition.target := by
  have alike := scheduled.alike.trans (Model.Alike.mark model .running task)
  have prepared : (model.mark .running task).Prepared (Pass.enter model task rest calls).model
      (model.queue.get task).node _ := scheduled.prepared gathered waits
  have both := alike.trans prepared.alike
  rw [prepared.tables scope kind name member] at found
  unfold Definition.join at found
  split at found
  next => exact .inl ⟨definition, found, rfl⟩
  next added referral =>
    obtain ⟨here, refers⟩ := Option.ite_none_right_eq_some.mp referral
    cases found
    -- an entry that joins another leads where that one did, unless it replaces it
    rcases added.target_merge (((model.mark .running task).scopes.table scope kind).get? name) with
      new | ⟨old, held, kept⟩
    next =>
      rw [← scheduled.referent_enter gathered waits, new]
      rw [alike.surrounding] at here
      unfold Model.referral at refers
      dsimp only at refers
      split at refers
      next target referent =>
        obtain ⟨⟨listed, -⟩, same⟩ := Option.ite_none_right_eq_some.mp refers
        rw [both.kind] at listed
        rw [referent]
        exact .inr ⟨here, listed, congrArg some (congrArg Definition.target (Option.some.inj same))⟩
      next => cases refers
    next => exact .inl ⟨old, held, kept⟩

theorem Step.grows (step : Step pass next) (gathered : start.Gathered)
    (scheduled : Scheduled start pass) : pass.model.scopes.Grows next.model.scopes := by
  cases step with
  | enter model task rest calls waits => exact (scheduled.prepared gathered waits).grows
  | skip => exact .refl _
  | ignore => exact .refl _
  | leave model call outer => exact (scheduled.finished gathered true).grows
  | circle model task rest call outer => exact (scheduled.finished gathered false).grows

theorem Reaches.grows (reaches : Reaches pass next) (poised : start.Poised)
    (scheduled : Scheduled start pass) : pass.model.scopes.Grows next.model.scopes := by
  induction reaches with
  | refl => exact .refl _
  | tail before step ih =>
      exact ih.trans (step.grows poised.gathered (Reaches.scheduled before poised scheduled))

theorem Step.table_quiet (step : Step pass next) (gathered : start.Gathered)
    (scheduled : Scheduled start pass) {scope : ScopeId} (quiet : start.Quiet scope)
    (kind : Symbols) : next.model.scopes.table scope kind = pass.model.scopes.table scope kind := by
  have shaped := gathered.shaped
  -- the body of an open call's tag goes where the tag stands, or into the type around it
  have left {model : Model} {todo : List TaskId} {call : Call} {outer : List Call}
      (scheduled : Scheduled start ⟨model, todo, call :: outer⟩) (complete : Bool) :
      (Pass.leave model call outer complete).model.scopes.table scope kind =
        model.scopes.table scope kind := by
    obtain ⟨tag, deferred⟩ := scheduled.deferred_call gathered List.mem_cons_self
    refine (scheduled.finished gathered complete).elsewhere scope kind ?_ fun owner _ around => ?_
    · rw [scheduled.alike.surrounding]
      exact quiet.ne_surrounding shaped tag deferred
    · rw [scheduled.alike.enclosing] at around
      obtain ⟨above, type⟩ := Model.enclosing_spec around
      rw [scheduled.alike.scope]
      exact quiet.ne_type shaped (shaped.of_mem_ancestors above).1 type
  cases step with
  | enter model task rest calls waits =>
      obtain ⟨tag, deferred⟩ := scheduled.deferred_task gathered waits
      refine (scheduled.prepared gathered waits).elsewhere scope kind ?_
      rw [(scheduled.alike.trans (Model.Alike.mark model .running task)).surrounding]
      exact quiet.ne_surrounding shaped tag deferred
  | skip => rfl
  | ignore => rfl
  | leave model call outer => exact left scheduled true
  | circle model task rest call outer => exact left scheduled false

theorem Reaches.table_quiet (reaches : Reaches pass next) (poised : start.Poised)
    (scheduled : Scheduled start pass) {scope : ScopeId} (quiet : start.Quiet scope)
    (kind : Symbols) : next.model.scopes.table scope kind = pass.model.scopes.table scope kind := by
  induction reaches with
  | refl => rfl
  | tail before step ih =>
      have along := Reaches.scheduled before poised scheduled
      exact (step.table_quiet poised.gathered along quiet kind).trans ih

end

end Pass

namespace Compilation

section

variable {read : Compilation} {pass : Pass}

theorem quiet_reaches (sound : read.Sound) (there : Pass.Reaches read.outset pass) {scope : ScopeId}
    (quiet : read.model.Quiet scope) {kind : Symbols} (member : kind.isMember = true)
    (name : QName) : (pass.model.scopes.table scope kind).get? name = none := by
  rw [there.table_quiet sound.poised sound.scheduled quiet kind]
  exact sound.gathered.quiet quiet member name

theorem referent_reaches (sound : read.Sound) (there : Pass.Reaches read.outset pass)
    (id : NodeId) : (pass.model.node id).referent = none ∨
      ∃ model, read.Starts id model ∧ (pass.model.node id).referent = model.refersTo id := by
  have gathered := sound.gathered
  induction there with
  | refl => exact .inl (gathered.unworked.referent id)
  | @tail middle last before step ih =>
      have scheduled := Pass.Reaches.scheduled before sound.poised sound.scheduled
      cases step with
      | enter model task rest calls waits =>
          by_cases same : id = (model.queue.get task).node
          next =>
            subst same
            exact .inr ⟨model, ⟨task, rest, calls, before, waits, rfl⟩,
              scheduled.referent_enter gathered waits⟩
          next =>
            have kept := (scheduled.prepared gathered waits).referent id same
            exact ih.imp kept.trans fun ⟨model, starts, refers⟩ => ⟨model, starts, kept.trans refers⟩
      | skip => exact ih
      | ignore => exact ih
      | leave model call outer =>
          rw [scheduled.referent_leave gathered]
          exact ih
      | circle model task rest call outer =>
          rw [scheduled.referent_leave gathered]
          exact ih

theorem refersTo_eq_none {model : Model} {id : NodeId}
    (absent : (model.node id).attribute? "ref" = none) : model.refersTo id = none := by
  unfold Model.refersTo
  rw [absent]
  cases (model.node id).kind.symbols? <;> rfl

theorem remainder_of_global (sound : read.Sound) {model : Model} {todo : List TaskId} {call : Call}
    {outer : List Call} (there : Pass.Reaches read.outset ⟨model, todo, call :: outer⟩)
    (alone : (read.model.node call.node).kind.isGroup = true ->
      (read.model.node call.node).attribute? "ref" = none)
    (isGlobal : read.model.IsGlobal call.node) : call.remainder = .nothing := by
  have scheduled := there.scheduled sound.poised sound.scheduled
  obtain ⟨parent, inside, schema⟩ := isGlobal
  refine (scheduled.fits call List.mem_cons_self).eq_nothing ?_ fun group => ?_
  · rw [scheduled.alike.kind]
    exact schema ▸ (sound.gathered.shaped.standsIn inside).holds
  · rw [scheduled.alike.kind] at group
    have absent := alone group
    rcases referent_reaches sound there call.node with none_ | ⟨begun, starts, refers⟩
    · exact none_
    · obtain ⟨task, rest, calls, point, -⟩ := starts
      rw [← (point.scheduled sound.poised sound.scheduled).alike.attribute] at absent
      exact refers.trans (refersTo_eq_none absent)

theorem table_leave_outermost (sound : read.Sound) {model : Model} {todo : List TaskId}
    {call : Call} {outer : List Call}
    (there : Pass.Reaches read.outset ⟨model, todo, call :: outer⟩)
    (alone : ∀ id, read.model.IsGlobal id -> (read.model.node id).kind.isGroup = true ->
      (read.model.node id).attribute? "ref" = none)
    {scope : ScopeId} (outermost : read.model.Outermost scope) {kind : Symbols}
    (member : kind.isMember = true) (name : QName) (complete : Bool) :
    ((Pass.leave model call outer complete).model.scopes.table scope kind).get? name =
      (model.scopes.table scope kind).get? name := by
  have gathered := sound.gathered
  have shaped := gathered.shaped
  have scheduled := there.scheduled sound.poised sound.scheduled
  have alike := scheduled.alike
  obtain ⟨tag, deferred⟩ := scheduled.deferred_call gathered List.mem_cons_self
  -- the body of a type is no outermost scope, so nothing is inherited into one
  have inherits (remainder : Remainder) :
      model.inherited call.node remainder scope kind name = none := by
    unfold Model.inherited
    split
    next owner target around _ =>
      rw [alike.enclosing] at around
      obtain ⟨above, type⟩ := Model.enclosing_spec around
      refine if_neg fun same => ?_
      rw [alike.scope] at same
      have schema := shaped.schema_of_outermost (shaped.of_mem_ancestors above).1 (same ▸ outermost)
      rw [schema] at type
      cases type
    next => rfl
  -- and what stands next to one is global, so there is nothing left that it could add
  have offers (here : scope = model.scopes.surrounding (model.node call.node).scope)
      (remainder : Remainder) (either : remainder = call.remainder ∨ remainder = call.remainder.alone) :
      model.offered call.node remainder kind name = none := by
    rw [alike.surrounding] at here
    have isGlobal := shaped.isGlobal tag deferred (here ▸ outermost)
    rw [remainder_of_global sound there (alone call.node isGlobal) isGlobal] at either
    rcases either with rfl | rfl <;> rfl
  refine ((scheduled.finished gathered complete).tables scope kind name member).trans ?_
  rw [inherits, Definition.join_none]
  split
  next here =>
    rw [offers here _ (by cases complete; exacts [.inr rfl, .inl rfl]), Definition.join_none]
  next => rfl

/-- What an element or attribute refers to is in an outermost scope, unless the body of a tag around
it has an entry of the name. -/
theorem hidden_of_nearest (sound : read.Sound) (there : Pass.Reaches read.outset pass)
    {id target : NodeId} {kind : Symbols} {name : QName} (tag : read.model.IsTag id)
    (listed : (read.model.node id).kind.symbols? = some kind) (member : kind.isMember = true)
    (nearest : pass.model.Nearest id kind name target) :
    ∃ scope definition, (pass.model.scopes.table scope kind).get? name = some definition ∧
      definition.target = target ∧
      (read.model.Outermost scope ∨
        read.model.IsOwn id name ∧
          ∃ around ∈ read.model.ancestors id, (read.model.node around).kind ≠ .schema ∧
            scope = (read.model.node around).scope) := by
  have alike := (there.scheduled sound.poised sound.scheduled).alike
  have boundary := Kind.isBoundary_of_symbols listed member
  obtain ⟨inner, scope, outer, definition, path, -, found, leads⟩ := nearest
  refine ⟨scope, definition, found, leads, ?_⟩
  have on : scope ∈ pass.model.path id name := by
    rw [path]
    simp
  have empty (quiet : read.model.Quiet scope) : False := by
    cases found.symm.trans (quiet_reaches sound there quiet member name)
  rcases (alike.shaped sound.gathered.shaped).mem_path ((alike.isTag id).mpr tag) on with
    rfl | outer | ⟨home, rfl | ⟨around, above, plain, rfl⟩⟩
  · exact (empty (.inl rfl)).elim
  · exact .inl ((alike.parentScope scope).symm.trans outer)
  · exact (empty (.inr ⟨id, tag, boundary, alike.scope id⟩)).elim
  · rw [alike.ancestors] at above
    rw [alike.kind] at plain
    exact .inr ⟨(alike.isOwn id name).mp home, around, above, plain, alike.scope around⟩

theorem outermost_reaches (sound : read.Sound) (there : Pass.Reaches read.outset pass)
    (alone : ∀ id, read.model.IsGlobal id -> (read.model.node id).kind.isGroup = true ->
      (read.model.node id).attribute? "ref" = none)
    {scope : ScopeId} (outermost : read.model.Outermost scope) {kind : Symbols} {name : QName}
    {definition : Definition} (member : kind.isMember = true)
    (found : (pass.model.scopes.table scope kind).get? name = some definition) :
    read.model.IsGlobal definition.target := by
  have gathered := sound.gathered
  have shaped := gathered.shaped
  induction there generalizing scope kind name definition with
  | refl => exact gathered.outermost outermost found
  | @tail middle last before step ih =>
      cases step with
      | enter model task rest calls waits =>
          have scheduled := Pass.Reaches.scheduled before sound.poised sound.scheduled
          rcases scheduled.entry_enter gathered waits member found with
            ⟨old, held, kept⟩ | ⟨rfl, listed, refers⟩
          next => exact kept ▸ ih outermost member held
          next =>
            -- the reference stands in a schema tag, so no body around it hides anything
            obtain ⟨tag, deferred⟩ := scheduled.deferred_task gathered waits
            have isGlobal := shaped.isGlobal tag deferred outermost
            obtain ⟨written, -, nearest⟩ := (Model.refersTo_iff
              ((congrArg Kind.symbols? (scheduled.alike.kind _)).trans listed)).mp refers
            obtain ⟨scope, other, there, leads, outer | ⟨-, around, above, plain, -⟩⟩ :=
              hidden_of_nearest sound before tag listed member nearest
            · exact leads ▸ ih outer member there
            · exact absurd (shaped.schema_around isGlobal above) plain
      | skip => exact ih outermost member found
      | ignore => exact ih outermost member found
      | leave model call outer =>
          rw [table_leave_outermost sound before alone outermost member] at found
          exact ih outermost member found
      | circle model task rest call outer =>
          rw [table_leave_outermost sound before alone outermost member] at found
          exact ih outermost member found

theorem referent_iff (sound : read.Sound) (untried : read.model.Untried) {seen : NodeId -> Model}
    (sees : ∀ id model, read.Starts id model -> seen id = model) {id target : NodeId}
    {kind : Symbols} (boundary : (read.model.node id).kind.isBoundary = true)
    (listed : (read.model.node id).kind.symbols? = some kind) :
    (read.resolve.model.node id).referent = some target ↔
      id ∈ read.resolve.model.order.toList ∧
        ∃ name, (seen id).Names id name ∧ (seen id).Nearest id kind name target := by
  have started {model : Model} (starts : read.Starts id model) :
      id ∈ read.resolve.model.order.toList ∧ read.model.Alike model := by
    obtain ⟨task, rest, calls, there, waits, same⟩ := starts
    have alike := (there.scheduled sound.poised sound.scheduled).alike
    refine ⟨(sound.ended.mem_order id).mpr ⟨task, there.waits waits, ?_⟩, alike⟩
    exact (alike.task task).symm.trans same
  constructor
  · intro refers
    rcases referent_reaches sound read.resolve_reaches id with none_ | ⟨model, starts, leads⟩
    next => cases none_.symm.trans refers
    next =>
      obtain ⟨worked, alike⟩ := started starts
      rw [sees id model starts]
      exact ⟨worked, (Model.refersTo_iff ((congrArg Kind.symbols? (alike.kind id)).trans listed)).mp
        (leads.symm.trans refers)⟩
  · rintro ⟨worked, nearest⟩
    obtain ⟨model, starts⟩ := sound.starts worked
    rw [sees id model starts] at nearest
    have alike := (started starts).2
    obtain ⟨name, ⟨written, there, names⟩, leads⟩ := nearest
    have mentioned : (⟨.referent, kind, written⟩ : Mention) ∈ (model.node id).mentions := by
      unfold Node.mentions
      rw [alike.kind]
      cases is : (read.model.node id).kind <;> rw [is] at boundary listed <;> cases boundary <;>
        cases listed <;> simp [Node.mention_of_some there]
    refine recorded_early sound untried starts read.resolve_reaches mentioned ?_ (by simp)
    unfold Model.leadsTo
    rw [names]
    exact Model.find_iff_nearest.mpr leads

theorem nearest_beside (sound : read.Sound) (allotted : read.model.Allotted)
    (there : Pass.Reaches read.outset pass) {id parent other : NodeId} {source : SourceId}
    {kind : Symbols} {name : QName} (boundary : (read.model.node id).kind.isBoundary = true)
    (listed : (read.model.node id).kind.symbols? = some kind)
    (sourced : (read.model.node id).source = some source)
    (own : read.model.IsOwn id name)
    (inside : (read.model.node id).parent = some parent)
    (outer : (read.model.node parent).kind ≠ .schema)
    (beside : (read.model.node other).parent = some parent)
    (same : (read.model.node other).kind = (read.model.node id).kind)
    (named : (read.model.node other).name = some name) :
    ∃ target, pass.model.Nearest id kind name target ∧
      (read.model.node target).parent = some parent := by
  have gathered := sound.gathered
  have shaped := gathered.shaped
  have alike := (there.scheduled sound.poised sound.scheduled).alike
  have plain : (read.model.node id).kind ≠ .schema := by
    intro schema
    rw [schema] at boundary
    cases boundary
  have member := Kind.isMember_of_symbols boundary listed
  have stands := shaped.standsIn inside
  have tag := shaped.tag_of_parent inside
  -- the declaration was entered where the reference stands, and has been there since
  obtain ⟨definition, entered⟩ : ∃ definition,
      (read.model.scopes.table (read.model.node parent).scope kind).get? name =
        some definition := by
    have owner := (shaped.standsIn beside).source.trans (stands.source.symm.trans sourced)
    obtain ⟨-, symbols, found, entry⟩ := allotted.names other source name owner named
    rw [same, listed] at found
    rw [shaped.surrounding_eq beside, ← Option.some.inj found] at entry
    exact Option.ne_none_iff_exists'.mp entry
  obtain ⟨later, found, kept⟩ := there.grows sound.poised sound.scheduled _ kind name _ entered
  have declared := gathered.unworked.declared _ kind name definition entered
  refine ⟨definition.target, ?_, gathered.homed.parent shaped stands.tag outer entered⟩
  -- the body of the reference itself holds nothing, and the one around it is the next on the path
  have path : ∃ rest, pass.model.path id name =
      [(read.model.node id).scope] ++ (read.model.node parent).scope :: rest := by
    have lower := (allotted.around id source sourced plain).1
    rw [shaped.surrounding_eq inside] at lower
    have around := (alike.parentScope (read.model.node id).scope).trans stands.scope
    have lives := allotted.homes id source sourced fun refused => plain refused.1
    have here : (pass.model.scopes.get (read.model.node id).scope).home =
        some (read.model.source source).target :=
      (congrArg Scope.home (alike.frame (read.model.node id).scope)).trans lives
    have known := (alike.isOwn id name).mpr own
    unfold Model.IsOwn at known
    rw [alike.scope, here] at known
    obtain ⟨rest, chain⟩ := pass.model.scopes.exists_chain (read.model.node parent).scope
    refine ⟨rest, ?_⟩
    unfold Model.path
    rw [← known]
    dsimp only
    rw [alike.scope, if_pos here, Scopes.chain, around]
    dsimp only
    rw [if_pos lower, chain]
    rfl
  obtain ⟨rest, path⟩ := path
  refine ⟨_, _, rest, later, path, ?_, found, (kept declared).1⟩
  intro closer inner
  rw [List.mem_singleton.mp inner]
  exact quiet_reaches sound there (.inr ⟨id, tag, boundary, rfl⟩) member name

end

/-- What elements and attributes refer to, given the model in which work on each tag starts. -/
structure Referring (read compilation : Compilation) (seen : NodeId -> Model) : Prop where
  starts : ∀ id ∈ compilation.model.order.toList, ∀ model, read.Starts id model ↔ model = seen id
  /-- The referent is where the nearest entry of the name leads when work on the tag starts. -/
  nearest : ∀ id kind target, (compilation.model.node id).kind.isBoundary = true ->
    (compilation.model.node id).kind.symbols? = some kind ->
      ((compilation.model.node id).referent = some target ↔
        id ∈ compilation.model.order.toList ∧
          ∃ name, compilation.model.Names id name ∧ (seen id).Nearest id kind name target)
  /-- It is of the same kind, and has the name. -/
  bears : ∀ id target name, (compilation.model.node id).kind.isBoundary = true ->
    (compilation.model.node id).referent = some target -> compilation.model.Names id name ->
      (compilation.model.node target).kind = (compilation.model.node id).kind ∧
        (compilation.model.node target).name = some name
  /-- It is global, unless the name is in the reference's own namespace and a body around the
  reference has an entry of it. -/
  hidden : (∀ id, compilation.model.IsGlobal id ->
      (compilation.model.node id).kind.isGroup = true ->
        (compilation.model.node id).attribute? "ref" = none) ->
    ∀ id kind target name, (compilation.model.node id).kind.isBoundary = true ->
      (compilation.model.node id).kind.symbols? = some kind ->
      (compilation.model.node id).referent = some target -> compilation.model.Names id name ->
        compilation.model.IsGlobal target ∨
          compilation.model.IsOwn id name ∧ ∃ around ∈ compilation.model.ancestors id,
            (compilation.model.node around).kind ≠ .schema ∧ ∃ definition,
              ((seen id).scopes.table (compilation.model.node around).scope kind).get? name =
                some definition ∧ definition.target = target
  /-- It is not global if the name is in the reference's own namespace and declared beside it. -/
  beside : ∀ id parent other name, id ∈ compilation.model.order.toList ->
    (compilation.model.node id).kind.isBoundary = true -> compilation.model.Names id name ->
    compilation.model.IsOwn id name -> (compilation.model.node id).parent = some parent ->
    (compilation.model.node parent).kind ≠ .schema ->
    (compilation.model.node other).parent = some parent ->
    (compilation.model.node other).kind = (compilation.model.node id).kind ->
    (compilation.model.node other).name = some name ->
      ∃ target, (compilation.model.node id).referent = some target ∧
        (compilation.model.node target).parent = some parent

/-- An element or attribute refers to one of the same kind and of the name in its `ref`. It is the
one that the nearest body around the reference knows by the name, and so is global only if no such
body knows the name of a local one. -/
theorem compile_refers {options : Options} {fetch : Fetch} {url : Url} {compilation : Compilation}
    (compiled : compile options fetch url = .ok compilation) :
    ∃ read seen, gather options fetch url = .ok read ∧
      Pass.Reaches read.outset ⟨compilation.model, [], []⟩ ∧ Referring read compilation seen := by
  obtain ⟨read, gathered, sound, rfl⟩ := compile_ok compiled
  have untried := untried_gather gathered
  have allotted := (gather_arrives gathered).changes.allotted
  have ends := read.resolve_reaches
  have last := sound.ended.alike
  obtain ⟨seen, sees⟩ := sound.exists_seen
  have starts {id : NodeId} (listed : id ∈ read.resolve.model.order.toList) :
      read.Starts id (seen id) := by
    obtain ⟨model, starts⟩ := sound.starts listed
    exact sees id model starts ▸ starts
  have nearest {id target : NodeId} {kind : Symbols}
      (boundary : (read.resolve.model.node id).kind.isBoundary = true)
      (listed : (read.resolve.model.node id).kind.symbols? = some kind) :
      (read.resolve.model.node id).referent = some target ↔
        id ∈ read.resolve.model.order.toList ∧
          ∃ name, read.resolve.model.Names id name ∧ (seen id).Nearest id kind name target := by
    rw [last.kind] at boundary listed
    refine (referent_iff sound untried sees boundary listed).trans (and_congr_right fun worked => ?_)
    obtain ⟨task, rest, calls, there, -⟩ := starts worked
    have alike := (there.scheduled sound.poised sound.scheduled).alike
    simp only [alike.names, last.names]
  refine ⟨read, seen, gathered, ends, ?_⟩
  constructor
  · intro id worked model
    exact ⟨fun started => (sees id model started).symm, fun same => same ▸ starts worked⟩
  · exact fun id kind target => nearest
  · intro id target name boundary refers names
    obtain ⟨kind, listed⟩ := Kind.symbols_of_isBoundary boundary
    obtain ⟨worked, found, again, leads⟩ := (nearest boundary listed).mp refers
    obtain rfl := names.unique again
    obtain ⟨task, rest, calls, there, -⟩ := starts worked
    have scheduled := there.scheduled sound.poised sound.scheduled
    obtain ⟨named, symbols⟩ := scheduled.filed.find (Model.find_iff_nearest.mpr leads)
    rw [scheduled.alike.name, ← last.name] at named
    rw [scheduled.alike.kind, ← last.kind] at symbols
    exact ⟨Kind.eq_of_symbols boundary listed symbols, named⟩
  · intro alone id kind target name boundary listed refers names
    have member := Kind.isMember_of_symbols boundary listed
    obtain ⟨worked, found, again, leads⟩ := (nearest boundary listed).mp refers
    obtain rfl := names.unique again
    obtain ⟨task, rest, calls, there, -⟩ := starts worked
    have alike := (there.scheduled sound.poised sound.scheduled).alike
    have tag := ((sound.mem_order_resolve id).mp worked).2.1
    -- the entry is in an outermost scope, or in the body of a tag around the reference
    obtain ⟨scope, definition, entry, leads, outermost | ⟨own, around, above, plain, rfl⟩⟩ :=
      hidden_of_nearest sound there ((last.isTag id).mp tag)
        ((congrArg Kind.symbols? (last.kind id)).symm.trans listed) member leads
    next =>
      refine .inl ((last.isGlobal target).mpr (leads ▸ ?_))
      refine outermost_reaches sound there (fun id global group => ?_) outermost member entry
      rw [← last.attribute]
      exact alone id ((last.isGlobal id).mpr global) ((congrArg Kind.isGroup (last.kind id)).trans group)
    next =>
      refine .inr ⟨(last.isOwn id name).mpr own, around, ?_, ?_, definition, ?_, leads⟩
      · rw [last.ancestors]
        exact above
      · rw [last.kind]
        exact plain
      · rw [last.scope]
        exact entry
  · intro id parent other name worked boundary names own inside outer beside same named
    obtain ⟨kind, listed⟩ := Kind.symbols_of_isBoundary boundary
    obtain ⟨-, document, finished, sourced⟩ :=
      (isFinished_congr last (resolve_eq read).2 id).mp ((sound.mem_order_resolve id).mp worked).2
    -- a tag that was worked on is of a finished document, which has a source
    obtain ⟨source, found⟩ := Option.ne_none_iff_exists'.mp
      (sound.finished document (Sound.within_of_finished finished) finished).1
    obtain ⟨task, rest, calls, there, -⟩ := starts worked
    obtain ⟨target, leads, inside⟩ := nearest_beside sound allotted there
      ((congrArg Kind.isBoundary (last.kind id)).symm.trans boundary)
      ((congrArg Kind.symbols? (last.kind id)).symm.trans listed) (sourced.trans found)
      ((last.isOwn id name).mp own) ((last.parent id).symm.trans inside)
      ((last.kind parent).symm.trans_ne outer) ((last.parent other).symm.trans beside)
      ((last.kind other).symm.trans (same.trans (last.kind id)))
      ((last.name other).symm.trans named)
    exact ⟨target, (nearest boundary listed).mpr ⟨worked, name, names, leads⟩,
      (last.parent target).trans inside⟩

/-- A type with an element in it and a reference beside it, and a global element of the same name. -/
def hidingText : String :=
  "<schema xmlns='http://www.w3.org/2001/XMLSchema' xmlns:t='u' targetNamespace='u'>" ++
    "<complexType name='T'><sequence><element name='e'/><element ref='t:e'/></sequence>" ++
      "</complexType><element name='e'/></schema>"

structure Hides (model : Model) : Prop where
  kind : (model.node ⟨50⟩).kind = .element
  referent : (model.node ⟨50⟩).referent = some ⟨49⟩
  name : (model.node ⟨49⟩).name = some ⟨some "u", "e"⟩
  inside : (model.node ⟨49⟩).parent = some ⟨48⟩
  outer : (model.node ⟨48⟩).kind = .sequence
  again : (model.node ⟨51⟩).name = some ⟨some "u", "e"⟩
  atTop : (model.node ⟨51⟩).parent = some ⟨46⟩
  schema : (model.node ⟨46⟩).kind = .schema

set_option maxRecDepth 100000 in
theorem hides_hiding :
    ∃ compilation, compile .standard (serving hidingText) someUrl = .ok compilation ∧
      Hides compilation.model := by
  obtain ⟨compilation, compiled, -, kind, referent, name, inside, outer, again, atTop, schema⟩ :=
    @compile_of_checked hidingText (fun model =>
      (model.node ⟨50⟩).kind = .element ∧ (model.node ⟨50⟩).referent = some ⟨49⟩ ∧
        (model.node ⟨49⟩).name = some ⟨some "u", "e"⟩ ∧ (model.node ⟨49⟩).parent = some ⟨48⟩ ∧
        (model.node ⟨48⟩).kind = .sequence ∧ (model.node ⟨51⟩).name = some ⟨some "u", "e"⟩ ∧
        (model.node ⟨51⟩).parent = some ⟨46⟩ ∧ (model.node ⟨46⟩).kind = .schema) _
      (by decide +kernel)
  exact ⟨compilation, compiled, kind, referent, name, inside, outer, again, atTop, schema⟩

/-- A reference to an element can be to one that is not global, though a global one of the name is
there. -/
theorem compile_refers_inside :
    ∃ compilation, compile .standard (serving hidingText) someUrl = .ok compilation ∧
      ∃ id target, (compilation.model.node id).kind = .element ∧
        (compilation.model.node id).referent = some target ∧
        ¬ compilation.model.IsGlobal target ∧
        ∃ hidden, compilation.model.IsGlobal hidden ∧
          (compilation.model.node hidden).name = (compilation.model.node target).name := by
  obtain ⟨compilation, compiled, hides⟩ := hides_hiding
  refine ⟨compilation, compiled, ⟨50⟩, ⟨49⟩, hides.kind, hides.referent, ?_, ⟨51⟩,
    ⟨⟨46⟩, hides.atTop, hides.schema⟩, hides.again.trans hides.name.symm⟩
  rintro ⟨parent, inside, schema⟩
  cases hides.inside.symm.trans inside
  cases hides.outer.symm.trans schema

theorem compile_refers_beside :
    ∃ compilation read seen, compile .standard (serving hidingText) someUrl = .ok compilation ∧
      Referring read compilation seen ∧
      (seen ⟨50⟩).Nearest ⟨50⟩ .elements ⟨some "u", "e"⟩ ⟨49⟩ := by
  obtain ⟨compilation, compiled, hides⟩ := hides_hiding
  obtain ⟨read, seen, -, -, referring⟩ := compile_refers compiled
  have boundary : (compilation.model.node ⟨50⟩).kind.isBoundary = true := by
    rw [hides.kind]
    rfl
  have listed : (compilation.model.node ⟨50⟩).kind.symbols? = some .elements := by
    rw [hides.kind]
    rfl
  obtain ⟨-, name, names, nearest⟩ :=
    (referring.nearest ⟨50⟩ .elements ⟨49⟩ boundary listed).mp hides.referent
  have named := (referring.bears ⟨50⟩ ⟨49⟩ name boundary hides.referent names).2
  cases hides.name.symm.trans named
  exact ⟨compilation, read, seen, compiled, referring, nearest⟩

end Compilation

end XmlSchema

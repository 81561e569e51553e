import XmlSchema.Proofs.Markup.Texts
import XmlSchema.Proofs.Reading.Depth
import XmlSchema.Proofs.Reading.Turns
import XmlSchema.Proofs.Reading.Wildcards

set_option autoImplicit false

namespace XmlSchema

open Markup (Event Item eventsBefore)

namespace Model

variable {old new : Model}

def documentations (model : Model) (first : Nat) : List NodeId :=
  ((List.range' first (model.nodes.size - first)).map NodeId.mk).filter fun id =>
    (model.node id).kind = .documentation

def handed (model : Model) (ids : List NodeId) (owner : NodeId) : List String :=
  ((ids.filter fun id => model.enclosing id Kind.isDocumented = some owner).map fun id =>
    (model.node id).text).filter (· ≠ "")

theorem handed_append (model : Model) (first second : List NodeId) (owner : NodeId) :
    model.handed (first ++ second) owner = model.handed first owner ++ model.handed second owner := by
  simp [handed]

theorem handed_congr {ids : List NodeId} {owner : NodeId}
    (same : ∀ id ∈ ids, new.enclosing id Kind.isDocumented = old.enclosing id Kind.isDocumented ∧
      (new.node id).text = (old.node id).text) : new.handed ids owner = old.handed ids owner := by
  have around : (ids.filter fun id => new.enclosing id Kind.isDocumented = some owner) =
      ids.filter fun id => old.enclosing id Kind.isDocumented = some owner :=
    List.filter_congr fun id member => by rw [(same id member).1]
  unfold handed
  rw [around]
  refine congrArg (List.filter (· ≠ "")) (List.map_congr_left fun id member => ?_)
  exact (same id (List.mem_of_mem_filter member)).2

structure Stands (old new : Model) : Prop where
  size : old.nodes.size ≤ new.nodes.size
  kind : ∀ id : NodeId, id.index < old.nodes.size -> (new.node id).kind = (old.node id).kind
  parent : ∀ id : NodeId, id.index < old.nodes.size -> (new.node id).parent = (old.node id).parent

namespace Stands

theorem refl (model : Model) : model.Stands model := ⟨Nat.le_refl _, fun _ _ => rfl, fun _ _ => rfl⟩

theorem trans {middle : Model} (first : old.Stands middle) (second : middle.Stands new) :
    old.Stands new where
  size := Nat.le_trans first.size second.size
  kind id within :=
    (second.kind id (Nat.lt_of_lt_of_le within first.size)).trans (first.kind id within)
  parent id within :=
    (second.parent id (Nat.lt_of_lt_of_le within first.size)).trans (first.parent id within)

theorem of_account (size : old.nodes.size ≤ new.nodes.size)
    (account : ∀ id : NodeId, id.index < old.nodes.size ->
      (new.node id).account = (old.node id).account) : old.Stands new :=
  ⟨size, fun id within => Node.kind_of_account (account id within),
    fun id within => Node.parent_of_account (account id within)⟩

theorem ancestors (stands : old.Stands new) {id : NodeId} (within : id.index < old.nodes.size) :
    new.ancestors id = old.ancestors id :=
  ancestors_congr_below fun other below => stands.parent other (Nat.lt_of_le_of_lt below within)

theorem enclosing (stands : old.Stands new) {id : NodeId} (within : id.index < old.nodes.size)
    (accepts : Kind -> Bool) : new.enclosing id accepts = old.enclosing id accepts :=
  enclosing_congr (stands.ancestors within)
    (fun outer around => stands.kind outer (Nat.lt_trans (mem_ancestors_lt around) within)) accepts

end Stands

end Model

theorem Draft.Framed.schema {first : Nat} {draft : Draft} {frame : Frame} {rest : List Frame}
    {id : NodeId} (framed : draft.Framed first (frame :: rest)) (shaped : draft.model.Shaped)
    (node : frame.node = some id) :
    ∃ outer ∈ (frame :: rest).filterMap Frame.node, (draft.model.node outer).kind = .schema := by
  generalize all : frame :: rest = frames at framed
  induction framed generalizing frame rest id with
  | bottom =>
    cases all
    cases node
  | plain around there =>
    cases all
    simp [there] at node
  | @node _ next below other around there place scope owned parent lowest ih =>
    cases all
    rw [List.filterMap_cons_some there]
    cases inner : next.node with
    | none =>
      rw [inner] at parent
      exact ⟨other, List.mem_cons_self, (shaped.root other owned.1 parent).1⟩
    | some up =>
      obtain ⟨outer, member, kind⟩ := ih inner rfl
      exact ⟨outer, List.mem_cons_of_mem _ member, kind⟩

namespace Reading

variable {limits : Limits} {reading next : Reading} {event : Event}

theorem steps_cons {item : Item} (going : (reading.step limits item).failure = none)
    (rest : List Item) :
    reading.steps limits (item :: rest) = (reading.step limits item).state.steps limits rest := by
  rw [steps, going]

theorem steps_cons_of_stopped {item : Item} (stopped : (reading.step limits item).failure ≠ none)
    (rest : List Item) : reading.steps limits (item :: rest) = reading.step limits item := by
  rw [steps]
  split
  next going => exact absurd going stopped
  next => rfl

theorem going_cons {item : Item} {rest : List Item}
    (going : (reading.steps limits (item :: rest)).failure = none) :
    (reading.step limits item).failure = none ∧
      ((reading.step limits item).state.steps limits rest).failure = none := by
  unfold steps at going
  dsimp only at going
  split at going
  next proceeds => exact ⟨proceeds, going⟩
  next failure stopped => cases stopped.symm.trans going

theorem going_append {first second : List Item}
    (going : (reading.steps limits (first ++ second)).failure = none) :
    (reading.steps limits first).failure = none := by
  induction first generalizing reading with
  | nil => rfl
  | cons item rest ih =>
    obtain ⟨proceeds, later⟩ := going_cons going
    rw [steps_cons proceeds]
    exact ih later

theorem steps_append {first : List Item} (going : (reading.steps limits first).failure = none)
    (second : List Item) :
    reading.steps limits (first ++ second) =
      (reading.steps limits first).state.steps limits second := by
  induction first generalizing reading with
  | nil => rfl
  | cons item rest ih =>
    obtain ⟨proceeds, later⟩ := going_cons going
    rw [List.cons_append, steps_cons proceeds, steps_cons proceeds, ih later]

theorem steps_concat {first : List Item} (going : (reading.steps limits first).failure = none)
    (last : Item) :
    (reading.steps limits (first ++ [last])).state =
      ((reading.steps limits first).state.step limits last).state := by
  rw [steps_append going, steps]
  split <;> rfl

theorem size_addText (reading : Reading) (content : String) :
    (reading.addText content).model.nodes.size = reading.model.nodes.size := by
  unfold addText
  split
  next => exact Model.size_changeNode ..
  next => rfl

theorem node_addText {frame : Frame} {rest : List Frame} (frames : reading.frames = frame :: rest)
    {id : NodeId} (takes : frame.capture = some id) (within : id.index < reading.model.nodes.size)
    (content : String) (other : NodeId) :
    (reading.addText content).model.node other =
      if other = id then (reading.model.node id).withText content else reading.model.node other := by
  have taken : reading.frames.head?.bind Frame.capture = some id := by simp [frames, takes]
  have model : (reading.addText content).model =
      reading.model.changeNode id fun node => node.withText content := by
    rw [addText, taken]
    rfl
  rw [model, Model.node_changeNode]
  by_cases here : other = id
  · subst here
    simp [within]
  · simp [here]

theorem node_addText_of_ne {id : NodeId}
    (avoids : ∀ frame ∈ reading.frames, frame.capture ≠ some id) (content : String) :
    (reading.addText content).model.node id = reading.model.node id := by
  unfold addText
  split
  next other taken =>
    obtain ⟨frame, first, takes⟩ := Option.bind_eq_some_iff.mp taken
    have apart : ¬ id = other := by
      rintro rfl
      exact avoids frame (List.mem_of_mem_head? first) takes
    exact (Model.node_changeNode ..).trans (if_neg fun same => apart same.1)
  next => rfl

theorem account_document (model : Model) (id other : NodeId) :
    ((document model id).node other).kind = (model.node other).kind ∧
      ((document model id).node other).parent = (model.node other).parent ∧
      ((document model id).node other).text = (model.node other).text := by
  unfold document
  dsimp only
  split
  next =>
    split
    next owner _ =>
      exact ⟨Model.keeps_changeNode Node.kind model owner other fun _ => rfl,
        Model.keeps_changeNode Node.parent model owner other fun _ => rfl,
        Model.keeps_changeNode Node.text model owner other fun _ => rfl⟩
    next => exact ⟨rfl, rfl, rfl⟩
  next => exact ⟨rfl, rfl, rfl⟩

theorem documentation_document {model : Model} {id : NodeId}
    (kind : (model.node id).kind = .documentation)
    (trimmed : Text.trim (model.node id).text = (model.node id).text) (other : NodeId) :
    ((document model id).node other).documentation =
      (model.node other).documentation ++ model.handed [id] other := by
  unfold document
  rw [trimmed]
  dsimp only
  by_cases empty : (model.node id).text = ""
  next => simp [Model.handed, empty, List.filter_cons, apply_ite]
  next =>
    have full : (decide ((model.node id).kind = .documentation) &&
        !(model.node id).text.isEmpty) = true := by simp [kind, empty]
    rw [if_pos full]
    cases around : model.enclosing id Kind.isDocumented with
    | none => simp [Model.handed, around]
    | some owner =>
      -- what may be documented is a node that is there
      have there : owner.index < model.nodes.size := by
        by_contra outside
        have documented := (Model.enclosing_spec around).2
        rw [Model.node_of_size_le model (Nat.not_lt.mp outside)] at documented
        cases documented
      dsimp only
      rw [Model.node_changeNode]
      by_cases same : other = owner
      · subst same
        simp [Model.handed, around, there, empty]
      · have apart : ¬ owner = other := fun back => same back.symm
        simp [Model.handed, around, same, apart]

theorem documentation_document_of_plain {model : Model} {id : NodeId}
    (kind : (model.node id).kind ≠ .documentation) : document model id = model := by
  unfold document
  dsimp only
  rw [if_neg (by simp [kind])]

theorem account_closeNode (draft : Draft) (id other : NodeId) :
    ((closeNode draft id).model.node other).account =
      ((document draft.model id).node other).account := by
  unfold closeNode
  dsimp only
  split
  next => rfl
  next => exact Model.keeps_changeNode Node.account _ id other fun _ => rfl

theorem size_closeNode (draft : Draft) (id : NodeId) :
    (closeNode draft id).model.nodes.size = draft.model.nodes.size := by
  have size := (stores_document draft.model id).1
  unfold closeNode
  dsimp only
  split
  next => exact size
  next => exact (Model.size_changeNode ..).trans size

theorem stands_closeNode (draft : Draft) (id : NodeId) :
    draft.model.Stands (closeNode draft id).model where
  size := Nat.le_of_eq (size_closeNode draft id).symm
  kind other _ := (Node.kind_of_account (account_closeNode draft id other)).trans
    (account_document draft.model id other).1
  parent other _ := (Node.parent_of_account (account_closeNode draft id other)).trans
    (account_document draft.model id other).2.1

theorem text_closeNode (draft : Draft) (id other : NodeId) :
    ((closeNode draft id).model.node other).text = (draft.model.node other).text :=
  (Node.text_of_account (account_closeNode draft id other)).trans
    (account_document draft.model id other).2.2

theorem Turns.stands (turns : reading.Turns event next) : reading.model.Stands next.model := by
  cases turns with
  | node around child pushed node capture size opened others =>
    refine .of_account (size ▸ Nat.le_succ _) fun id within => others id ?_
    rintro rfl
    exact Nat.lt_irrefl _ within
  | plain around pushed node capture nodes =>
    exact .of_account (Nat.le_of_eq (congrArg Array.size nodes).symm) fun id _ =>
      congrArg Node.account (Draft.node_congr nodes id)
  | text content =>
    unfold addText
    split
    next id _ =>
      exact ⟨Nat.le_of_eq (Model.size_changeNode ..).symm,
        fun other _ => Model.keeps_changeNode Node.kind reading.model id other fun _ => rfl,
        fun other _ => Model.keeps_changeNode Node.parent reading.model id other fun _ => rfl⟩
    next => exact .refl _
  | closes id => exact stands_closeNode reading.draft id
  | passes => exact .refl _

theorem stands_steps {items : List Item} (going : (reading.steps limits items).failure = none) :
    reading.model.Stands (reading.steps limits items).state.model := by
  induction items generalizing reading with
  | nil => exact .refl _
  | cons item rest ih =>
    obtain ⟨proceeds, later⟩ := going_cons going
    obtain ⟨event, -, turns⟩ := turns_step proceeds
    rw [steps_cons proceeds]
    exact turns.stands.trans (ih later)

inductive Listens (model : Model) : List Frame -> Prop where
  | bottom {frame : Frame} (node : frame.node = none) (silent : frame.capture = none) :
      Listens model [frame]
  | documents {frame outer : Frame} {rest : List Frame} (id : NodeId)
      (around : Listens model (outer :: rest)) (node : frame.node = some id)
      (within : id.index < model.nodes.size) (kind : (model.node id).kind = .documentation)
      (takes : frame.capture = some id) (silent : outer.capture = none) :
      Listens model (frame :: outer :: rest)
  | inherits {frame outer : Frame} {rest : List Frame} (around : Listens model (outer :: rest))
      (plain : ∀ id, frame.node = some id ->
        id.index < model.nodes.size ∧ (model.node id).kind ≠ .documentation)
      (takes : frame.capture = outer.capture) : Listens model (frame :: outer :: rest)

namespace Listens

variable {old new model : Model} {frame : Frame} {rest frames : List Frame}

theorem congr (listens : Listens old frames) (stands : old.Stands new) : Listens new frames := by
  induction listens with
  | bottom node silent => exact .bottom node silent
  | documents id around node within kind takes silent ih =>
    exact .documents id ih node (Nat.lt_of_lt_of_le within stands.size)
      ((stands.kind id within).trans kind) takes silent
  | inherits around plain takes ih =>
    refine .inherits ih (fun id node => ?_) takes
    obtain ⟨within, kind⟩ := plain id node
    exact ⟨Nat.lt_of_lt_of_le within stands.size, (stands.kind id within).symm ▸ kind⟩

theorem silent (listens : Listens model (frame :: rest)) (silent : frame.capture = none) :
    ∀ other ∈ frame :: rest, other.capture = none := by
  generalize all : frame :: rest = frames at listens ⊢
  induction listens generalizing frame rest with
  | bottom node takes =>
    intro other member
    rw [List.mem_singleton.mp member]
    exact takes
  | documents id around node within kind takes =>
    cases all
    cases takes.symm.trans silent
  | inherits around plain takes ih =>
    cases all
    exact List.forall_mem_cons.mpr ⟨silent, ih (takes.symm.trans silent) rfl⟩

theorem taken (listens : Listens model frames) :
    ∀ frame ∈ frames, ∀ id, frame.capture = some id ->
      id.index < model.nodes.size ∧ (model.node id).kind = .documentation := by
  induction listens with
  | bottom node silent =>
    intro frame member id takes
    rw [List.mem_singleton.mp member, silent] at takes
    cases takes
  | documents own around node within kind takes silent ih =>
    refine List.forall_mem_cons.mpr ⟨fun id same => ?_, ih⟩
    obtain rfl := Option.some.inj (takes.symm.trans same)
    exact ⟨within, kind⟩
  | inherits around plain takes ih =>
    exact List.forall_mem_cons.mpr ⟨fun id same =>
      ih _ List.mem_cons_self id (takes.symm.trans same), ih⟩

end Listens

structure Attends (reading : Reading) : Prop where
  regular : reading.Regular
  listens : Listens reading.model reading.frames

namespace Attends

theorem start (model : Model) (document : Document) : (Reading.start model document).Attends :=
  ⟨.start model document, .bottom rfl rfl⟩

theorem silent (attends : reading.Attends) {outer : Frame} {rest : List Frame}
    (around : reading.frames = outer :: rest) {kind : Kind}
    (child : ∃ name, (outer.place.bind fun place => place.child name) = some (.tag kind)) :
    outer.capture = none := by
  obtain ⟨name, child⟩ := child
  refine Classical.byContradiction fun taken => ?_
  have free := attends.regular.child_of_captured (around ▸ List.mem_cons_self) taken name
  cases child.symm.trans free

theorem turn (attends : reading.Attends) (turns : reading.Turns event next) :
    Listens next.model next.frames := by
  have listens := attends.listens.congr turns.stands
  cases turns with
  | @node _ _ _ kind frame outer rest around child pushed node capture size opened others =>
    have silent := attends.silent around child
    have told : (next.model.node reading.model.nextNode).kind = kind := congrArg Prod.fst opened
    have within : reading.model.nextNode.index < next.model.nodes.size :=
      size ▸ Nat.lt_succ_self _
    rw [around] at listens
    rw [pushed, around]
    by_cases documents : kind = .documentation
    · exact .documents _ listens node within (told.trans documents)
        (capture.trans (if_pos documents)) silent
    · refine .inherits listens (fun id there => ?_) (capture.trans (if_neg documents))
      obtain rfl := Option.some.inj (node.symm.trans there)
      exact ⟨within, fun same => documents (told.symm.trans same)⟩
  | plain around pushed node capture nodes =>
    rw [around] at listens
    rw [pushed, around]
    exact .inherits listens (fun id there => by cases node.symm.trans there) capture
  | text content =>
    rw [(document_addText reading content).2]
    exact listens
  | closes id frames node =>
    rw [frames] at listens
    cases listens with
    | documents _ around => exact around
    | inherits around => exact around
  | passes frames node =>
    rw [frames] at listens
    cases listens with
    | documents _ around => exact around
    | inherits around => exact around

theorem step (attends : reading.Attends) {item : Item}
    (going : (reading.step limits item).failure = none) :
    (reading.step limits item).state.Attends := by
  obtain ⟨event, -, turns⟩ := turns_step going
  exact ⟨attends.regular.step item going, attends.turn turns⟩

theorem steps (attends : reading.Attends) {items : List Item}
    (going : (reading.steps limits items).failure = none) :
    (reading.steps limits items).state.Attends := by
  induction items generalizing reading with
  | nil => exact attends
  | cons item rest ih =>
    obtain ⟨proceeds, later⟩ := going_cons going
    rw [steps_cons proceeds]
    exact ih (attends.step proceeds) later

end Attends

structure Avoids (reading : Reading) (id : NodeId) : Prop where
  within : id.index < reading.model.nodes.size
  frames : ∀ frame ∈ reading.frames, frame.capture ≠ some id

theorem avoids_start {model : Model} {id : NodeId} (within : id.index < model.nodes.size)
    (document : Document) : (Reading.start model document).Avoids id := by
  refine ⟨within, fun frame member takes => ?_⟩
  rw [List.mem_singleton.mp member] at takes
  cases takes

theorem Turns.avoids (turns : reading.Turns event next) {id : NodeId} (avoids : reading.Avoids id) :
    next.Avoids id ∧ (next.model.node id).text = (reading.model.node id).text := by
  have within := Nat.lt_of_lt_of_le avoids.within turns.stands.size
  cases turns with
  | node around child pushed node capture size opened others =>
    have apart : id ≠ reading.model.nextNode := by
      rintro rfl
      exact Nat.lt_irrefl _ avoids.within
    refine ⟨⟨within, ?_⟩, Node.text_of_account (others id apart)⟩
    rw [pushed]
    refine List.forall_mem_cons.mpr ⟨?_, avoids.frames⟩
    rw [capture]
    split
    · exact fun same => apart (Option.some.inj same).symm
    · exact avoids.frames _ (around ▸ List.mem_cons_self)
  | plain around pushed node capture nodes =>
    refine ⟨⟨within, ?_⟩, congrArg Node.text (Draft.node_congr nodes id)⟩
    rw [pushed]
    refine List.forall_mem_cons.mpr ⟨?_, avoids.frames⟩
    rw [capture]
    exact avoids.frames _ (around ▸ List.mem_cons_self)
  | text content =>
    exact ⟨⟨within, (document_addText reading content).2 ▸ avoids.frames⟩,
      congrArg Node.text (node_addText_of_ne avoids.frames content)⟩
  | closes other frames node =>
    refine ⟨⟨within, fun frame member => avoids.frames frame ?_⟩, text_closeNode ..⟩
    rw [frames]
    exact List.mem_cons_of_mem _ member
  | passes frames node =>
    refine ⟨⟨within, fun frame member => avoids.frames frame ?_⟩, rfl⟩
    rw [frames]
    exact List.mem_cons_of_mem _ member

theorem text_steps {items : List Item} (going : (reading.steps limits items).failure = none)
    {id : NodeId} (avoids : reading.Avoids id) :
    ((reading.steps limits items).state.model.node id).text = (reading.model.node id).text := by
  induction items generalizing reading with
  | nil => rfl
  | cons item rest ih =>
    obtain ⟨proceeds, later⟩ := going_cons going
    obtain ⟨event, -, turns⟩ := turns_step proceeds
    obtain ⟨after, same⟩ := turns.avoids avoids
    rw [steps_cons proceeds, ih later after, same]

def closed? (reading : Reading) : Event -> Option NodeId
  | .closes _ => (reading.frames.head?.bind Frame.node).filter fun id =>
      (reading.model.node id).kind = .documentation
  | _ => none

/-- The documentation tags that close in a run that is not stopped, in the order in which they do. -/
def documented (limits : Limits) (reading : Reading) : List Item -> List NodeId
  | [] => []
  | item :: rest =>
      (item.content.toOption.bind reading.closed?).toList ++
        (reading.step limits item).state.documented limits rest

@[simp] theorem closed?_opens (reading : Reading) (name : String)
    (attributes : List (String × String)) : reading.closed? (.opens name attributes) = none := rfl

@[simp] theorem closed?_text (reading : Reading) (content : String) :
    reading.closed? (.text content) = none := rfl

theorem closed?_closes {name : String} {id : NodeId}
    (closes : reading.closed? (.closes name) = some id) :
    reading.frames.head?.bind Frame.node = some id ∧
      (reading.model.node id).kind = .documentation := by
  obtain ⟨innermost, kind⟩ := Option.filter_eq_some_iff.mp closes
  exact ⟨innermost, of_decide_eq_true kind⟩

theorem closed?_of_node {frame : Frame} {rest : List Frame} (frames : reading.frames = frame :: rest)
    {id : NodeId} (node : frame.node = some id) (name : String) :
    reading.closed? (.closes name) =
      if (reading.model.node id).kind = .documentation then some id else none := by
  have innermost : reading.frames.head?.bind Frame.node = some id := by simp [frames, node]
  rw [closed?, innermost, Option.filter_some]
  simp

theorem closed?_of_none {frame : Frame} {rest : List Frame} (frames : reading.frames = frame :: rest)
    (node : frame.node = none) (name : String) : reading.closed? (.closes name) = none := by
  simp [closed?, frames, node]

theorem documented_cons {item : Item} (is : item.content = .ok event) (rest : List Item) :
    reading.documented limits (item :: rest) = (reading.closed? event).toList ++
      (reading.step limits item).state.documented limits rest := by
  rw [documented, is]
  rfl

theorem Turns.documentation (turns : reading.Turns event next)
    (trimmed : ∀ id, reading.closed? event = some id ->
      Text.trim (reading.model.node id).text = (reading.model.node id).text) (other : NodeId) :
    (next.model.node other).documentation = (reading.model.node other).documentation ++
      reading.model.handed (reading.closed? event).toList other := by
  cases turns with
  | node around child pushed node capture size opened others =>
    refine Eq.trans ?_ (List.append_nil _).symm
    by_cases last : other = reading.model.nextNode
    · subst last
      have missing : reading.model.node reading.model.nextNode = default :=
        Model.node_of_size_le _ (Nat.le_refl _)
      rw [missing]
      exact congrArg (fun account => account.2.2.2) opened
    · exact Node.documentation_of_account (others other last)
  | plain around pushed node capture nodes =>
    refine Eq.trans ?_ (List.append_nil _).symm
    exact congrArg Node.documentation (Draft.node_congr nodes other)
  | text content =>
    refine Eq.trans ?_ (List.append_nil _).symm
    unfold addText
    split
    next id _ => exact Model.keeps_changeNode Node.documentation _ id other fun _ => rfl
    next => rfl
  | @closes name _ _ _ id frames node =>
    have handed := Node.documentation_of_account (account_closeNode reading.draft id other)
    have closes := closed?_of_node frames node name
    -- documentation is handed on when its tag closes, and at no other event
    by_cases kind : (reading.model.node id).kind = .documentation
    · rw [if_pos kind] at closes
      rw [closes]
      exact handed.trans (documentation_document kind (trimmed id closes) other)
    · have plain : document reading.draft.model id = reading.model :=
        documentation_document_of_plain kind
      rw [closes, if_neg kind]
      rw [plain] at handed
      exact handed.trans (List.append_nil _).symm
  | @passes name _ _ _ frames node =>
    rw [closed?_of_none frames node]
    exact (List.append_nil _).symm

theorem Turns.avoids_closed (turns : reading.Turns event next) (attends : reading.Attends)
    {id : NodeId} (closes : reading.closed? event = some id) :
    next.Avoids id ∧ (next.model.node id).text = (reading.model.node id).text := by
  have listens := attends.listens
  cases turns with
  | node => cases closes
  | plain => cases closes
  | text => cases closes
  | @closes _ frame outer rest other frames node =>
    obtain ⟨innermost, kind⟩ := closed?_closes closes
    obtain rfl : other = id := by simpa [frames, node] using innermost
    rw [frames] at listens
    cases listens with
    | documents own around there within _ takes silent =>
      obtain rfl := Option.some.inj (there.symm.trans node)
      refine ⟨⟨?_, fun frame member takes => ?_⟩, text_closeNode ..⟩
      · exact Nat.lt_of_lt_of_eq within (size_closeNode reading.draft own).symm
      · cases (around.silent silent frame member).symm.trans takes
    | inherits around plain => exact absurd kind (plain other node).2
  | passes frames node =>
    obtain ⟨innermost, -⟩ := closed?_closes closes
    simp [frames, node] at innermost

/-- A run hands to each node the texts of its documentation tags that close in the run. -/
theorem documentation_steps {items : List Item} (attends : reading.Attends)
    (going : (reading.steps limits items).failure = none)
    (trimmed : ∀ id ∈ reading.documented limits items,
      Text.trim ((reading.steps limits items).state.model.node id).text =
        ((reading.steps limits items).state.model.node id).text) (other : NodeId) :
    ((reading.steps limits items).state.model.node other).documentation =
      (reading.model.node other).documentation ++
        (reading.steps limits items).state.model.handed (reading.documented limits items) other := by
  induction items generalizing reading with
  | nil => exact (List.append_nil _).symm
  | cons item rest ih =>
    obtain ⟨proceeds, later⟩ := going_cons going
    obtain ⟨event, is, turns⟩ := turns_step proceeds
    rw [documented_cons is, steps_cons proceeds] at trimmed ⊢
    -- what closes now has its text and what is around it for good
    have lasts : ∀ id, reading.closed? event = some id ->
        id.index < reading.model.nodes.size ∧
          (((reading.step limits item).state.steps limits rest).state.model.node id).text =
            (reading.model.node id).text := by
      intro id closes
      obtain ⟨avoids, same⟩ := turns.avoids_closed attends closes
      refine ⟨?_, (text_steps later avoids).trans same⟩
      by_contra outside
      cases event with
      | closes name =>
        have kind := (closed?_closes closes).2
        rw [Model.node_of_size_le _ (Nat.not_lt.mp outside)] at kind
        cases kind
      | _ => cases closes
    have stands := turns.stands.trans (stands_steps later)
    have handed : reading.model.handed (reading.closed? event).toList other =
        ((reading.step limits item).state.steps limits rest).state.model.handed
          (reading.closed? event).toList other := by
      cases closes : reading.closed? event with
      | none => rfl
      | some id =>
        obtain ⟨within, text⟩ := lasts id closes
        refine (Model.handed_congr fun closed member => ?_).symm
        obtain rfl := List.mem_singleton.mp member
        exact ⟨stands.enclosing within Kind.isDocumented, text⟩
    rw [ih (attends.step proceeds) later fun id member => trimmed id (List.mem_append_right _ member),
      turns.documentation fun id closes => ?_, handed, Model.handed_append, List.append_assoc]
    rw [← (lasts id closes).2]
    exact trimmed id (List.mem_append_left _ (by simp [closes]))

theorem documentations_of_lt {model : Model} {first : Nat} (within : first < model.nodes.size) :
    model.documentations first =
      (if (model.node ⟨first⟩).kind = .documentation then [⟨first⟩] else []) ++
        model.documentations (first + 1) := by
  unfold Model.documentations
  have count : model.nodes.size - first = model.nodes.size - (first + 1) + 1 := by omega
  rw [count, List.range'_succ, List.map_cons, List.filter_cons]
  by_cases kind : (model.node ⟨first⟩).kind = .documentation <;> simp [kind]

theorem documented_steps {items : List Item} (attends : reading.Attends)
    (going : (reading.steps limits items).failure = none) :
    reading.documented limits items ++
        ((reading.steps limits items).state.frames.head?.bind Frame.capture).toList =
      (reading.frames.head?.bind Frame.capture).toList ++
        (reading.steps limits items).state.model.documentations reading.model.nodes.size := by
  induction items generalizing reading with
  | nil => simp [documented, steps, Attempt.done, Model.documentations]
  | cons item rest ih =>
    obtain ⟨proceeds, later⟩ := going_cons going
    obtain ⟨event, is, turns⟩ := turns_step proceeds
    have next := ih (attends.step proceeds) later
    have stands := stands_steps later
    rw [documented_cons is, steps_cons proceeds]
    generalize (reading.step limits item).state = after at *
    generalize (after.steps limits rest).state = ended at *
    have listens := attends.listens
    cases turns with
    | @node _ _ _ kind frame outer outside around child pushed node capture size opened others =>
      have silent := attends.silent around child
      have told : (after.model.node reading.model.nextNode).kind = kind := congrArg Prod.fst opened
      have inside : reading.model.nodes.size < after.model.nodes.size := size ▸ Nat.lt_succ_self _
      have within : reading.model.nodes.size < ended.model.nodes.size :=
        Nat.lt_of_lt_of_le inside stands.size
      have last : (ended.model.node ⟨reading.model.nodes.size⟩).kind = kind :=
        (stands.kind ⟨reading.model.nodes.size⟩ inside).trans told
      -- a documentation tag that opens is the next of the documentations to come
      rw [documentations_of_lt within, last, ← size]
      simp only [pushed, around, List.head?_cons, Option.bind_some, capture, silent] at next ⊢
      by_cases documents : kind = .documentation
      · simpa [documents, Model.nextNode] using next
      · simpa [documents] using next
    | plain around pushed node capture nodes =>
      rw [nodes] at next
      simpa [pushed, around, capture] using next
    | text content =>
      rw [size_addText, (document_addText reading content).2] at next
      simpa using next
    | @closes name frame outer outside id frames node =>
      have model : (Reading.mk (closeNode reading.draft id) (outer :: outside)).model =
        (closeNode reading.draft id).model := rfl
      have size : (closeNode reading.draft id).model.nodes.size = reading.model.nodes.size :=
        size_closeNode ..
      rw [model, size] at next
      rw [frames] at listens
      rw [closed?_of_node frames node]
      -- only the innermost frame is asked, and it takes text for its own tag
      cases listens with
      | documents own outer there within kind takes silent =>
        obtain rfl := Option.some.inj (there.symm.trans node)
        simpa [frames, kind, takes, silent] using next
      | inherits outer plain takes => simpa [frames, (plain id node).2, takes] using next
    | @passes name frame outer outside frames node =>
      have model : (Reading.mk reading.draft (outer :: outside)).model = reading.model := rfl
      rw [model] at next
      rw [frames] at listens
      rw [closed?_of_none frames node]
      cases listens with
      | documents own outer there => cases there.symm.trans node
      | inherits outer plain takes => simpa [frames, takes] using next

end Reading

end XmlSchema

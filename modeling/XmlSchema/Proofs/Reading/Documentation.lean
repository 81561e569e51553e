import XmlSchema.Proofs.Reading.Capture

set_option autoImplicit false

namespace XmlSchema

open Markup (Event Item eventsBefore)

/-- Text is reserved for documentation tags. -/
def Model.Reserved (model : Model) : Prop :=
  ∀ id, (model.node id).kind ≠ .documentation -> (model.node id).text = ""

namespace Reading

variable {limits : Limits} {reading next : Reading} {event : Event}

theorem account_document_of_ne {model : Model} {id other : NodeId}
    (apart : model.enclosing id Kind.isDocumented ≠ some other) :
    ((document model id).node other).account = (model.node other).account := by
  unfold document
  dsimp only
  split
  next =>
    split
    next owner around =>
      have different : ¬ other = owner := by
        rintro rfl
        exact apart around
      exact congrArg Node.account
        ((Model.node_changeNode ..).trans (if_neg fun same => different same.1))
    next => rfl
  next => rfl

theorem Sound.owned_of_enclosing {start : Model} (sound : reading.Sound start) {frame : Frame}
    {rest : List Frame} (frames : reading.frames = frame :: rest) {id owner : NodeId}
    (node : frame.node = some id) {accepts : Kind -> Bool}
    (around : reading.model.enclosing id accepts = some owner) :
    reading.draft.Owns start.nodes.size owner := by
  have framed := sound.framed
  rw [frames] at framed
  obtain ⟨below, member, there⟩ :=
    (framed.mem_ancestors sound.draft.gathered.shaped node owner).mp (Model.enclosing_spec around).1
  exact framed.owned (List.mem_cons_of_mem _ member) there

theorem Turns.account_of_old (turns : reading.Turns event next) {start : Model}
    (sound : reading.Sound start) {id : NodeId} (old : id.index < start.nodes.size)
    (avoids : reading.Avoids id) :
    (next.model.node id).account = (reading.model.node id).account := by
  cases turns with
  | node around child pushed node capture size opened others =>
    refine others id ?_
    rintro rfl
    exact Nat.lt_irrefl _ avoids.within
  | plain around pushed node capture nodes => exact congrArg Node.account (Draft.node_congr nodes id)
  | text content => exact congrArg Node.account (node_addText_of_ne avoids.frames content)
  | closes closed frames node =>
    refine (account_closeNode ..).trans (account_document_of_ne fun around => ?_)
    exact Nat.not_lt.mpr (sound.owned_of_enclosing frames node around).2 old
  | passes => rfl

theorem account_of_stopped {item : Item} (stopped : (reading.step limits item).failure ≠ none)
    (id : NodeId) :
    ((reading.step limits item).state.model.node id).account = (reading.model.node id).account ∨
      id = reading.model.nextNode ∧ ((reading.step limits item).state.model.node id).text = "" := by
  have outcome := reading.outcome_step limits item
  generalize reading.step limits item = attempt at outcome stopped ⊢
  cases outcome with
  | stopped => exact .inl rfl
  | misplaced => exact .inl rfl
  | @node _ attributes outer _ kind _ opens around child =>
      unfold openNode at stopped ⊢
      dsimp only at stopped ⊢
      split at stopped
      next =>
        have account := account_withTag (reading.rooted attributes).draft outer.scope
        by_cases last : id = reading.model.nextNode
        · exact .inr ⟨last, (Node.text_of_account ((account _ id).trans (if_pos last))).trans rfl⟩
        · exact .inl ((account _ id).trans (if_neg last))
      next => exact absurd rfl stopped
  | plain => exact absurd rfl stopped
  | text => exact absurd rfl stopped
  | closes => exact absurd rfl stopped
  | passes => exact absurd rfl stopped

theorem account_steps_of_old {start : Model} (base : start.Gathered) (sound : reading.Sound start)
    {id : NodeId} (old : id.index < start.nodes.size) (avoids : reading.Avoids id)
    (items : List Item) :
    ((reading.steps limits items).state.model.node id).account =
      (reading.model.node id).account := by
  induction items generalizing reading with
  | nil => rfl
  | cons item rest ih =>
    cases proceeds : (reading.step limits item).failure with
    | none =>
      obtain ⟨event, -, turns⟩ := turns_step proceeds
      rw [steps_cons proceeds, ih ((sound.step base limits item).2 proceeds) (turns.avoids avoids).1]
      exact turns.account_of_old sound old avoids
    | some failure =>
      have stopped : (reading.step limits item).failure ≠ none := by simp [proceeds]
      rw [steps_cons_of_stopped stopped]
      refine (account_of_stopped stopped id).resolve_right fun last => ?_
      rw [last.1] at avoids
      exact Nat.lt_irrefl _ avoids.within

theorem Turns.size_le (turns : reading.Turns event next) :
    next.model.nodes.size ≤ reading.model.nodes.size + 1 := by
  cases turns with
  | node around child pushed node capture size => exact Nat.le_of_eq size
  | plain around pushed node capture nodes =>
    exact Nat.le_succ_of_le (Nat.le_of_eq (congrArg Array.size nodes))
  | text content => exact Nat.le_succ_of_le (Nat.le_of_eq (size_addText ..))
  | closes id => exact Nat.le_succ_of_le (Nat.le_of_eq (size_closeNode reading.draft id))
  | passes => exact Nat.le_succ _

theorem opened_at {items : List Item} (going : (reading.steps limits items).failure = none)
    {id : NodeId} (new : reading.model.nodes.size ≤ id.index)
    (within : id.index < (reading.steps limits items).state.model.nodes.size) :
    ∃ before opening rest, items = before ++ opening :: rest ∧
      (reading.steps limits before).state.model.nextNode = id ∧
      id.index <
        ((reading.steps limits before).state.step limits opening).state.model.nodes.size := by
  induction items generalizing reading with
  | nil => exact absurd within (Nat.not_lt.mpr new)
  | cons item rest ih =>
    obtain ⟨proceeds, later⟩ := going_cons going
    obtain ⟨event, -, turns⟩ := turns_step proceeds
    rw [steps_cons proceeds] at within
    by_cases here : id.index < (reading.step limits item).state.model.nodes.size
    · have last : reading.model.nodes.size = id.index := by
        have grown := turns.size_le
        omega
      exact ⟨[], item, rest, rfl, congrArg NodeId.mk last, here⟩
    · obtain ⟨before, opening, after, rfl, next, there⟩ := ih later (Nat.not_lt.mp here) within
      refine ⟨item :: before, opening, after, rfl, ?_, ?_⟩
      · rw [steps_cons proceeds]
        exact next
      · rw [steps_cons proceeds]
        exact there

def Adds (id : NodeId) (texts : List String) (old new : Model) : Prop :=
  ∀ other, new.node other =
    if other = id then texts.foldl Node.withText (old.node id) else old.node other

theorem adds_nothing {old new : Model} (same : ∀ id, new.node id = old.node id) (id : NodeId) :
    Adds id [] old new := by
  intro other
  rw [same]
  split
  next here => rw [here]; rfl
  next => rfl

theorem Adds.trans {old middle new : Model} {id : NodeId} {one two : List String}
    (first : Adds id one old middle) (second : Adds id two middle new) :
    Adds id (one ++ two) old new := by
  intro other
  rw [second, first other, first id, if_pos rfl, List.foldl_append]
  split <;> rfl

theorem turns_of_content {item : Item} (proceeds : (reading.step limits item).failure = none)
    (content : item.content = .ok event) : reading.Turns event (reading.step limits item).state := by
  obtain ⟨other, is, turns⟩ := turns_step proceeds
  obtain rfl : other = event := Except.ok.inj (is.symm.trans content)
  exact turns

theorem Turns.opens_inside {name : String} {attributes : List (String × String)}
    (turns : reading.Turns (.opens name attributes) next) (regular : reading.Regular) {frame : Frame}
    {rest : List Frame} (frames : reading.frames = frame :: rest) {id : NodeId}
    (takes : frame.capture = some id) :
    ∃ plain, next.frames = plain :: frame :: rest ∧ plain.node = none ∧ plain.capture = some id ∧
      next.model.nodes = reading.model.nodes := by
  cases turns with
  | node around child =>
    obtain ⟨rfl, rfl⟩ := List.cons.inj (frames.symm.trans around)
    obtain ⟨name, child⟩ := child
    have taken : frame.capture ≠ none := by simp [takes]
    have free := regular.child_of_captured (frames ▸ List.mem_cons_self) taken name
    cases child.symm.trans free
  | plain around pushed node capture nodes =>
    obtain ⟨rfl, rfl⟩ := List.cons.inj (frames.symm.trans around)
    exact ⟨_, pushed.trans (by rw [frames]), node, capture.trans takes, nodes⟩

theorem Turns.closes_plain {name : String} (turns : reading.Turns (.closes name) next)
    {plain frame : Frame} {rest : List Frame} (frames : reading.frames = plain :: frame :: rest)
    (node : plain.node = none) : next = ⟨reading.draft, frame :: rest⟩ := by
  cases turns with
  | closes id others there =>
    obtain ⟨rfl, -⟩ := List.cons.inj (frames.symm.trans others)
    cases node.symm.trans there
  | passes others =>
    obtain ⟨rfl, tail⟩ := List.cons.inj (frames.symm.trans others)
    rw [tail]

theorem steps_inside {inner : List Item} {events : List Event} (balanced : Event.Balanced events)
    (contents : inner.map Item.content = events.map .ok) (regular : reading.Regular)
    {frame : Frame} {rest : List Frame} (frames : reading.frames = frame :: rest) {id : NodeId}
    (takes : frame.capture = some id) (within : id.index < reading.model.nodes.size)
    (going : (reading.steps limits inner).failure = none) :
    (reading.steps limits inner).state.frames = reading.frames ∧
      Adds id (Event.texts events) reading.model (reading.steps limits inner).state.model := by
  -- by induction on how the events nest, the tags inside having no nodes
  induction balanced generalizing inner reading frame rest with
  | nothing =>
    obtain rfl := List.map_eq_nil_iff.mp contents
    exact ⟨rfl, adds_nothing (fun _ => rfl) id⟩
  | @text content events later ih =>
    obtain ⟨item, inner, rfl, is, contents⟩ := List.map_eq_cons_iff.mp contents
    obtain ⟨proceeds, going⟩ := going_cons going
    have regular := regular.step item proceeds
    rw [steps_cons proceeds]
    have step : (reading.step limits item).state = reading.addText content := by rw [step, is]; rfl
    have same := (document_addText reading content).2
    have added : Adds id [content] reading.model (reading.addText content).model :=
      node_addText frames takes within content
    rw [step] at regular going ⊢
    have inside : id.index < (reading.addText content).model.nodes.size :=
      Nat.lt_of_lt_of_le within (Turns.text content).stands.size
    obtain ⟨ended, nodes⟩ := ih contents regular (same.trans frames) takes inside going
    exact ⟨ended.trans same, added.trans nodes⟩
  | @tag name attributes inside events nested later ihInside ihLater =>
    obtain ⟨opening, others, rfl, opens, contents⟩ := List.map_eq_cons_iff.mp contents
    rw [List.map_append, List.map_cons] at contents
    obtain ⟨inner, others, rfl, innerContents, contents⟩ := List.map_eq_append_iff.mp contents
    obtain ⟨closing, after, rfl, closes, laterContents⟩ := List.map_eq_cons_iff.mp contents
    obtain ⟨proceeds, going⟩ := going_cons going
    have first := going_append going
    rw [steps_cons proceeds, steps_append first]
    rw [steps_append first] at going
    obtain ⟨finishes, going⟩ := going_cons going
    rw [steps_cons finishes]
    have opened := regular.step opening proceeds
    have regularAfter := (opened.steps inner first).step closing finishes
    -- the frame of the inner tag takes texts for the same node, until it is dropped
    obtain ⟨plain, pushed, node, capture, nodes⟩ :=
      (turns_of_content proceeds opens).opens_inside regular frames takes
    have there : id.index < (reading.step limits opening).state.model.nodes.size := by
      rw [nodes]
      exact within
    obtain ⟨kept, read⟩ := ihInside innerContents opened pushed capture there first
    have closed := (turns_of_content finishes closes).closes_plain (kept.trans pushed) node
    rw [closed] at regularAfter going ⊢
    obtain ⟨final, ends⟩ := ihLater laterContents regularAfter rfl takes
      (Nat.lt_of_lt_of_le there (stands_steps first).size) going
    refine ⟨final.trans frames.symm, ?_⟩
    have whole := ((adds_nothing (fun other => Draft.node_congr nodes other) id).trans read).trans ends
    simpa [Event.texts] using whole

/-- The tag of a node among the items of a document: the items before it, the one that opens it,
those inside it, and the one that closes it. -/
structure Spans (limits : Limits) (start : Reading) (id : NodeId) (before : List Item)
    (opening : Item) (inner : List Item) (closing : Item) : Prop where
  tag : ∃ name attributes, opening.content = .ok (.opens name attributes) ∧
    closing.content = .ok (.closes name)
  inside : ∃ events, inner.map Item.content = events.map .ok ∧ Event.Balanced events
  new : (start.steps limits before).state.model.nextNode = id
  node : (start.steps limits (before ++ [opening])).state.frames.head?.bind Frame.node = some id

def prose (items : List Item) : String := Event.prose (eventsBefore (items.map Item.content))

/-- What becomes of a documentation tag with this place among the items of a document: the text it
has when it closes and the node that gets it, as the model in the end has them, too. -/
structure Captures (limits : Limits) (start : Reading) (model : Model) (id owner : NodeId)
    (before : List Item) (opening : Item) (inner : List Item) (closing : Item) : Prop where
  spans : start.Spans limits id before opening inner closing
  text : ((start.steps limits (before ++ opening :: inner)).state.model.node id).text = prose inner
  kept : (model.node id).text = prose inner
  nearest : ((start.steps limits before).state.frames.filterMap Frame.node).find? (fun outer =>
    ((start.steps limits before).state.model.node outer).kind.isDocumented) = some owner
  enclosing : model.enclosing id Kind.isDocumented = some owner
  receives : ∀ other,
    ((start.steps limits (before ++ opening :: (inner ++ [closing]))).state.model.node
        other).documentation =
      ((start.steps limits (before ++ opening :: inner)).state.model.node other).documentation ++
        if other = owner ∧ prose inner ≠ "" then [prose inner] else []

structure Documents (limits : Limits) (start : Reading) (items : List Item) (model : Model) :
    Prop where
  captures : ∀ id, start.model.nodes.size ≤ id.index ->
    id.index < (start.steps limits items).state.model.nodes.size ->
    (model.node id).kind = .documentation -> ∃ owner before opening inner closing after,
      items = before ++ opening :: (inner ++ closing :: after) ∧
        start.Captures limits model id owner before opening inner closing
  closes : ∀ id, id ∈ start.documented limits items ↔ start.model.nodes.size ≤ id.index ∧
    id.index < (start.steps limits items).state.model.nodes.size ∧
      (model.node id).kind = .documentation
  once : (start.documented limits items).Nodup
  lists : ∀ owner, start.model.nodes.size ≤ owner.index ->
    owner.index < (start.steps limits items).state.model.nodes.size ->
      (model.node owner).documentation = model.handed (start.documented limits items) owner
  apart : ∀ id : NodeId, id.index < start.model.nodes.size ->
    ((start.steps limits items).state.model.node id).text = (start.model.node id).text ∧
      ((start.steps limits items).state.model.node id).documentation =
        (start.model.node id).documentation

theorem mem_documentations {model : Model} {first : Nat} {id : NodeId} :
    id ∈ model.documentations first ↔
      first ≤ id.index ∧ id.index < model.nodes.size ∧ (model.node id).kind = .documentation := by
  obtain ⟨index⟩ := id
  simp only [Model.documentations, List.mem_filter, List.mem_map, List.mem_range'_1,
    NodeId.mk.injEq, exists_eq_right, decide_eq_true_eq]
  constructor
  · rintro ⟨⟨above, below⟩, kind⟩
    exact ⟨above, by omega, kind⟩
  · rintro ⟨above, below, kind⟩
    exact ⟨⟨above, by omega⟩, kind⟩

theorem nodup_documentations (model : Model) (first : Nat) : (model.documentations first).Nodup := by
  refine List.Pairwise.filter _ (List.Pairwise.map NodeId.mk (fun _ _ apart same => ?_)
    List.nodup_range')
  exact apart (congrArg NodeId.index same)

theorem exists_closing {events : List Event} {name : String} {attributes : List (String × String)}
    {before rest : List Item} {opening : Item}
    (contents : (before ++ opening :: rest).map Item.content = events.map .ok)
    (opens : opening.content = .ok (.opens name attributes))
    (closed : Event.openAfter [] events = some []) :
    ∃ inner closing after, rest = inner ++ closing :: after ∧
      closing.content = .ok (.closes name) ∧
        ∃ inside, inner.map Item.content = inside.map .ok ∧ Event.Balanced inside := by
  rw [List.map_append, List.map_cons] at contents
  obtain ⟨first, second, rfl, -, secondContents⟩ := List.map_eq_append_iff.mp contents.symm
  obtain ⟨event, later, rfl, is, laterContents⟩ := List.map_eq_cons_iff.mp secondContents
  obtain rfl : event = .opens name attributes := Except.ok.inj (is.trans opens)
  rw [Event.openAfter_append] at closed
  obtain ⟨around, -, closed⟩ := Option.bind_eq_some_iff.mp closed
  rw [Event.openAfter_cons, Event.turn, Option.bind_some] at closed
  have closes := Event.closes_of_openAfter closed
  rw [List.map_nil, List.append_nil] at closes
  obtain ⟨inside, after, rfl, balanced, -⟩ := closes
  rw [List.map_append, List.map_cons] at laterContents
  obtain ⟨inner, others, rfl, innerContents, otherContents⟩ :=
    List.map_eq_append_iff.mp laterContents.symm
  obtain ⟨closing, after, rfl, closes, -⟩ := List.map_eq_cons_iff.mp otherContents
  exact ⟨inner, closing, after, rfl, closes, inside, innerContents, balanced⟩

theorem eventsBefore_of_contents {inner : List Item} {events : List Event}
    (contents : inner.map Item.content = events.map .ok) :
    eventsBefore (inner.map Item.content) = events := by
  have whole := Markup.eventsBefore_append events []
  rw [List.append_nil] at whole
  rw [contents, whole]
  exact List.append_nil events

theorem solid_of_contents {inner : List Item} {events : List Event}
    (contents : inner.map Item.content = events.map .ok)
    (solid : ∀ item ∈ inner, ∀ text, item.content = .ok (.text text) -> Text.trim text ≠ "") :
    Event.Solid events := by
  intro text member
  obtain ⟨event, among, is⟩ := List.mem_filterMap.mp member
  cases event with
  | text content =>
    obtain rfl := Option.some.inj is
    obtain ⟨item, there, has⟩ := List.mem_map.mp (contents ▸ List.mem_map_of_mem among)
    exact solid item there content has
  | opens => cases is
  | closes => cases is

theorem Turns.opens_of_grown (turns : reading.Turns event next)
    (grown : reading.model.nodes.size < next.model.nodes.size) :
    ∃ name attributes kind frame, event = .opens name attributes ∧
      next.frames = frame :: reading.frames ∧ frame.node = some reading.model.nextNode ∧
      (kind = .documentation -> frame.capture = some reading.model.nextNode) ∧
      (next.model.node reading.model.nextNode).account = (kind, reading.nearestNode, "", []) := by
  cases turns with
  | node around child pushed node capture size opened =>
    exact ⟨_, _, _, _, rfl, pushed, node, fun documents => capture.trans (if_pos documents), opened⟩
  | plain around pushed node capture nodes =>
    rw [nodes] at grown
    exact absurd grown (Nat.lt_irrefl _)
  | text content =>
    exact absurd (Nat.lt_of_lt_of_eq grown (size_addText ..)) (Nat.lt_irrefl _)
  | closes id =>
    exact absurd (Nat.lt_of_lt_of_eq grown (size_closeNode reading.draft id)) (Nat.lt_irrefl _)
  | passes => exact absurd grown (Nat.lt_irrefl _)

theorem Turns.exists_owner (turns : reading.Turns event next) {start : Model}
    (sound : next.Sound start) {frame : Frame} (pushed : next.frames = frame :: reading.frames)
    (node : frame.node = some reading.model.nextNode)
    (kind : (next.model.node reading.model.nextNode).kind ≠ .schema) :
    ∃ owner, (reading.frames.filterMap Frame.node).find? (fun outer =>
        (reading.model.node outer).kind.isDocumented) = some owner ∧
      next.model.enclosing reading.model.nextNode Kind.isDocumented = some owner := by
  have framed := sound.framed
  rw [pushed] at framed
  have shaped := sound.draft.gathered.shaped
  -- the tags around it are those that are open
  have ancestors : next.model.ancestors reading.model.nextNode =
      reading.frames.filterMap Frame.node := framed.ancestors_eq shaped node
  obtain ⟨outer, member, schema⟩ := framed.schema shaped node
  have around : outer ∈ reading.frames.filterMap Frame.node := by
    rw [List.filterMap_cons_some node] at member
    refine (List.mem_cons.mp member).resolve_left fun same => kind ?_
    rw [← same]
    exact schema
  obtain ⟨owner, nearest⟩ := Option.isSome_iff_exists.mp
    (List.find?_isSome (p := fun outer => (next.model.node outer).kind.isDocumented).mpr
      ⟨outer, around, congrArg Kind.isDocumented schema⟩)
  refine ⟨owner, ?_, ?_⟩
  · rw [← nearest]
    refine List.find?_congr fun other there => ?_
    rw [← ancestors] at there
    exact congrArg Kind.isDocumented (turns.stands.kind other (Model.mem_ancestors_lt there)).symm
  · rw [Model.enclosing, ancestors]
    exact nearest

theorem handed_single (model : Model) (id other owner : NodeId)
    (around : model.enclosing id Kind.isDocumented = some owner) :
    model.handed [id] other =
      if other = owner ∧ (model.node id).text ≠ "" then [(model.node id).text] else [] := by
  by_cases same : other = owner
  · subst same
    by_cases empty : (model.node id).text = "" <;> simp [Model.handed, around, empty]
  · have apart : ¬ owner = other := fun back => same back.symm
    simp [Model.handed, around, same, apart]

theorem steps_documentation {entered : Reading} (attends : entered.Attends) {frame : Frame}
    {rest : List Frame} (frames : entered.frames = frame :: rest) {id : NodeId}
    (node : frame.node = some id) (takes : frame.capture = some id)
    (within : id.index < entered.model.nodes.size)
    (kind : (entered.model.node id).kind = .documentation)
    (empty : (entered.model.node id).text = "") {inner : List Item} {closing : Item}
    {inside : List Event} {name : String} (contents : inner.map Item.content = inside.map .ok)
    (balanced : Event.Balanced inside) (solid : Event.Solid inside)
    (closes : closing.content = .ok (.closes name))
    (going : (entered.steps limits inner).failure = none)
    (finishes : ((entered.steps limits inner).state.step limits closing).failure = none) :
    ((entered.steps limits inner).state.model.node id).text = prose inner ∧
      ((entered.steps limits inner).state.step limits closing).state.Avoids id ∧
      (((entered.steps limits inner).state.step limits closing).state.model.node id).text =
        prose inner ∧
      ∀ other,
        (((entered.steps limits inner).state.step limits closing).state.model.node
            other).documentation =
          ((entered.steps limits inner).state.model.node other).documentation ++
            (entered.steps limits inner).state.model.handed [id] other := by
  obtain ⟨kept, nodes⟩ :=
    steps_inside balanced contents attends.regular frames takes within going
  have stands := stands_steps going
  have attendsLeft := attends.steps going
  generalize (entered.steps limits inner).state = left at *
  have text : (left.model.node id).text = prose inner := by
    rw [nodes, if_pos rfl, Node.foldl_withText, prose, eventsBefore_of_contents contents,
      ← Markup.collected_texts solid, ← empty]
  have trimmed : Text.trim (left.model.node id).text = (left.model.node id).text := by
    rw [text, prose, eventsBefore_of_contents contents]
    exact Markup.trim_prose solid
  -- the innermost frame is that of the tag again
  have closed : left.closed? (.closes name) = some id := by
    rw [closed?_of_node (kept.trans frames) node name]
    exact if_pos ((stands.kind id within).trans kind)
  have turns := turns_of_content finishes closes
  obtain ⟨avoids, same⟩ := turns.avoids_closed attendsLeft closed
  refine ⟨text, avoids, same.trans text, fun other => ?_⟩
  have handed := turns.documentation (fun other there => ?_) other
  · rw [closed] at handed
    exact handed
  · obtain rfl := Option.some.inj (closed.symm.trans there)
    exact trimmed

/-- Every documentation tag with a node takes what stands inside it, and hands that on. -/
theorem captures_steps {start : Model} (base : start.Gathered) (sound : reading.Sound start)
    (attends : reading.Attends) {items : List Item} {events : List Event}
    (contents : items.map Item.content = events.map .ok)
    (closed : Event.openAfter [] events = some [])
    (solid : ∀ item ∈ items, ∀ text, item.content = .ok (.text text) -> Text.trim text ≠ "")
    (going : (reading.steps limits items).failure = none) {id : NodeId}
    (new : reading.model.nodes.size ≤ id.index)
    (within : id.index < (reading.steps limits items).state.model.nodes.size)
    (kind : ((reading.steps limits items).state.model.node id).kind = .documentation) :
    ∃ owner before opening inner closing after,
      items = before ++ opening :: (inner ++ closing :: after) ∧
        reading.Captures limits (reading.steps limits items).state.model id owner before opening inner
          closing := by
  obtain ⟨before, opening, rest, rfl, rfl, grown⟩ := opened_at going new within
  have begins := going_append going
  have attendsBefore := attends.steps begins
  have soundBefore := (sound.steps base limits before).2 begins
  have reach := @steps_append limits reading before begins
  rw [reach] at going within kind ⊢
  generalize outset : (reading.steps limits before).state = outside at *
  obtain ⟨proceeds, going⟩ := going_cons going
  have step := @steps_cons limits outside opening proceeds
  have attendsOpened := attendsBefore.step proceeds
  have soundOpened := (soundBefore.step base limits opening).2 proceeds
  -- the tag opens
  obtain ⟨event, is, turns⟩ := turns_step proceeds
  obtain ⟨name, attributes, as, frame, rfl, pushed, node, takes, opened⟩ :=
    turns.opens_of_grown grown
  obtain ⟨inner, closing, after, rfl, closes, inside, innerContents, balanced⟩ :=
    exists_closing contents is closed
  have solidInside : Event.Solid inside :=
    solid_of_contents innerContents fun item member => solid item (by simp [member])
  rw [step] at within kind ⊢
  generalize entering : (outside.step limits opening).state = entered at *
  have first := going_append going
  have finish := @steps_append limits entered inner first
  rw [finish] at going within kind ⊢
  obtain ⟨finishes, last⟩ := going_cons going
  have leave := @steps_cons limits (entered.steps limits inner).state closing finishes
  rw [leave] at within kind ⊢
  -- it is a documentation tag from the start
  have standsInner := stands_steps first
  obtain ⟨closingEvent, -, closesTurn⟩ := turns_step finishes
  have standsLast := closesTurn.stands.trans (stands_steps last)
  have stands := standsInner.trans standsLast
  have told : (entered.model.node outside.model.nextNode).kind = as := congrArg Prod.fst opened
  obtain rfl : as = .documentation := told.symm.trans ((stands.kind _ grown).symm.trans kind)
  have empty : (entered.model.node outside.model.nextNode).text = "" :=
    congrArg (fun account => account.2.2.1) opened
  obtain ⟨text, avoids, kept, handed⟩ := steps_documentation attendsOpened pushed node (takes rfl)
    grown told empty innerContents balanced solidInside closes first finishes
  obtain ⟨owner, nearest, enclosing⟩ := turns.exists_owner soundOpened pushed node
    fun schema => by cases schema.symm.trans told
  have enclosingLast := (stands.enclosing grown Kind.isDocumented).trans enclosing
  have enclosingLeft := (standsInner.enclosing grown Kind.isDocumented).trans enclosing
  have openedAt : (reading.steps limits (before ++ [opening])).state = entered := by
    rw [steps_concat begins, outset, entering]
  have leftAt : (reading.steps limits (before ++ opening :: inner)).state =
      (entered.steps limits inner).state := by
    rw [steps_append begins, outset, steps_cons proceeds, entering]
  have closedAt : (reading.steps limits (before ++ opening :: (inner ++ [closing]))).state =
      ((entered.steps limits inner).state.step limits closing).state := by
    rw [steps_append begins, outset, steps_cons proceeds, entering, steps_concat first]
  refine ⟨owner, before, opening, inner, closing, after, rfl,
    { spans := ⟨⟨name, attributes, is, closes⟩, ⟨inside, innerContents, balanced⟩, ?_, ?_⟩,
      text := ?_, kept := (text_steps last avoids).trans kept, nearest := ?_,
      enclosing := enclosingLast, receives := fun other => ?_ }⟩
  · rw [outset]
  · rw [openedAt, pushed]
    exact node
  · rw [leftAt]
    exact text
  · rw [outset]
    exact nearest
  · rw [closedAt, leftAt, handed, handed_single _ _ _ _ enclosingLeft, text]

theorem Turns.reserved (turns : reading.Turns event next) (attends : reading.Attends)
    (reserved : reading.model.Reserved) : next.model.Reserved := by
  cases turns with
  | node around child pushed node capture size opened others =>
    intro id kind
    by_cases last : id = reading.model.nextNode
    · subst last
      exact congrArg (fun account => account.2.2.1) opened
    · rw [Node.kind_of_account (others id last)] at kind
      rw [Node.text_of_account (others id last)]
      exact reserved id kind
  | plain around pushed node capture nodes =>
    intro id
    have same : next.model.node id = reading.model.node id := Draft.node_congr nodes id
    rw [same]
    exact reserved id
  | text content =>
    intro id kind
    -- what text is taken for is a documentation tag, and stays one
    have avoids : ∀ frame ∈ reading.frames, frame.capture ≠ some id := by
      intro frame member takes
      obtain ⟨within, documents⟩ := attends.listens.taken frame member id takes
      exact kind (((Turns.text content).stands.kind id within).trans documents)
    rw [node_addText_of_ne avoids] at kind ⊢
    exact reserved id kind
  | closes closed frames node =>
    intro id kind
    have kept := (Node.kind_of_account (account_closeNode reading.draft closed id)).trans
      (account_document ..).1
    exact (text_closeNode ..).trans (reserved id fun same => kind (kept.trans same))
  | passes => exact reserved

theorem reserved_steps (attends : reading.Attends) (reserved : reading.model.Reserved)
    (items : List Item) : (reading.steps limits items).state.model.Reserved := by
  induction items generalizing reading with
  | nil => exact reserved
  | cons item rest ih =>
    cases proceeds : (reading.step limits item).failure with
    | none =>
      obtain ⟨event, -, turns⟩ := turns_step proceeds
      rw [steps_cons proceeds]
      exact ih (attends.step proceeds) (turns.reserved attends reserved)
    | some failure =>
      have stopped : (reading.step limits item).failure ≠ none := by simp [proceeds]
      rw [steps_cons_of_stopped stopped]
      intro id kind
      rcases account_of_stopped stopped id with same | ⟨-, silent⟩
      · rw [Node.kind_of_account same] at kind
        rw [Node.text_of_account same]
        exact reserved id kind
      · exact silent

theorem documents_start {start : Model} (base : start.Gathered) {document : Document}
    (source : document.source = none) (tasks : document.tasks = #[]) {bytes : List UInt8}
    (going : ((Reading.start start document).steps limits (Markup.scan bytes).items).failure = none)
    (alone : ((Reading.start start document).steps limits
      (Markup.scan bytes).items).state.frames.length = 1) :
    (Reading.start start document).Documents limits (Markup.scan bytes).items
      ((Reading.start start document).steps limits (Markup.scan bytes).items).state.model := by
  have sound : (Reading.start start document).Sound start := Draft.sound_start base source tasks
  have attends := Attends.start start document
  obtain ⟨⟨left, closed, level⟩, contents, -⟩ :=
    (nests_start limits start document (List.prefix_refl (Markup.scan bytes).items)).done going
  have ended : left = [] := List.eq_nil_of_length_eq_zero (by omega)
  subst ended
  have solid : ∀ item ∈ (Markup.scan bytes).items, ∀ text, item.content = .ok (.text text) ->
      Text.trim text ≠ "" := fun item member text is => Markup.solid_scan member is
  have captures := @captures_steps limits _ start base sound attends _ _ contents closed solid going
  have steps := documented_steps attends going
  have listens := (attends.steps going).listens
  have lists := documentation_steps attends going
  have older := @account_steps_of_old limits _ start base sound
  generalize (Markup.scan bytes).items = items at *
  -- no tag is open in the end, so all that have opened have closed
  have closing : (Reading.start start document).documented limits items =
      ((Reading.start start document).steps limits items).state.model.documentations
        start.nodes.size := by
    obtain ⟨only, single⟩ := List.length_eq_one_iff.mp alone
    rw [single] at listens steps
    cases listens with
    | bottom node silent =>
      simpa [silent, Reading.start, Reading.model] using steps
  refine ⟨@captures, fun id => ?_, ?_, fun owner new within => ?_, fun id old => ?_⟩
  · rw [closing]
    exact mem_documentations
  · rw [closing]
    exact nodup_documentations ..
  · have fresh : ((Reading.start start document).model.node owner).documentation = [] := by
      rw [Model.node_of_size_le _ new]
      rfl
    have handed := lists (fun id member => ?_) owner
    · rw [fresh, List.nil_append] at handed
      exact handed
    · rw [closing] at member
      obtain ⟨above, below, kind⟩ := mem_documentations.mp member
      obtain ⟨_, before, opening, inner, closing, after, rfl, captured⟩ := captures above below kind
      obtain ⟨events, insideContents, -⟩ := captured.spans.inside
      rw [captured.kept, prose, eventsBefore_of_contents insideContents]
      exact Markup.trim_prose (solid_of_contents insideContents fun item member =>
        solid item (by simp [member]))
  · have account := @older id old (avoids_start old document) items
    exact ⟨Node.text_of_account account, Node.documentation_of_account account⟩

theorem Documents.congr {start : Reading} {items : List Item} {old new : Model}
    (documents : start.Documents limits items old)
    (same : ∀ id : NodeId, id.index < (start.steps limits items).state.model.nodes.size ->
      (new.node id).account = (old.node id).account) : start.Documents limits items new := by
  have enclosing {id : NodeId}
      (within : id.index < (start.steps limits items).state.model.nodes.size) :
      new.enclosing id Kind.isDocumented = old.enclosing id Kind.isDocumented := by
    refine Model.enclosing_congr (Model.ancestors_congr_below fun other below => ?_)
      (fun outer around => ?_) _
    · exact Node.parent_of_account (same other (Nat.lt_of_le_of_lt below within))
    · exact Node.kind_of_account (same outer (Nat.lt_trans (Model.mem_ancestors_lt around) within))
  refine ⟨fun id above within kind => ?_, fun id => ?_, documents.once, fun owner above within => ?_,
    documents.apart⟩
  · rw [Node.kind_of_account (same id within)] at kind
    obtain ⟨owner, before, opening, inner, closing, after, whole, captures⟩ :=
      documents.captures id above within kind
    exact ⟨owner, before, opening, inner, closing, after, whole,
      { captures with
        kept := (Node.text_of_account (same id within)).trans captures.kept
        enclosing := (enclosing within).trans captures.enclosing }⟩
  · rw [documents.closes]
    refine and_congr_right fun _ => and_congr_right fun within => ?_
    rw [Node.kind_of_account (same id within)]
  · rw [Node.documentation_of_account (same owner within), documents.lists owner above within]
    refine (Model.handed_congr fun id member => ?_).symm
    have inside := ((documents.closes id).mp member).2.1
    exact ⟨enclosing inside, Node.text_of_account (same id inside)⟩

end Reading

end XmlSchema

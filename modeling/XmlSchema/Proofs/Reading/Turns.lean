import XmlSchema.Proofs.Reading.Moves
import XmlSchema.Proofs.Reading.Steps

set_option autoImplicit false

namespace XmlSchema

namespace Node

structure Enduring {α : Type} (look : Node -> α) : Prop where
  source : ∀ (node : Node) source scope,
    look { node with source := source, scope := scope } = look node
  name : ∀ (node : Node) name, look { node with name := name } = look node
  occurs : ∀ (node : Node) occurs, look { node with occurs := occurs } = look node
  memberTypes : ∀ (node : Node) types, look { node with memberTypes := types } = look node
  enumeration : ∀ (node : Node) values, look { node with enumeration := values } = look node

/-- What a tag is and stands in, its text, and what describes it. -/
def account (node : Node) : Kind × Option NodeId × String × List String :=
  (node.kind, node.parent, node.text, node.documentation)

theorem enduring_account : Enduring account :=
  ⟨fun _ _ _ => rfl, fun _ _ => rfl, fun _ _ => rfl, fun _ _ => rfl, fun _ _ => rfl⟩

section

variable {one two : Node}

theorem kind_of_account (same : one.account = two.account) : one.kind = two.kind :=
  congrArg Prod.fst same

theorem parent_of_account (same : one.account = two.account) : one.parent = two.parent :=
  congrArg (fun account => account.2.1) same

theorem text_of_account (same : one.account = two.account) : one.text = two.text :=
  congrArg (fun account => account.2.2.1) same

theorem documentation_of_account (same : one.account = two.account) :
    one.documentation = two.documentation :=
  congrArg (fun account => account.2.2.2) same

end

end Node

section

variable {α : Type} {look : Node -> α}

namespace Model

theorem look_setOccurs (enduring : Node.Enduring look) (model : Model) (id other : NodeId)
    (occurs : Occurs) :
    look ((model.setOccurs id occurs).node other) = look (model.node other) :=
  keeps_changeNode look model id other fun node => enduring.occurs node occurs

theorem look_declareOccurs (enduring : Node.Enduring look) (model : Model) (id other : NodeId) :
    look ((model.declareOccurs id).state.node other) = look (model.node other) := by
  unfold declareOccurs
  dsimp only
  split
  next => rfl
  next => exact look_setOccurs enduring model id other _

theorem look_declareName (enduring : Node.Enduring look) (model : Model) (id other : NodeId)
    (kind : Symbols) :
    look ((model.declareName id kind).state.node other) = look (model.node other) := by
  unfold declareName
  dsimp only
  split
  next => rfl
  next =>
    split
    next => rfl
    next name _ =>
      exact keeps_changeNode look model id other fun node => enduring.name node _

theorem look_andThen {attempt : Attempt Model} {next : Model -> Attempt Model} {model : Model}
    {other : NodeId} (first : look (attempt.state.node other) = look (model.node other))
    (second : ∀ between : Model,
      look ((next between).state.node other) = look (between.node other)) :
    look ((attempt.andThen next).state.node other) = look (model.node other) := by
  unfold Attempt.andThen
  split
  · exact (second _).trans first
  · exact first

theorem look_declareType (enduring : Node.Enduring look) (model : Model) (id other : NodeId) :
    look ((model.declareType id).state.node other) = look (model.node other) := by
  unfold declareType
  split
  next => exact look_declareName enduring model id other .types
  next =>
    unfold declareNamelessType
    dsimp only [Attempt.done]
    split
    next union _ =>
      exact keeps_changeNode look model union other fun node => enduring.memberTypes node _
    next => split <;> rfl

theorem look_declareEnumeration (enduring : Node.Enduring look) (model : Model)
    (id other : NodeId) :
    look ((model.declareEnumeration id).state.node other) = look (model.node other) := by
  unfold declareEnumeration
  split
  next => rfl
  next value _ =>
    split
    next owner _ =>
      exact keeps_changeNode look model owner other fun node => enduring.enumeration node _
    next => rfl

theorem look_markWildcard (model : Model) (id other : NodeId) {mark : Node -> Node}
    (keeps : ∀ node, look (mark node) = look node) :
    look ((model.markWildcard id mark).node other) = look (model.node other) := by
  unfold markWildcard
  split
  next owner _ => exact keeps_changeNode look model owner other keeps
  next => rfl

theorem look_declare (enduring : Node.Enduring look) (model : Model) (id other : NodeId)
    (content : (model.node id).kind = .any ->
      ∀ node : Node, look { node with anyContent := true } = look node)
    (attributes : (model.node id).kind = .anyAttribute ->
      ∀ node : Node, look { node with anyAttribute := true } = look node) :
    look ((model.declare id).state.node other) = look (model.node other) := by
  have bounded := look_declareOccurs enduring model id other
  have named (kind : Symbols) (between : Model) :=
    look_declareName enduring between id other kind
  unfold declare
  cases kind : (model.node id).kind with
  | element => exact look_andThen bounded (named .elements)
  | attributeTag => exact (named .attributes _).trans (look_setOccurs enduring model id other _)
  | complexType => exact look_declareType enduring model id other
  | simpleType => exact look_declareType enduring model id other
  | group => exact look_andThen bounded (named .groups)
  | attributeGroup => exact named .attributeGroups model
  | sequence => exact bounded
  | choice => exact bounded
  | all => exact bounded
  | any => exact look_andThen bounded fun between => look_markWildcard between id other (content kind)
  | anyAttribute => exact look_markWildcard model id other (attributes kind)
  | enumeration => exact look_declareEnumeration enduring model id other
  | _ => rfl

end Model

theorem Draft.look_declare (enduring : Node.Enduring look) (draft : Draft) (id other : NodeId)
    (content : ∀ node : Node, look { node with anyContent := true } = look node)
    (attributes : ∀ node : Node, look { node with anyAttribute := true } = look node) :
    look ((draft.declare id).state.model.node other) = look (draft.model.node other) := by
  have tells := draft.tells_declare id
  generalize (draft.declare id).state = new at tells
  cases tells with
  | source kind unsourced =>
    have nodes := (draft.model.stores_registerRoot draft.document).1
    rw [Model.declareSource_eq]
    dsimp only
    refine (Model.keeps_changeNode look _ id other fun node => enduring.source node _ _).trans ?_
    exact congrArg look (node_congr nodes other)
  | second => rfl
  | request => exact congrArg look (node_congr (registerImport_sources draft id).1 other)
  | other =>
    exact Model.look_declare enduring draft.model id other (fun _ => content) fun _ => attributes

end

theorem Draft.account_declare (draft : Draft) (id other : NodeId) :
    ((draft.declare id).state.model.node other).account = (draft.model.node other).account :=
  draft.look_declare Node.enduring_account id other (fun _ => rfl) fun _ => rfl

namespace Reading

open Markup (Event Item)

/-- What an event comes to if it does not stop the reading. -/
inductive Turns (reading : Reading) : Event -> Reading -> Prop where
  | node {name : String} {attributes : List (String × String)} {next : Reading} {kind : Kind}
      {frame outer : Frame} {rest : List Frame} (around : reading.frames = outer :: rest)
      (child : ∃ name, (outer.place.bind fun place => place.child name) = some (.tag kind))
      (pushed : next.frames = frame :: reading.frames)
      (node : frame.node = some reading.model.nextNode)
      (capture : frame.capture =
        if kind = .documentation then some reading.model.nextNode else outer.capture)
      (size : next.model.nodes.size = reading.model.nodes.size + 1)
      (opened : (next.model.node reading.model.nextNode).account =
        (kind, reading.nearestNode, "", []))
      (others : ∀ id, id ≠ reading.model.nextNode ->
        (next.model.node id).account = (reading.model.node id).account) :
      Turns reading (.opens name attributes) next
  | plain {name : String} {attributes : List (String × String)} {next : Reading}
      {frame outer : Frame} {rest : List Frame} (around : reading.frames = outer :: rest)
      (pushed : next.frames = frame :: reading.frames) (node : frame.node = none)
      (capture : frame.capture = outer.capture)
      (nodes : next.model.nodes = reading.model.nodes) : Turns reading (.opens name attributes) next
  | text (content : String) : Turns reading (.text content) (reading.addText content)
  | closes {name : String} {frame outer : Frame} {rest : List Frame} (id : NodeId)
      (frames : reading.frames = frame :: outer :: rest) (node : frame.node = some id) :
      Turns reading (.closes name) ⟨closeNode reading.draft id, outer :: rest⟩
  | passes {name : String} {frame outer : Frame} {rest : List Frame}
      (frames : reading.frames = frame :: outer :: rest) (node : frame.node = none) :
      Turns reading (.closes name) ⟨reading.draft, outer :: rest⟩

variable {limits : Limits} {reading next : Reading}

theorem account_withTag (draft : Draft) (outer : ScopeId) (node : Node) (id : NodeId) :
    (((draft.withTag outer node).declare draft.model.nextNode).state.model.node id).account =
      if id = draft.model.nextNode then node.account else (draft.model.node id).account := by
  rw [Draft.account_declare, Draft.node_withTag]
  split <;> rfl

theorem size_withTag (draft : Draft) (outer : ScopeId) (node : Node) :
    ((draft.withTag outer node).declare draft.model.nextNode).state.model.nodes.size =
      draft.model.nodes.size + 1 := by
  have opened := (Draft.tells_declare (draft.withTag outer node) draft.model.nextNode).opened
  exact opened.size.trans (Model.size_addNode ..)

theorem turns_openNode (line : Nat) {name : String} {attributes : List (String × String)}
    {outer : Frame} {rest : List Frame} (around : reading.frames = outer :: rest) {kind : Kind}
    (child : ∃ name, (outer.place.bind fun place => place.child name) = some (.tag kind))
    (going : ((reading.rooted attributes).openNode line attributes outer kind).failure = none) :
    reading.Turns (.opens name attributes)
      ((reading.rooted attributes).openNode line attributes outer kind).state := by
  let draft := (reading.rooted attributes).draft
  unfold openNode at going ⊢
  dsimp only at going ⊢
  split at going
  next => cases going
  next =>
    refine .node around child rfl rfl rfl (size_withTag draft ..) ?_ fun id apart => ?_
    · exact (account_withTag draft outer.scope _ _).trans (if_pos rfl)
    · exact (account_withTag draft outer.scope _ id).trans (if_neg apart)

/-- An event that does not stop the reading is no fault, and is one of these. -/
theorem turns_step {item : Item} (going : (reading.step limits item).failure = none) :
    ∃ event, item.content = .ok event ∧ reading.Turns event (reading.step limits item).state := by
  have outcome := reading.outcome_step limits item
  generalize reading.step limits item = attempt at outcome going ⊢
  cases outcome with
  | stopped => cases going
  | misplaced => cases going
  | node opens around child => exact ⟨_, opens, turns_openNode _ around ⟨_, child⟩ going⟩
  | plain name skipped opens around free => exact ⟨_, opens, .plain around rfl rfl rfl rfl⟩
  | text takes => exact ⟨_, takes, .text _⟩
  | closes closing frames node => exact ⟨_, closing, .closes _ frames node⟩
  | passes closing frames node => exact ⟨_, closing, .passes frames node⟩

end Reading

end XmlSchema

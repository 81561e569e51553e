import XmlSchema.Proofs.Reading.Twins

set_option autoImplicit false

namespace XmlSchema

variable {first : Nat} {here there : Option String}

structure Frame.Twins (frame twin : Frame) : Prop where
  place : twin.place = frame.place
  node : twin.node = frame.node
  capture : twin.capture = frame.capture

namespace Reading

def tagNode (reading : Reading) (line : Nat) (attributes : List (String × String)) (kind : Kind) :
    Node :=
  { Node.fresh kind reading.model.scopes.next with
    attributes := .keep kind attributes
    source := reading.draft.document.source
    line := line
    parent := reading.nearestNode }

def opened (reading : Reading) (line : Nat) (outer : Frame) (kind : Kind) (id : NodeId)
    (declared : Attempt Draft) : Attempt Reading :=
  match declared.failure with
  | some failure =>
      .stopped ⟨declared.state, reading.frames⟩ (failure.located (reading.position line))
  | none =>
      .done ⟨declared.state, ⟨some (.tag kind), (declared.state.model.node id).scope, some id,
        if kind = .documentation then some id else outer.capture⟩ :: reading.frames⟩

theorem openNode_eq (reading : Reading) (line : Nat) (attributes : List (String × String))
    (outer : Frame) (kind : Kind) :
    reading.openNode line attributes outer kind =
      reading.opened line outer kind reading.model.nextNode
        ((reading.draft.withTag outer.scope (reading.tagNode line attributes kind)).declare
          reading.model.nextNode) := rfl

structure Twins (first : Nat) (here there : Option String) (reading twin : Reading) : Prop where
  draft : reading.draft.Twins first here there twin.draft
  frames : List.Forall₂ Frame.Twins reading.frames twin.frames

namespace Twins

open Attempt (Agree)

variable {reading twin : Reading}

theorem position (twins : reading.Twins first here there twin) (line : Nat) :
    twin.position line = reading.position line := by
  unfold Reading.position
  rw [twins.draft.document.url]

theorem nearestNode (twins : reading.Twins first here there twin) :
    twin.nearestNode = reading.nearestNode := by
  have frames := twins.frames
  unfold Reading.nearestNode
  generalize reading.frames = frames at frames ⊢
  generalize twin.frames = frames' at frames ⊢
  induction frames with
  | nil => rfl
  | cons frame _ ih => rw [List.findSome?_cons, List.findSome?_cons, frame.node, ih]

theorem permits (twins : reading.Twins first here there twin) (limits : Limits)
    (attributes : List (String × String)) :
    Reading.permits limits twin attributes = Reading.permits limits reading attributes := by
  unfold Reading.permits
  rw [twins.frames.length_eq]

theorem withRoot (twins : reading.Twins first here there twin)
    {attributes : List (String × String)}
    (silent : reading.draft.document.prefixes = none ->
      Document.declaresTarget attributes = false) :
    (⟨⟨reading.model, reading.draft.document.withRoot attributes⟩, reading.frames⟩ :
      Reading).Twins first here there
        ⟨⟨twin.model, twin.draft.document.withRoot attributes⟩, twin.frames⟩ := by
  refine ⟨twins.draft.next twins.draft.model ⟨rfl, rfl⟩ ?_ (source_withRoot ..), twins.frames⟩
  exact twins.draft.document.withRoot silent

theorem opened (twins : reading.Twins first here there twin) {declared declared' : Attempt Draft}
    (both : Agree (Draft.Twins first here there) declared declared') (line : Nat)
    {outer outer' : Frame} (around : outer.Twins outer') (kind : Kind) (id : NodeId) :
    Agree (Twins first here there) (reading.opened line outer kind id declared)
      (twin.opened line outer' kind id declared') := by
  unfold Reading.opened
  rw [both.failure, twins.position, around.capture]
  split
  next => exact ⟨rfl, both.state, twins.frames⟩
  next => exact .done ⟨both.state, .cons ⟨rfl, rfl, rfl⟩ twins.frames⟩

theorem openNode (twins : reading.Twins first here there twin)
    (read : reading.draft.document.prefixes ≠ none) (line : Nat)
    (attributes : List (String × String)) {outer outer' : Frame} (around : outer.Twins outer')
    {kind : Kind} (outermost : reading.draft.document.source = none -> kind = .schema) :
    Agree (Twins first here there) (reading.openNode line attributes outer kind)
      (twin.openNode line attributes outer' kind) := by
  have next : twin.model.nextNode = reading.model.nextNode :=
    congrArg NodeId.mk twins.draft.model.size
  have node : (reading.tagNode line attributes kind).Twins here there
      (twin.tagNode line attributes kind) := by
    unfold Reading.tagNode
    rw [twins.nearestNode, twins.draft.document.source]
    exact ⟨rfl, none, rfl, rfl⟩
  have added : (reading.draft.withTag outer.scope (reading.tagNode line attributes kind)).Twins
      first here there (twin.draft.withTag outer'.scope (twin.tagNode line attributes kind)) :=
    twins.draft.next ((twins.draft.model.createChild ..).addNode node) ⟨rfl, rfl⟩
      twins.draft.document rfl
  have self : (reading.draft.withTag outer.scope
      (reading.tagNode line attributes kind)).model.node reading.model.nextNode =
        reading.tagNode line attributes kind :=
    (Draft.node_withTag ..).trans (if_pos rfl)
  rw [openNode_eq, openNode_eq, next]
  refine twins.opened (added.declare twins.draft.model.grown read ?_ fun unsourced => ?_) line
    around kind _
  · exact congrArg Node.source self
  · exact (congrArg Node.kind self).trans (outermost unsourced)

theorem openPlain (twins : reading.Twins first here there twin) (line : Nat) {name name' : QName}
    (called : name'.localName = name.localName) {outer outer' : Frame}
    (around : outer.Twins outer') (place : Option Place) :
    (reading.openPlain line name outer place).Twins first here there
      (twin.openPlain line name' outer' place) := by
  have frame : Frame.Twins ⟨place, reading.model.scopes.next, none, outer.capture⟩
      ⟨place, twin.model.scopes.next, none, outer'.capture⟩ := ⟨rfl, rfl, around.capture⟩
  have inner := twins.draft.model.createChild outer.scope outer'.scope
  unfold Reading.openPlain
  dsimp only
  rw [twins.position, around.place]
  refine ⟨?_, .cons frame twins.frames⟩
  split
  next =>
    refine twins.draft.next ?_ ?_ twins.draft.document rfl
    · refine { inner with skipped := ?_ }
      have skipped := twins.draft.model.skipped
      simp only [Array.map_push, called]
      exact congrArg (fun skipped => Array.push skipped (reading.position line, name.localName))
        skipped
    · exact ⟨rfl, rfl⟩
  next => exact twins.draft.next inner ⟨rfl, rfl⟩ twins.draft.document rfl

theorem openTag (twins : reading.Twins first here there twin) (placed : reading.Placed)
    (limits : Limits) (line : Nat) (written : String) {attributes : List (String × String)}
    (silent : reading.draft.document.prefixes = none ->
      Reading.permits limits reading attributes = .ok () ->
        Document.declaresTarget attributes = false) :
    Agree (Twins first here there) (reading.openTag limits line written attributes)
      (twin.openTag limits line written attributes) := by
  unfold Reading.openTag
  rw [twins.permits]
  split
  next => exact .stopped twins _
  next permitted =>
    have rooted := twins.withRoot fun unread => silent unread permitted
    -- as long as there is no source only the schema tag can open
    have outermost {outer : Frame} {rest : List Frame} {kind : Kind} {name : QName}
        (frames : reading.frames = outer :: rest)
        (child : (outer.place.bind fun place => place.child name) = some (.tag kind))
        (unsourced : (reading.draft.document.withRoot attributes).source = none) :
        kind = .schema := by
      refine Decidable.byContradiction fun plain => ?_
      obtain ⟨-, -, -, around, there⟩ := placed.opens frames child plain
      exact placed.outside ((source_withRoot ..).symm.trans unsourced) outer
        (frames ▸ List.mem_cons_self) around there
    have read := Document.prefixes_withRoot reading.draft.document attributes
    have called := rooted.draft.document.tagName written
    have frames := rooted.frames
    dsimp only at called frames ⊢
    rw [rooted.position]
    generalize (((reading.draft.document.withRoot attributes).prefixes.getD .empty).tagName
      written) = mine at called ⊢
    generalize (((twin.draft.document.withRoot attributes).prefixes.getD .empty).tagName
      written) = other at called ⊢
    match mine, other, called with
    | .error fault, .error _, rfl => exact .stopped rooted _
    | .ok name, .ok name', called =>
      have called : name'.localName = name.localName := Except.ok.inj called
      dsimp only
      generalize mine : reading.frames = open_ at frames rooted ⊢
      generalize twin.frames = open_' at frames rooted ⊢
      cases frames with
      | nil => exact .stopped rooted _
      | @cons outer outer' rest rest' around =>
        -- the place of a child depends on its local name alone, which is the same in both runs
        have place : (outer'.place.bind fun place => place.child name') =
            outer.place.bind fun place => place.child name := by
          rw [around.place]
          simp only [Place.child_eq, called]
        dsimp only
        rw [place]
        cases child : outer.place.bind fun place => place.child name with
        | none => exact .done (rooted.openPlain line called around _)
        | some place =>
          cases place with
          | document => exact .done (rooted.openPlain line called around _)
          | anything => exact .done (rooted.openPlain line called around _)
          | tag kind =>
            exact rooted.openNode read line attributes around
              (outermost mine child)

theorem closeTag (twins : reading.Twins first here there twin) (line : Nat) :
    Agree (Twins first here there) (reading.closeTag line) (twin.closeTag line) := by
  have stopped := Agree.stopped twins (.parse .closingTag (some (reading.position line)))
  have frames := twins.frames
  unfold Reading.closeTag
  rw [twins.position]
  generalize reading.frames = open_ at frames ⊢
  generalize twin.frames = open_' at frames ⊢
  cases frames with
  | nil => exact stopped
  | cons frame rest =>
    cases rest with
    | nil => exact stopped
    | cons outer rest =>
      dsimp only
      rw [frame.node]
      split
      next id _ => exact .done ⟨twins.draft.closeNode id, .cons outer rest⟩
      next => exact .done ⟨twins.draft, .cons outer rest⟩

theorem addText (twins : reading.Twins first here there twin) (content : String) :
    (reading.addText content).Twins first here there (twin.addText content) := by
  have frames := twins.frames
  have capture :
      twin.frames.head?.bind Frame.capture = reading.frames.head?.bind Frame.capture := by
    generalize reading.frames = frames at frames ⊢
    generalize twin.frames = frames' at frames ⊢
    cases frames with
    | nil => rfl
    | cons frame => exact frame.capture
  unfold Reading.addText
  rw [capture]
  split
  next id _ =>
    have changed := twins.draft.model.changeNode id
      (f := fun node => node.withText content) fun _ _ _ => rfl
    exact ⟨twins.draft.next changed ⟨rfl, rfl⟩ twins.draft.document rfl, frames⟩
  next => exact twins

theorem step (twins : reading.Twins first here there twin) (placed : reading.Placed)
    (limits : Limits) (item : Markup.Item)
    (silent : reading.draft.document.prefixes = none -> ∀ name attributes,
      item.content = .ok (.opens name attributes) ->
        Reading.permits limits reading attributes = .ok () ->
          Document.declaresTarget attributes = false) :
    Agree (Twins first here there) (reading.step limits item) (twin.step limits item) := by
  unfold Reading.step
  split
  next => exact .stopped twins _
  next name attributes content =>
    exact twins.openTag placed limits item.line name fun unread =>
      silent unread name attributes content
  next => exact .done (twins.addText _)
  next => exact twins.closeTag item.line

theorem steps_of_read (twins : reading.Twins first here there twin) (placed : reading.Placed)
    (read : reading.draft.document.prefixes ≠ none) (limits : Limits) (items : List Markup.Item) :
    Agree (Twins first here there) (reading.steps limits items) (twin.steps limits items) := by
  induction items generalizing reading twin with
  | nil => exact .done twins
  | cons item rest ih =>
    have one := twins.step placed limits item fun unread => absurd unread read
    unfold Reading.steps
    dsimp only
    rw [one.failure]
    split
    next going =>
      refine ih one.state ((placed.step limits item).placed going) ?_
      rw [Document.prefixes_of_header (header_step_of_read read limits item)]
      exact read
    next => exact one

theorem steps (twins : reading.Twins first here there twin) (placed : reading.Placed)
    (unread : reading.draft.document.prefixes = none) (bottom : reading.frames.length = 1)
    (limits : Limits) {items : List Markup.Item}
    (silent : ∀ attributes, rootOf limits items = some attributes ->
      Document.declaresTarget attributes = false) :
    Agree (Twins first here there) (reading.steps limits items) (twin.steps limits items) := by
  induction items generalizing reading twin with
  | nil => exact .done twins
  | cons item rest ih =>
    have root (name : String) (attributes : List (String × String))
        (content : item.content = .ok (.opens name attributes))
        (permitted : Reading.permits limits reading attributes = .ok ()) :
        rootOf limits (item :: rest) = some attributes := by
      unfold Reading.permits at permitted
      rw [bottom] at permitted
      simp only [rootOf, content]
      split at permitted
      next => cases permitted
      next deep => rw [deep, permitted]
    have one := twins.step placed limits item fun _ name attributes content permitted =>
      silent attributes (root name attributes content permitted)
    have stays := (placed.step limits item).placed
    unfold Reading.steps
    dsimp only
    rw [one.failure]
    split
    next going =>
      by_cases still : (reading.step limits item).state.draft.document.prefixes = none
      next =>
        -- only text can stand before the root tag
        cases content : item.content with
        | error fault => simp [Reading.step, content, Attempt.stopped] at going
        | ok event =>
          cases event with
          | text written =>
            have step : reading.step limits item = .done (reading.addText written) := by
              simp only [Reading.step, content]
            refine ih one.state (stays going) still ?_ fun attributes later => silent attributes ?_
            · rw [step]
              exact (congrArg List.length (document_addText reading written).2).trans bottom
            · simpa only [rootOf, content] using later
          | closes name =>
            simp only [Reading.step, content, Reading.closeTag] at going
            split at going
            next frames =>
              rw [frames] at bottom
              simp at bottom
            next => cases going
          | opens name attributes =>
            simp only [Reading.step, content] at going still
            cases permitted : Reading.permits limits reading attributes with
            | error exceeded =>
              unfold Reading.openTag at going
              rw [permitted] at going
              cases going
            | ok =>
              have opened := @header_openTag limits reading item.line name attributes permitted
              rw [Document.prefixes_of_header opened] at still
              exact absurd still (Document.prefixes_withRoot reading.draft.document attributes)
      next => exact one.state.steps_of_read (stays going) still limits rest
    next => exact one

theorem finish (twins : reading.Twins first here there twin) (line : Nat) :
    Agree (Twins first here there) (reading.finish line) (twin.finish line) := by
  unfold Reading.finish
  rw [← twins.frames.length_eq, twins.draft.document.source, twins.position, twins.position]
  split
  next => exact .stopped twins _
  next =>
    split
    next => exact .stopped twins _
    next => exact .done twins

end Twins

end Reading

namespace Draft

/-- The first pass is uniform in the adopted namespace. -/
theorem read_adopted (limits : Limits) (model : Model) (url requested : Url) (bytes : List UInt8)
    (one other : Option String)
    (silent : ∀ attributes, Reading.rootOf limits (Markup.scan bytes).items = some attributes ->
      Document.declaresTarget attributes = false) :
    Attempt.Agree (Twins model.nodes.size (one.filter (· ≠ "")) (other.filter (· ≠ "")))
      (Draft.read limits ⟨model, .fresh url requested one⟩ bytes)
      (Draft.read limits ⟨model, .fresh url requested other⟩ bytes) := by
  have document : (Document.fresh url requested one).Twins (one.filter (· ≠ ""))
      (other.filter (· ≠ "")) (.fresh url requested other) :=
    ⟨rfl, rfl, rfl, rfl, rfl, rfl, ⟨rfl, rfl⟩, none, rfl, rfl⟩
  have start : (Reading.start model (.fresh url requested one)).Twins model.nodes.size
      (one.filter (· ≠ "")) (other.filter (· ≠ ""))
      (.start model (.fresh url requested other)) := by
    refine ⟨⟨⟨rfl, Nat.le_refl _, fun _ _ => rfl, fun id above => ?_, rfl, rfl, rfl⟩, document,
      nofun⟩, .cons ⟨rfl, rfl, rfl⟩ .nil⟩
    -- nothing has been read yet
    change Node.Twins _ _ (model.node id) (model.node id)
    rw [Model.node_of_size_le model above]
    exact ⟨rfl, none, rfl, rfl⟩
  have steps := start.steps (Reading.placed_start ..) rfl rfl limits silent
  unfold Draft.read
  exact (steps.andThen fun ended => ended.finish _).map fun ended => ended.draft

def adoptingText : String :=
  "<schema xmlns='http://www.w3.org/2001/XMLSchema'><element name='e' type='string'/></schema>"

set_option maxRecDepth 100000 in
theorem read_adopted_element :
    let bytes := adoptingText.toUTF8.toList
    let read := fun adopted => Draft.read .standard ⟨.empty, .fresh default default adopted⟩ bytes
    Attempt.Agree (Twins 46 (some "urn:a") none) (read (some "urn:a")) (read none) ∧
      (read (some "urn:a")).failure = none ∧
      ((read (some "urn:a")).state.model.node ⟨47⟩).name = some ⟨some "urn:a", "e"⟩ ∧
      ((read none).state.model.node ⟨47⟩).name = some ⟨none, "e"⟩ := by
  have silent : ((Reading.rootOf .standard (Markup.scan adoptingText.toUTF8.toList).items).all
      fun attributes => !Document.declaresTarget attributes) = true := by decide +kernel
  refine ⟨?_, by decide +kernel, by decide +kernel, by decide +kernel⟩
  refine read_adopted .standard .empty default default adoptingText.toUTF8.toList (some "urn:a")
    none fun attributes root => ?_
  rw [root] at silent
  simpa using silent

end Draft

end XmlSchema

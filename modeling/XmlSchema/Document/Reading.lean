import XmlSchema.Document.Declaration

set_option autoImplicit false

namespace XmlSchema

structure Frame where
  /-- None inside a skipped tag. -/
  place : Option Place
  scope : ScopeId
  node : Option NodeId
  /-- The node that takes the text that stands here. -/
  capture : Option NodeId
  deriving DecidableEq, Repr

/-- A document that is read up to some event, with the open tags' frames, innermost first, and the
frame around the root tag last. -/
structure Reading where
  draft : Draft
  frames : List Frame

namespace Reading

def start (model : Model) (document : Document) : Reading :=
  ⟨⟨model, document⟩, [⟨some .document, Builtin.scope, none, none⟩]⟩

def model (reading : Reading) : Model := reading.draft.model

def withModel (reading : Reading) (model : Model) : Reading :=
  { reading with draft := ⟨model, reading.draft.document⟩ }

def position (reading : Reading) (line : Nat) : Position :=
  ⟨reading.draft.document.url.text, line⟩

def push (reading : Reading) (frame : Frame) : Reading :=
  { reading with frames := frame :: reading.frames }

def nearestNode (reading : Reading) : Option NodeId := reading.frames.findSome? Frame.node

def permits (limits : Limits) (reading : Reading) (attributes : List (String × String)) :
    Except Limits.Exceeded Unit :=
  match limits.check .depth reading.frames.length with
  | .error exceeded => .error exceeded
  | .ok () => limits.check .attributes attributes.length

def openNode (reading : Reading) (line : Nat) (attributes : List (String × String))
    (outer : Frame) (kind : Kind) : Attempt Reading :=
  let model := reading.model
  let scope := model.scopes.next
  let id := model.nextNode
  let node := { Node.fresh kind scope with
    attributes := .keep kind attributes
    source := reading.draft.document.source
    line := line
    parent := reading.nearestNode }
  let model := { model with scopes := model.scopes.createChild outer.scope }
  let declared := (Draft.mk (model.addNode node) reading.draft.document).declare id
  match declared.failure with
  | some failure =>
      .stopped ⟨declared.state, reading.frames⟩ (failure.located (reading.position line))
  | none =>
      let capture := if kind = .documentation then some id else outer.capture
      .done ⟨declared.state,
        ⟨some (.tag kind), (declared.state.model.node id).scope, some id, capture⟩
          :: reading.frames⟩

/-- Opens a tag that gets no node: one in free content, or one that is skipped. Of skipped tags
inside each other only the outermost is noted. -/
def openPlain (reading : Reading) (line : Nat) (name : QName) (outer : Frame)
    (place : Option Place) : Reading :=
  let model := reading.model
  let scope := model.scopes.next
  let model := { model with scopes := model.scopes.createChild outer.scope }
  let model :=
    if place.isNone && outer.place.isSome then
      { model with skipped := model.skipped.push ⟨reading.position line, name⟩ }
    else model
  (reading.withModel model).push ⟨place, scope, none, outer.capture⟩

def openTag (limits : Limits) (reading : Reading) (line : Nat) (written : String)
    (attributes : List (String × String)) : Attempt Reading :=
  match permits limits reading attributes with
  | .error exceeded => .stopped reading (.limit exceeded)
  | .ok () =>
      let document := reading.draft.document.withRoot attributes
      let reading : Reading := ⟨⟨reading.model, document⟩, reading.frames⟩
      match (document.prefixes.getD .empty).tagName written with
      | .error fault => .stopped reading ((Failure.name fault).located (reading.position line))
      | .ok name =>
          match reading.frames with
          | [] => .stopped reading (.parse .afterRoot (some (reading.position line)))
          | outer :: _ =>
              let place := outer.place.bind fun place => place.child name
              match place.bind Place.kind? with
              | some kind => reading.openNode line attributes outer kind
              | none => .done (reading.openPlain line name outer place)

def document (model : Model) (id : NodeId) : Model :=
  let text := Text.trim (model.node id).text
  if (model.node id).kind = .documentation && !text.isEmpty then
    match model.enclosing id Kind.isDocumented with
    | some owner =>
        model.changeNode owner fun node =>
          { node with documentation := node.documentation ++ [text] }
    | none => model
  else model

def closeNode (draft : Draft) (id : NodeId) : Draft :=
  let model := document draft.model id
  if (model.node id).kind.isDeferred then
    let task : TaskId := ⟨model.queue.size⟩
    ⟨model.defer id, { draft.document with tasks := draft.document.tasks.push task }⟩
  else ⟨model.changeNode id fun node => { node with isResolved := true }, draft.document⟩

def closeTag (reading : Reading) (line : Nat) : Attempt Reading :=
  match reading.frames with
  | frame :: outer :: rest =>
      match frame.node with
      | some id => .done ⟨closeNode reading.draft id, outer :: rest⟩
      | none => .done ⟨reading.draft, outer :: rest⟩
  | _ => .stopped reading (.parse .closingTag (some (reading.position line)))

def addText (reading : Reading) (content : String) : Reading :=
  match reading.frames.head?.bind Frame.capture with
  | some id => reading.withModel (reading.model.changeNode id fun node => node.withText content)
  | none => reading

def step (limits : Limits) (reading : Reading) (item : Markup.Item) : Attempt Reading :=
  match item.content with
  | .error fault => .stopped reading (.markup fault item.line)
  | .ok (.opens name attributes) => reading.openTag limits item.line name attributes
  | .ok (.text content) => .done (reading.addText content)
  | .ok (.closes _) => reading.closeTag item.line

def steps (limits : Limits) (reading : Reading) : List Markup.Item -> Attempt Reading
  | [] => .done reading
  | item :: rest =>
      let attempt := reading.step limits item
      match attempt.failure with
      | none => attempt.state.steps limits rest
      | some _ => attempt

def finish (line : Nat) (reading : Reading) : Attempt Reading :=
  if reading.frames.length ≠ 1 then
    .stopped reading (.parse .endOfDocument (some (reading.position line)))
  else if reading.draft.document.source.isNone then
    .stopped reading (.parse .notSchema (some (reading.position 1)))
  else .done reading

end Reading

namespace Draft

def read (limits : Limits) (draft : Draft) (bytes : List UInt8) : Attempt Draft :=
  let scan := Markup.scan bytes
  let reading := (Reading.start draft.model draft.document).steps limits scan.items
  (reading.andThen (Reading.finish scan.line)).map Reading.draft

end Draft

end XmlSchema

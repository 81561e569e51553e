import XmlSchema.Proofs.Markup.Nesting
import XmlSchema.Proofs.Reading.Skipping

set_option autoImplicit false

namespace XmlSchema

namespace Failure

def IsLimit : Failure -> Prop
  | .limit _ => True
  | _ => False

/-- A tag closed or opened where none can. -/
def IsStray : Failure -> Prop
  | .parse .closingTag _ => True
  | .parse .afterRoot _ => True
  | _ => False

def IsStated (failure : Failure) : Prop := ¬ failure.IsLimit ∧ ¬ failure.IsStray

theorem IsStated.located {failure : Failure} (stated : failure.IsStated) (position : Position) :
    (failure.located position).IsStated := by
  unfold Failure.located
  split
  next defect =>
    refine ⟨id, fun stray => stated.2 ?_⟩
    cases defect <;> first | exact trivial | exact stray
  next => exact ⟨id, id⟩
  next => exact stated

theorem isStated_of_parse {defect : Defect} {position : Option Position}
    (closing : defect ≠ .closingTag) (after : defect ≠ .afterRoot) :
    (Failure.parse defect position).IsStated := by
  refine ⟨id, fun stray => ?_⟩
  cases defect <;> first | exact closing rfl | exact after rfl | exact stray

end Failure

namespace Attempt

variable {σ τ : Type}

def Stated (attempt : Attempt σ) : Prop :=
  ∀ failure, attempt.failure = some failure -> failure.IsStated

theorem stated_done (state : σ) : (Attempt.done state).Stated := nofun

theorem stated_stopped {state : σ} {failure : Failure} (stated : failure.IsStated) :
    (Attempt.stopped state failure).Stated := by
  intro other same
  cases same
  exact stated

theorem Stated.andThen {attempt : Attempt σ} (stated : attempt.Stated) {next : σ -> Attempt σ}
    (later : ∀ state, (next state).Stated) : (attempt.andThen next).Stated := by
  unfold Attempt.andThen
  split
  next => exact later _
  next => exact stated

theorem Stated.map {attempt : Attempt σ} (stated : attempt.Stated) (f : σ -> τ) :
    (attempt.map f).Stated := stated

end Attempt

namespace Model

open Attempt

theorem stated_declareName (model : Model) (id : NodeId) (kind : Symbols) :
    (model.declareName id kind).Stated := by
  unfold declareName
  dsimp only
  split
  next => exact stated_done _
  next =>
    split
    next => exact stated_stopped ⟨nofun, nofun⟩
    next => exact stated_done _

theorem stated_declareOccurs (model : Model) (id : NodeId) : (model.declareOccurs id).Stated := by
  unfold declareOccurs
  dsimp only
  split
  next => exact stated_stopped (Failure.isStated_of_parse nofun nofun)
  next => exact stated_done _

theorem stated_declareType (model : Model) (id : NodeId) : (model.declareType id).Stated := by
  unfold declareType
  split
  next => exact stated_declareName model id .types
  next => exact stated_done _

theorem stated_declareEnumeration (model : Model) (id : NodeId) :
    (model.declareEnumeration id).Stated := by
  unfold declareEnumeration
  split
  next => exact stated_stopped (Failure.isStated_of_parse nofun nofun)
  next => split <;> exact stated_done _

theorem stated_declare (model : Model) (id : NodeId) : (model.declare id).Stated := by
  have named (kind : Symbols) (model : Model) := stated_declareName model id kind
  have bounded := stated_declareOccurs model id
  unfold declare
  split
  next => exact bounded.andThen (named .elements)
  next => exact named .attributes _
  next => exact stated_declareType model id
  next => exact stated_declareType model id
  next => exact bounded.andThen (named .groups)
  next => exact named .attributeGroups model
  next => exact bounded
  next => exact bounded
  next => exact bounded
  next => exact bounded.andThen fun _ => stated_done _
  next => exact stated_done _
  next => exact stated_declareEnumeration model id
  next => exact stated_done _

end Model

namespace Draft

open Attempt

theorem stated_declareSchema (draft : Draft) (id : NodeId) : (draft.declareSchema id).Stated := by
  unfold declareSchema
  split
  next => exact stated_stopped (Failure.isStated_of_parse nofun nofun)
  next => exact stated_done _

theorem stated_declareImport (draft : Draft) (id : NodeId) : (draft.declareImport id).Stated := by
  unfold declareImport
  dsimp only
  split
  next => exact stated_done _
  next =>
    split
    next => exact stated_stopped ⟨nofun, nofun⟩
    next => exact stated_done _

theorem stated_declare (draft : Draft) (id : NodeId) : (draft.declare id).Stated := by
  unfold declare
  split
  next => exact draft.stated_declareSchema id
  next => exact draft.stated_declareImport id
  next => exact draft.stated_declareImport id
  next => exact (draft.model.stated_declare id).map _

end Draft

namespace Markup.Event

def Fits (limits : Limits) (names : List String) (event : Event) : Prop :=
  ∀ name attributes, event = .opens name attributes ->
    names.length + 1 ≤ limits.depth ∧ attributes.length ≤ limits.attributes

def Within (limits : Limits) (names : List String) (events : List Event) : Prop :=
  ∀ before event after, events = before ++ event :: after ->
    ∀ around, openAfter names before = some around -> event.Fits limits around

variable {limits : Limits} {names : List String} {event : Event} {events : List Event}

theorem fits_text (content : String) : (text content).Fits limits names := by
  intro name attributes opens
  cases opens

theorem fits_closes (name : String) : (closes name).Fits limits names := by
  intro other attributes opens
  cases opens

theorem within_nil : Within limits names [] := by
  intro before event after split
  simp at split

theorem within_cons :
    Within limits names (event :: events) ↔
      event.Fits limits names ∧
        ∀ next, turn names event = some next -> Within limits next events := by
  constructor
  · intro within
    refine ⟨within [] event events rfl names rfl, fun next turned before other after split => ?_⟩
    intro around known
    refine within (event :: before) other after (congrArg (event :: ·) split) around ?_
    rw [openAfter_cons, turned, Option.bind_some, known]
  · rintro ⟨fits, within⟩ before other after split around known
    cases before with
    | nil =>
      obtain ⟨rfl, rfl⟩ := List.cons.inj split
      obtain rfl : names = around := by simpa using known
      exact fits
    | cons first before =>
      obtain ⟨rfl, split⟩ := List.cons.inj split
      obtain ⟨next, turned, known⟩ := Option.bind_eq_some_iff.mp
        ((openAfter_cons ..).symm.trans known)
      exact within next turned before other after (by simpa using split) around known

end Markup.Event

namespace Reading

open Markup (Event Item eventsBefore)

variable {limits : Limits} {reading : Reading}

theorem permits_cases (limits : Limits) (reading : Reading) (attributes : List (String × String)) :
    (∃ exceeded, permits limits reading attributes = .error exceeded ∧
      ¬ (reading.frames.length ≤ limits.depth ∧ attributes.length ≤ limits.attributes)) ∨
    permits limits reading attributes = .ok () ∧
      reading.frames.length ≤ limits.depth ∧ attributes.length ≤ limits.attributes := by
  by_cases deep : limits.depth < reading.frames.length
  · refine .inl ⟨⟨.depth, reading.frames.length, limits.depth⟩, ?_, by omega⟩
    simp [permits, Limits.check, Limits.maximum, deep]
  · by_cases wide : limits.attributes < attributes.length
    · refine .inl ⟨⟨.attributes, attributes.length, limits.attributes⟩, ?_, by omega⟩
      simp [permits, Limits.check, Limits.maximum, deep, wide]
    · exact .inr ⟨by simp [permits, Limits.check, Limits.maximum, deep, wide], by omega, by omega⟩

structure Follows (limits : Limits) (names next : List String) (event : Event)
    (attempt : Attempt Reading) : Prop where
  done : attempt.failure = none ->
    attempt.state.frames.length = next.length + 1 ∧ event.Fits limits names
  stray : ∀ failure, attempt.failure = some failure -> ¬ failure.IsStray
  limit : ∀ failure, attempt.failure = some failure -> failure.IsLimit ->
    ¬ event.Fits limits names

theorem follows_of_stated {names next : List String} {event : Event} {state : Reading}
    {failure : Failure} (stated : failure.IsStated) :
    Follows limits names next event (.stopped state failure) where
  done := nofun
  stray _ same := by
    cases same
    exact stated.2
  limit _ same isLimit := by
    cases same
    exact absurd isLimit stated.1

theorem follows_of_done {names next : List String} {event : Event} {state : Reading}
    (deep : state.frames.length = next.length + 1) (fits : event.Fits limits names) :
    Follows limits names next event (.done state) :=
  ⟨fun _ => ⟨deep, fits⟩, nofun, nofun⟩

theorem follows_openNode {line : Nat} {attributes : List (String × String)} {outer : Frame}
    {kind : Kind} {names next : List String} {event : Event}
    (deep : reading.frames.length + 1 = next.length + 1) (fits : event.Fits limits names) :
    Follows limits names next event (reading.openNode line attributes outer kind) := by
  unfold openNode
  dsimp only
  split
  next failure stopped =>
    exact follows_of_stated ((Draft.stated_declare _ _ _ stopped).located _)
  next => exact follows_of_done deep fits

theorem follows_openTag {names : List String} (deep : reading.frames.length = names.length + 1)
    (line : Nat) (written : String) (attributes : List (String × String)) :
    Follows limits names (written :: names) (.opens written attributes)
      (reading.openTag limits line written attributes) := by
  unfold openTag
  rcases permits_cases limits reading attributes with ⟨exceeded, refused, exceeds⟩ | ⟨allowed, bounds⟩
  · rw [refused]
    refine ⟨nofun, fun failure same => ?_, fun failure same _ fits => exceeds ?_⟩
    · cases same
      exact id
    · rw [deep]
      exact fits written attributes rfl
  · rw [allowed]
    have fits : (Event.opens written attributes).Fits limits names := by
      rintro _ _ ⟨⟩
      rwa [deep] at bounds
    dsimp only
    split
    -- the prefix of the tag is not bound
    next =>
      exact follows_of_stated (Failure.isStated_of_parse nofun nofun)
    next =>
      split
      next empty => simp [empty] at deep
      next outer rest frames =>
        have pushed : reading.frames.length + 1 = (written :: names).length + 1 :=
          congrArg (· + 1) deep
        split
        next => exact follows_openNode pushed fits
        next => exact follows_of_done pushed fits

theorem follows_closeTag {name : String} {outer : List String}
    (deep : reading.frames.length = (name :: outer).length + 1) (line : Nat) :
    Follows limits (name :: outer) outer (.closes name) (reading.closeTag line) := by
  have closed : (reading.closeTag line).failure = none ∧
      (reading.closeTag line).state.frames.length = outer.length + 1 := by
    unfold closeTag
    split
    next frame around rest frames =>
      have inner : (around :: rest).length = outer.length + 1 := by
        simpa [frames] using deep
      split <;> exact ⟨rfl, inner⟩
    next few =>
      -- two frames at least: that of the tag and the one around it
      obtain ⟨frame, around, rest, frames⟩ :
          ∃ frame around rest, reading.frames = frame :: around :: rest := by
        rcases frames : reading.frames with _ | ⟨frame, _ | ⟨around, rest⟩⟩
        · simp [frames] at deep
        · simp [frames] at deep
        · exact ⟨frame, around, rest, rfl⟩
      exact absurd frames (few frame around rest)
  refine ⟨fun _ => ⟨closed.2, Event.fits_closes name⟩, fun failure same => ?_,
    fun failure same => ?_⟩
  all_goals cases closed.1.symm.trans same

theorem follows_step {item : Item} {event : Event} (is : item.content = .ok event)
    {names next : List String} (turned : event.turn names = some next)
    (deep : reading.frames.length = names.length + 1) :
    Follows limits names next event (reading.step limits item) := by
  unfold step
  rw [is]
  cases event with
  | opens written attributes =>
    obtain rfl : written :: names = next := by simpa [Event.turn] using turned
    exact follows_openTag deep item.line written attributes
  | text content =>
    obtain rfl : names = next := by simpa [Event.turn] using turned
    have same := (reading.document_addText content).2
    exact follows_of_done ((congrArg List.length same).trans deep) (Event.fits_text content)
  | closes name =>
    simp only [Event.turn, Option.ite_none_right_eq_some, Option.some.injEq] at turned
    obtain ⟨innermost, rfl⟩ := turned
    cases names with
    | nil => simp at innermost
    | cons first outer =>
      obtain rfl : first = name := by simpa using innermost
      exact follows_closeTag deep item.line

structure Nests (limits : Limits) (names : List String) (contents : List (Except Markup.Fault Event))
    (attempt : Attempt Reading) : Prop where
  done : attempt.failure = none ->
    (∃ left, Event.openAfter names (eventsBefore contents) = some left ∧
      attempt.state.frames.length = left.length + 1) ∧
    contents = (eventsBefore contents).map .ok ∧
      Event.Within limits names (eventsBefore contents)
  stray : ∀ failure, attempt.failure = some failure -> ¬ failure.IsStray
  limit : ∀ failure, attempt.failure = some failure -> failure.IsLimit ->
    ¬ Event.Within limits names (eventsBefore contents)

theorem nests_steps {names : List String} (deep : reading.frames.length = names.length + 1)
    (items : List Item)
    (nested : Event.openAfter names (eventsBefore (items.map Item.content)) ≠ none) :
    Nests limits names (items.map Item.content) (reading.steps limits items) := by
  -- by induction on the items: each event leaves one more frame than tags are open after it
  induction items generalizing reading names with
  | nil =>
    refine ⟨fun _ => ⟨⟨names, rfl, deep⟩, rfl, Event.within_nil⟩, fun failure same => ?_,
      fun failure same => ?_⟩
    all_goals cases same
  | cons item rest ih =>
    cases is : item.content with
    | error fault =>
      have stopped : reading.step limits item = .stopped reading (.markup fault item.line) := by
        rw [step, is]
      rw [steps, stopped]
      refine ⟨fun going => ?_, fun failure same => ?_, fun failure same => ?_⟩
      · cases going
      · cases same
        exact id
      · cases same
        exact False.elim
    | ok event =>
      rw [List.map_cons, is] at nested ⊢
      rw [eventsBefore, Event.openAfter_cons] at nested
      obtain ⟨next, turned, nested⟩ : ∃ next, event.turn names = some next ∧
          Event.openAfter next (eventsBefore (rest.map Item.content)) ≠ none := by
        cases turned : event.turn names with
        | none => simp [turned] at nested
        | some next => exact ⟨next, rfl, by simpa [turned] using nested⟩
      have follows : Follows limits names next event (reading.step limits item) :=
        follows_step is turned deep
      rw [steps]
      split
      next proceeds =>
        obtain ⟨deeper, fits⟩ := follows.done proceeds
        have later := ih deeper nested
        refine ⟨fun going => ?_, later.stray, fun failure same isLimit within => ?_⟩
        · obtain ⟨⟨left, known, level⟩, whole, within⟩ := later.done going
          refine ⟨⟨left, by simp [eventsBefore, turned, known], level⟩, ?_, ?_⟩
          · rw [eventsBefore, List.map_cons, ← whole]
          · refine Event.within_cons.mpr ⟨fits, fun other same => ?_⟩
            obtain rfl : next = other := Option.some.inj (turned.symm.trans same)
            exact within
        · exact later.limit failure same isLimit ((Event.within_cons.mp within).2 next turned)
      next failure stopped =>
        refine ⟨fun going => ?_, follows.stray, fun other same isLimit within => ?_⟩
        · cases stopped.symm.trans going
        · exact follows.limit other same isLimit (Event.within_cons.mp within).1

theorem nests_start (limits : Limits) (model : Model) (document : Document) {items : List Item}
    {bytes : List UInt8} (front : items <+: (Markup.scan bytes).items) :
    Nests limits [] (items.map Item.content)
      ((start model document).steps limits items) := by
  obtain ⟨rest, whole⟩ := front
  have before := Markup.prefix_eventsBefore (items.map Item.content) (rest.map Item.content)
  rw [← List.map_append, whole] at before
  obtain ⟨left, known⟩ := Event.openAfter_of_front before (Markup.nested_scan bytes)
  exact nests_steps rfl items (by simp [known])

theorem stated_finish (line : Nat) (reading : Reading) : (reading.finish line).Stated := by
  unfold finish
  split
  next => exact Attempt.stated_stopped (Failure.isStated_of_parse nofun nofun)
  next =>
    split
    next => exact Attempt.stated_stopped (Failure.isStated_of_parse nofun nofun)
    next => exact Attempt.stated_done _

end Reading

namespace Draft

open Markup (Event Item eventsBefore)

theorem nests_read (limits : Limits) (draft : Draft) (bytes : List UInt8) :
    let contents := (Markup.scan bytes).items.map Item.content
    let attempt := draft.read limits bytes
    (attempt.failure = none -> contents = (eventsBefore contents).map .ok ∧
      Event.Within limits [] (eventsBefore contents)) ∧
    (∀ failure, attempt.failure = some failure -> ¬ failure.IsStray) ∧
    (∀ failure, attempt.failure = some failure -> failure.IsLimit ->
      ¬ Event.Within limits [] (eventsBefore contents)) := by
  have nests := Reading.nests_start limits draft.model draft.document
    (List.prefix_refl (Markup.scan bytes).items)
  unfold read Attempt.andThen
  dsimp only [Attempt.map]
  split
  next going =>
    have ending := Reading.stated_finish (Markup.scan bytes).line
      ((Reading.start draft.model draft.document).steps limits (Markup.scan bytes).items).state
    exact ⟨fun _ => (nests.done going).2, fun failure same => (ending failure same).2,
      fun failure same isLimit => absurd isLimit (ending failure same).1⟩
  next failure stopped =>
    exact ⟨fun going => (by cases stopped.symm.trans going), nests.stray, nests.limit⟩

/-- The frames mirror the document. The events up to the first fault begin a balanced sequence, in
which an empty tag opens and closes at once. At every point that reading gets to there is one more
frame than open tags, so no closing tag and no opening tag is ever a stray one. A document that is read
has every tag within the limits on depth and attributes, and none whose tags are within them is
stopped by a limit. -/
theorem read_nesting (limits : Limits) (draft : Draft) (bytes : List UInt8) :
    let outline := (Markup.Reader.atStart (Markup.withoutMark bytes)).outline
    let items := (Markup.scan bytes).items
    let events := eventsBefore (items.map Item.content)
    let reading := Reading.start draft.model draft.document
    let failure := (draft.read limits bytes).failure
    (∃ later, Event.Balanced (events ++ later)) ∧
    (items.map Item.content = outline.contents ∧
      ∀ place content name, ⟨place, .empty content name⟩ ∈ outline.pieces ->
        (∃ fault, (Markup.Construct.empty content name).contents = [.error fault]) ∨
          ∃ text attributes, (Markup.Construct.empty content name).contents =
            [.ok (.opens text attributes), .ok (.closes text)]) ∧
    (∀ before, before <+: items -> (reading.steps limits before).failure = none ->
      ∃ names, Event.openAfter [] (eventsBefore (before.map Item.content)) = some names ∧
        (reading.steps limits before).state.frames.length = names.length + 1) ∧
    (∀ position, failure ≠ some (.parse .closingTag position) ∧
      failure ≠ some (.parse .afterRoot position)) ∧
    (failure = none -> items.map Item.content = events.map .ok ∧ Event.Within limits [] events) ∧
    (Event.Within limits [] events -> ∀ exceeded, failure ≠ some (.limit exceeded)) := by
  intro outline items events reading failure
  obtain ⟨succeeds, strays, passes⟩ := draft.nests_read limits bytes
  refine ⟨?_, ⟨?_, ?_⟩, ?_, ?_, succeeds, ?_⟩
  · obtain ⟨left, known⟩ := Option.ne_none_iff_exists'.mp (Markup.nested_scan bytes)
    exact ⟨_, Event.balanced_of_openAfter known⟩
  · exact Markup.contents_scanFrom [] (.start bytes) _
  · intro place content name _
    rcases Markup.Construct.contents_empty content name with faulty | ⟨text, attributes, -, yields⟩
    · exact .inl faulty
    · exact .inr ⟨text, attributes, yields⟩
  · intro before front going
    exact ((Reading.nests_start limits draft.model draft.document front).done going).1
  · exact fun position => ⟨fun same => strays _ same trivial, fun same => strays _ same trivial⟩
  · exact fun within exceeded same => passes _ same trivial within

theorem read_nesting_shallow :
    let bytes := Utf8.encode
      "<x:schema xmlns:x=\"http://www.w3.org/2001/XMLSchema\"><x:element name=\"a\"/></x:schema>"
    let draft : Draft := ⟨.empty, .fresh default default none⟩
    (draft.read ⟨2, 0, 0, 1⟩ bytes).failure = none ∧
      Event.Within ⟨2, 0, 0, 1⟩ []
        (eventsBefore ((Markup.scan bytes).items.map Item.content)) ∧
      (draft.read ⟨1, 0, 0, 1⟩ bytes).failure = some (.limit ⟨.depth, 2, 1⟩) := by
  intro bytes draft
  have reads : (draft.read ⟨2, 0, 0, 1⟩ bytes).failure = none := by decide +kernel
  obtain ⟨-, -, -, -, succeeds, -⟩ := draft.read_nesting ⟨2, 0, 0, 1⟩ bytes
  exact ⟨reads, (succeeds reads).2, by decide +kernel⟩

end Draft

end XmlSchema

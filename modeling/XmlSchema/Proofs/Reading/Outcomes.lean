import XmlSchema.Document.Reading
import XmlSchema.Proofs.Shape

set_option autoImplicit false

namespace XmlSchema

namespace Reading

open Markup (Item)

/-- The first tag that opens settles the prefixes, also where it is then stopped. -/
def rooted (reading : Reading) (attributes : List (String × String)) : Reading :=
  ⟨⟨reading.model, reading.draft.document.withRoot attributes⟩, reading.frames⟩

/-- All that reading an item can come to. -/
inductive Outcome (reading : Reading) (item : Item) : Attempt Reading -> Prop where
  /-- The item is a fault, a tag that the limits forbid, or a closing tag too many. -/
  | stopped (failure : Failure) : Outcome reading item (.stopped reading failure)
  /-- The prefix of a tag is not bound, or the root tag has closed. -/
  | misplaced (attributes : List (String × String)) (failure : Failure) :
      Outcome reading item (.stopped (reading.rooted attributes) failure)
  | node {written : String} {attributes : List (String × String)} {outer : Frame}
      {rest : List Frame} {kind : Kind} {name : QName}
      (opens : item.content = .ok (.opens written attributes))
      (around : reading.frames = outer :: rest)
      (child : (outer.place.bind fun place => place.child name) = some (.tag kind)) :
      Outcome reading item ((reading.rooted attributes).openNode item.line attributes outer kind)
  | plain {written : String} {attributes : List (String × String)} {outer : Frame}
      {rest : List Frame} (name : QName) (skipped : Array Skipped)
      (opens : item.content = .ok (.opens written attributes))
      (around : reading.frames = outer :: rest)
      (free : (outer.place.bind fun place => place.child name) = none ∨
        (outer.place.bind fun place => place.child name) = some .anything) :
      Outcome reading item (.done
        ⟨⟨{ reading.model with
              scopes := reading.model.scopes.createChild outer.scope, skipped := skipped },
            (reading.rooted attributes).draft.document⟩,
          ⟨outer.place.bind fun place => place.child name, reading.model.scopes.next, none,
            outer.capture⟩ :: reading.frames⟩)
  | text {content : String} (takes : item.content = .ok (.text content)) :
      Outcome reading item (.done (reading.addText content))
  | closes {name : String} {id : NodeId} {frame outer : Frame} {rest : List Frame}
      (closing : item.content = .ok (.closes name))
      (frames : reading.frames = frame :: outer :: rest) (node : frame.node = some id) :
      Outcome reading item (.done ⟨closeNode reading.draft id, outer :: rest⟩)
  | passes {name : String} {frame outer : Frame} {rest : List Frame}
      (closing : item.content = .ok (.closes name))
      (frames : reading.frames = frame :: outer :: rest) (node : frame.node = none) :
      Outcome reading item (.done ⟨reading.draft, outer :: rest⟩)

variable (reading : Reading) (limits : Limits) (item : Item)

theorem outcome_openPlain {written : String} {attributes : List (String × String)} {outer : Frame}
    {rest : List Frame} (name : QName) (opens : item.content = .ok (.opens written attributes))
    (around : reading.frames = outer :: rest)
    (free : (outer.place.bind fun place => place.child name) = none ∨
      (outer.place.bind fun place => place.child name) = some .anything) :
    reading.Outcome item (.done ((reading.rooted attributes).openPlain item.line name outer
      (outer.place.bind fun place => place.child name))) := by
  unfold openPlain
  dsimp only
  split
  · exact .plain name _ opens around free
  · exact .plain name reading.model.skipped opens around free

theorem outcome_openTag {written : String} {attributes : List (String × String)}
    (opens : item.content = .ok (.opens written attributes)) :
    reading.Outcome item (reading.openTag limits item.line written attributes) := by
  unfold openTag
  split
  next => exact .stopped _
  next =>
    dsimp only
    split
    next => exact .misplaced attributes _
    next name _ =>
      split
      next => exact .misplaced attributes _
      next outer rest around =>
        have plain := reading.outcome_openPlain item name opens around
        cases child : outer.place.bind fun place => place.child name with
        | none =>
            rw [child] at plain
            exact plain (.inl rfl)
        | some found =>
            obtain ⟨place, -, leads⟩ := Option.bind_eq_some_iff.mp child
            rcases Place.child_cases leads with rfl | ⟨kind, -, rfl⟩
            · rw [child] at plain
              exact plain (.inr rfl)
            · exact .node opens around child

theorem outcome_closeTag {name : String} (closing : item.content = .ok (.closes name)) :
    reading.Outcome item (reading.closeTag item.line) := by
  unfold closeTag
  split
  next frame outer rest frames =>
    split
    next id node => exact .closes closing frames node
    next node => exact .passes closing frames node
  next => exact .stopped _

theorem outcome_step : reading.Outcome item (reading.step limits item) := by
  unfold step
  split
  next => exact .stopped _
  next opens => exact reading.outcome_openTag limits item opens
  next takes => exact .text takes
  next closing => exact reading.outcome_closeTag item closing

end Reading

end XmlSchema

import XmlSchema.Proofs.Reading.Outcomes

set_option autoImplicit false

namespace XmlSchema

namespace Document

/-- A document without what its other tags ask for and put off. -/
def header (document : Document) : Document :=
  { document with source := none, imports := #[], tasks := #[] }

theorem prefixes_of_header {old new : Document} (same : new.header = old.header) :
    new.prefixes = old.prefixes :=
  (congrArg Document.prefixes same :)

theorem withRoot_of_read {document : Document} (read : document.prefixes ≠ none)
    (attributes : List (String × String)) : document.withRoot attributes = document := by
  unfold withRoot
  cases bound : document.prefixes with
  | none => exact absurd bound read
  | some prefixes => rfl

theorem prefixes_withRoot (document : Document) (attributes : List (String × String)) :
    (document.withRoot attributes).prefixes ≠ none := by
  unfold withRoot
  cases bound : document.prefixes with
  | none => exact Option.some_ne_none _
  | some prefixes => simp [bound]

theorem filter_declaredTarget {attributes : List (String × String)}
    (silent : declaresTarget attributes = false) :
    (declaredTarget attributes).filter (· ≠ "") = none := by
  have last (target : Option String) (empty : target.filter (· ≠ "") = none) :
      (attributes.foldl (fun target entry =>
        if isTargetName entry.1 then some entry.2 else target) target).filter (· ≠ "") = none := by
    induction attributes generalizing target with
    | nil => exact empty
    | cons entry rest ih =>
        simp only [declaresTarget, List.any_cons, Bool.or_eq_false_iff] at silent
        refine ih silent.2 _ ?_
        by_cases named : isTargetName entry.1 = true
        · simpa [named] using silent.1
        · simpa [named] using empty
  exact last none rfl

theorem targetUri_rootPrefixes {attributes : List (String × String)} (adopted : Option String)
    (silent : declaresTarget attributes = false) :
    (rootPrefixes adopted attributes).targetUri = adopted.filter (· ≠ "") := by
  unfold rootPrefixes
  dsimp only
  rw [filter_declaredTarget silent]
  rfl

theorem targetUri_rootPrefixes_ne (adopted : Option String) (attributes : List (String × String)) :
    (rootPrefixes adopted attributes).targetUri ≠ some "" := by
  intro empty
  have kept : (Option.filter (fun uri : String => decide (uri ≠ "")) _) = some "" := empty
  simpa using (Option.filter_eq_some_iff.mp kept).2

end Document

namespace Draft

theorem header_declare (draft : Draft) (id : NodeId) :
    (draft.declare id).state.document.header = draft.document.header := by
  have register : (draft.registerImport id).document = draft.document := by
    unfold registerImport
    split <;> rfl
  have import_ : (draft.declareImport id).state.document.header = draft.document.header := by
    unfold declareImport
    dsimp only
    rw [register]
    split
    next => exact congrArg Document.header register
    next =>
      split
      next => exact congrArg Document.header register
      next => simp only [Attempt.done, Document.header]
  unfold declare
  split
  next =>
    unfold declareSchema
    split <;> rfl
  next => exact import_
  next => exact import_
  next => rfl

end Draft

namespace Reading

def rootOf (limits : Limits) : List Markup.Item -> Option (List (String × String))
  | [] => none
  | item :: rest =>
      match item.content with
      | .ok (.text _) => rootOf limits rest
      | .ok (.opens _ attributes) =>
          match limits.check .depth 1, limits.check .attributes attributes.length with
          | .ok (), .ok () => some attributes
          | _, _ => none
      | _ => none

def titled (document : Document) (root : Option (List (String × String))) : Document :=
  root.elim document document.withRoot

theorem header_openNode (reading : Reading) (line : Nat) (attributes : List (String × String))
    (outer : Frame) (kind : Kind) :
    (reading.openNode line attributes outer kind).state.draft.document.header =
      reading.draft.document.header := by
  unfold openNode
  dsimp only
  split
  · exact Draft.header_declare _ _
  · exact Draft.header_declare _ _

theorem header_openTag {limits : Limits} {reading : Reading} {line : Nat} {written : String}
    {attributes : List (String × String)}
    (permitted : permits limits reading attributes = .ok ()) :
    (reading.openTag limits line written attributes).state.draft.document.header =
      (reading.draft.document.withRoot attributes).header := by
  unfold openTag
  rw [permitted]
  dsimp only
  split
  next => rfl
  next =>
    split
    next => rfl
    next =>
      split
      · exact header_openNode ..
      · rfl

theorem header_closeNode (draft : Draft) (id : NodeId) :
    (closeNode draft id).document.header = draft.document.header := by
  unfold closeNode
  dsimp only
  split <;> rfl

theorem document_addText (reading : Reading) (content : String) :
    (reading.addText content).draft.document = reading.draft.document ∧
      (reading.addText content).frames = reading.frames := by
  unfold addText
  split <;> exact ⟨rfl, rfl⟩

theorem header_step_of_read {reading : Reading} (read : reading.draft.document.prefixes ≠ none)
    (limits : Limits) (item : Markup.Item) :
    (reading.step limits item).state.draft.document.header = reading.draft.document.header := by
  have rooted (attributes : List (String × String)) :
      (reading.rooted attributes).draft.document.header = reading.draft.document.header :=
    congrArg Document.header (Document.withRoot_of_read read attributes)
  have outcome := reading.outcome_step limits item
  generalize reading.step limits item = attempt at outcome ⊢
  cases outcome with
  | stopped => rfl
  | misplaced attributes => exact rooted attributes
  | node => exact (header_openNode ..).trans (rooted _)
  | plain => exact rooted _
  | text => exact congrArg Document.header (document_addText reading _).1
  | closes => exact header_closeNode ..
  | passes => rfl

theorem header_steps_of_read {reading : Reading} (read : reading.draft.document.prefixes ≠ none)
    (limits : Limits) (items : List Markup.Item) :
    (reading.steps limits items).state.draft.document.header = reading.draft.document.header := by
  induction items generalizing reading with
  | nil => rfl
  | cons item rest ih =>
      have first := header_step_of_read read limits item
      unfold steps
      dsimp only
      split
      next =>
        refine (ih ?_).trans first
        rw [Document.prefixes_of_header first]
        exact read
      next => exact first

theorem closeTag_of_bottom {reading : Reading} (bottom : reading.frames.length = 1) (line : Nat) :
    reading.closeTag line =
      .stopped reading (.parse .closingTag (some (reading.position line))) := by
  unfold closeTag
  split
  next frame outer inner frames =>
    rw [frames] at bottom
    simp at bottom
  next => rfl

theorem openTag_of_refused {limits : Limits} {reading : Reading} {line : Nat} {written : String}
    {attributes : List (String × String)} {exceeded : Limits.Exceeded}
    (refused : permits limits reading attributes = .error exceeded) :
    reading.openTag limits line written attributes = .stopped reading (.limit exceeded) := by
  unfold openTag
  rw [refused]

theorem rootOf_opens {limits : Limits} {reading : Reading} (bottom : reading.frames.length = 1)
    {item : Markup.Item} {name : String} {attributes : List (String × String)}
    (content : item.content = .ok (.opens name attributes)) (rest : List Markup.Item) :
    rootOf limits (item :: rest) =
      match permits limits reading attributes with
      | .ok () => some attributes
      | .error _ => none := by
  unfold permits
  rw [bottom]
  simp only [rootOf, content]
  cases limits.check .depth 1 with
  | error => rfl
  | ok => cases limits.check .attributes attributes.length <;> rfl

theorem header_steps {reading : Reading} (unread : reading.draft.document.prefixes = none)
    (bottom : reading.frames.length = 1) (limits : Limits) (items : List Markup.Item) :
    (reading.steps limits items).state.draft.document.header =
      (titled reading.draft.document (rootOf limits items)).header := by
  induction items generalizing reading with
  | nil => rfl
  | cons item rest ih =>
      unfold steps
      dsimp only
      cases content : item.content with
      | error fault =>
          simp only [step, content, Attempt.stopped, rootOf]
          rfl
      | ok event =>
          cases event with
          | text written =>
              obtain ⟨same, frames⟩ := document_addText reading written
              have next := ih (same ▸ unread) (frames ▸ bottom)
              simp only [step, content, Attempt.done, rootOf]
              rw [next, same]
          | closes name =>
              simp only [step, content, closeTag_of_bottom bottom, Attempt.stopped, rootOf]
              rfl
          | opens name attributes =>
              rw [rootOf_opens bottom content]
              cases permitted : permits limits reading attributes with
              | error exceeded =>
                  simp only [step, content, openTag_of_refused permitted, Attempt.stopped]
                  rfl
              | ok =>
                  -- from here on the document has been read from
                  have first := @header_openTag limits reading item.line name attributes permitted
                  have read : (reading.openTag limits item.line name
                      attributes).state.draft.document.prefixes ≠ none := by
                    rw [Document.prefixes_of_header first]
                    exact Document.prefixes_withRoot _ _
                  simp only [step, content]
                  split
                  next => exact (header_steps_of_read read limits rest).trans first
                  next => exact first

end Reading

namespace Draft

theorem state_read (draft : Draft) (limits : Limits) (bytes : List UInt8) :
    (draft.read limits bytes).state = ((Reading.start draft.model draft.document).steps limits
      (Markup.scan bytes).items).state.draft := by
  unfold read Attempt.andThen
  dsimp only
  split
  next =>
    unfold Reading.finish
    split
    next => rfl
    next => split <;> rfl
  next => rfl

theorem ended_read {draft : Draft} {limits : Limits} {bytes : List UInt8}
    (ended : (draft.read limits bytes).failure = none) :
    let attempt := (Reading.start draft.model draft.document).steps limits (Markup.scan bytes).items
    attempt.failure = none ∧ attempt.state.frames.length = 1 ∧
      attempt.state.draft.document.source ≠ none := by
  intro attempt
  unfold read Attempt.andThen at ended
  dsimp only at ended
  split at ended
  next going =>
    refine ⟨going, ?_⟩
    unfold Reading.finish at ended
    split at ended
    next => cases ended
    next closed =>
      split at ended
      next => cases ended
      next sourced =>
        exact ⟨Decidable.not_not.mp closed,
          fun none_ => sourced (Option.isNone_iff_eq_none.mpr none_)⟩
  next failure stopped => cases stopped.symm.trans ended

theorem header_read {draft : Draft} (unread : draft.document.prefixes = none) (limits : Limits)
    (bytes : List UInt8) :
    (draft.read limits bytes).state.document.header =
      (Reading.titled draft.document
        (Reading.rootOf limits (Markup.scan bytes).items)).header := by
  rw [state_read]
  exact @Reading.header_steps (Reading.start draft.model draft.document) unread rfl limits
    (Markup.scan bytes).items

end Draft

end XmlSchema

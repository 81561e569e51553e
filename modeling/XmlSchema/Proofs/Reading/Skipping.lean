import XmlSchema.Proofs.Reading.Header
import XmlSchema.Proofs.Reading.Outcomes

set_option autoImplicit false

namespace XmlSchema

namespace Scope

/-- Nothing has been entered in the scope. -/
def IsBare (scope : Scope) : Prop := scope.tables = .empty ∧ scope.typeMarker = none

end Scope

namespace Reading

variable {limits : Limits} {reading : Reading}

structure Regular (reading : Reading) : Prop where
  captured : ∀ frame ∈ reading.frames, frame.capture ≠ none ->
    frame.place = some (.tag .documentation) ∨ frame.place = some .anything
  begun : ∀ frame ∈ reading.frames, ∀ kind, frame.place = some (.tag kind) ->
    reading.draft.document.prefixes ≠ none

theorem frames_openNode {line : Nat} {attributes : List (String × String)} {outer : Frame}
    {kind : Kind} (going : (reading.openNode line attributes outer kind).failure = none) :
    ∃ frame, (reading.openNode line attributes outer kind).state.frames = frame :: reading.frames ∧
      frame.place = some (.tag kind) ∧
        (kind ≠ .documentation -> frame.capture = outer.capture) := by
  unfold openNode at going ⊢
  dsimp only at going ⊢
  split at going
  next => cases going
  next => exact ⟨_, rfl, rfl, fun plain => if_neg plain⟩

namespace Regular

theorem start (model : Model) (document : Document) : (Reading.start model document).Regular where
  captured frame member taken := by
    rw [List.mem_singleton.mp member] at taken
    exact absurd rfl taken
  begun frame member kind place := by
    rw [List.mem_singleton.mp member] at place
    cases place

theorem child_of_captured (regular : reading.Regular) {frame : Frame}
    (member : frame ∈ reading.frames) (taken : frame.capture ≠ none) (name : QName) :
    (frame.place.bind fun place => place.child name) = some .anything := by
  rcases regular.captured frame member taken with place | place
  · rw [place]
    exact Place.child_free (.inl rfl) name
  · rw [place]
    exact Place.child_free (.inr rfl) name

theorem keep (regular : reading.Regular) {next : Reading}
    (frames : ∀ frame ∈ next.frames, frame ∈ reading.frames)
    (header : next.draft.document.header = reading.draft.document.header) : next.Regular where
  captured frame member := regular.captured frame (frames frame member)
  begun frame member kind place := by
    rw [Document.prefixes_of_header header]
    exact regular.begun frame (frames frame member) kind place

theorem push (regular : reading.Regular) {next : Reading} {frame : Frame}
    (frames : next.frames = frame :: reading.frames)
    (captured : frame.capture ≠ none ->
      frame.place = some (.tag .documentation) ∨ frame.place = some .anything)
    (read : next.draft.document.prefixes ≠ none) : next.Regular where
  captured other member := by
    rw [frames] at member
    rcases List.mem_cons.mp member with rfl | further
    · exact captured
    · exact regular.captured other further
  begun _ _ _ _ := read

theorem openNode (regular : reading.Regular) (read : reading.draft.document.prefixes ≠ none)
    (line : Nat) (attributes : List (String × String)) {outer : Frame} {rest : List Frame}
    (frames : reading.frames = outer :: rest) {kind : Kind} {name : QName}
    (child : (outer.place.bind fun place => place.child name) = some (.tag kind))
    (going : (reading.openNode line attributes outer kind).failure = none) :
    (reading.openNode line attributes outer kind).state.Regular := by
  -- where text is taken, no tag of a kind can open
  have silent : outer.capture = none := by
    refine Classical.byContradiction fun taken => ?_
    cases child.symm.trans (regular.child_of_captured (frames ▸ List.mem_cons_self) taken name)
  have header := header_openNode reading line attributes outer kind
  obtain ⟨frame, opened, place, capture⟩ := frames_openNode going
  refine regular.push opened (fun taken => .inl (place.trans ?_)) fun missing =>
    read ((Document.prefixes_of_header header).symm.trans missing)
  by_cases documents : kind = .documentation
  · exact congrArg (fun kind => some (Place.tag kind)) documents
  · exact absurd ((capture documents).trans silent) taken

theorem step (regular : reading.Regular) (item : Markup.Item)
    (going : (reading.step limits item).failure = none) :
    (reading.step limits item).state.Regular := by
  have read := Document.prefixes_withRoot reading.draft.document
  have rooted (attributes : List (String × String)) : (reading.rooted attributes).Regular :=
    ⟨regular.captured, fun _ _ _ _ => read attributes⟩
  have outcome := reading.outcome_step limits item
  generalize reading.step limits item = attempt at outcome going ⊢
  cases outcome with
  | stopped => cases going
  | misplaced => cases going
  | node opens around child =>
      exact (rooted _).openNode (read _) _ _ around child going
  | plain name skipped opens around free =>
      have member := around ▸ List.mem_cons_self
      exact regular.push rfl (fun taken => .inr (regular.child_of_captured member taken name)) (read _)
  | text takes =>
      obtain ⟨document, frames⟩ := document_addText reading _
      exact regular.keep (fun frame member => frames ▸ member) (congrArg Document.header document)
  | closes closing frames node =>
      exact regular.keep (fun _ member => frames ▸ List.mem_cons_of_mem _ member)
        (header_closeNode reading.draft _)
  | passes closing frames node =>
      exact regular.keep (fun _ member => frames ▸ List.mem_cons_of_mem _ member) rfl

theorem steps (regular : reading.Regular) (items : List Markup.Item)
    (going : (reading.steps limits items).failure = none) :
    (reading.steps limits items).state.Regular := by
  induction items generalizing reading with
  | nil => exact regular
  | cons item rest ih =>
    unfold Reading.steps at going ⊢
    dsimp only at going ⊢
    split at going
    next proceeds => exact ih (regular.step item proceeds) going
    next failure stopped => cases stopped.symm.trans going

end Regular

def Opens (limits : Limits) (prefixes : Prefixes) (depth : Nat) (item : Markup.Item)
    (name : QName) : Prop :=
  ∃ written attributes, item.content = .ok (.opens written attributes) ∧
    prefixes.tagName written = .ok name ∧ depth ≤ limits.depth ∧
      attributes.length ≤ limits.attributes

inductive Nested (limits : Limits) (prefixes : Prefixes) : Nat -> List Markup.Item -> Prop where
  | empty {depth : Nat} : Nested limits prefixes depth []
  | text {depth : Nat} {item : Markup.Item} {written : String} {rest : List Markup.Item}
      (is : item.content = .ok (.text written)) (later : Nested limits prefixes depth rest) :
      Nested limits prefixes depth (item :: rest)
  | tag {depth : Nat} {opening closing : Markup.Item} {name : QName} {written : String}
      {inner rest : List Markup.Item} (opens : Opens limits prefixes depth opening name)
      (inside : Nested limits prefixes (depth + 1) inner)
      (closes : closing.content = .ok (.closes written))
      (later : Nested limits prefixes depth rest) :
      Nested limits prefixes depth (opening :: (inner ++ closing :: rest))

def passing (reading : Reading) (bodies : List Scope) (skipped : List Skipped) : Reading :=
  reading.withModel { reading.model with
    scopes := ⟨reading.model.scopes.all ++ bodies.toArray⟩
    skipped := reading.model.skipped ++ skipped.toArray }

theorem passing_nothing (reading : Reading) : reading.passing [] [] = reading := by
  obtain ⟨⟨model, document⟩, frames⟩ := reading
  simp [passing, withModel, Reading.model]

theorem passing_passing (reading : Reading) (first second : List Scope)
    (former latter : List Skipped) :
    (reading.passing first former).passing second latter =
      reading.passing (first ++ second) (former ++ latter) := by
  simp [passing, withModel, Reading.model, Array.append_assoc]

section

variable {prefixes : Prefixes} {outer : Frame} {rest : List Frame}

theorem steps_cons_of_done {item : Markup.Item} {next : Reading}
    (done : reading.step limits item = .done next) (items : List Markup.Item) :
    reading.steps limits (item :: items) = next.steps limits items := by
  rw [steps, done]
  rfl

theorem step_text_of_silent (frames : reading.frames = outer :: rest) (silent : outer.capture = none)
    {item : Markup.Item} {written : String} (is : item.content = .ok (.text written)) :
    reading.step limits item = .done reading := by
  simp [step, is, addText, frames, silent]

theorem step_opens_of_unplaced (frames : reading.frames = outer :: rest)
    (read : reading.draft.document.prefixes = some prefixes) {item : Markup.Item} {name : QName}
    (opens : Opens limits prefixes reading.frames.length item name)
    (unplaced : (outer.place.bind fun place => place.child name) = none) :
    ∃ body : Scope, body.IsBare ∧
      reading.step limits item = .done ((reading.passing [body]
        (if outer.place.isSome then [⟨reading.position item.line, name⟩] else [])).push
          ⟨none, reading.model.scopes.next, none, outer.capture⟩) := by
  obtain ⟨written, attributes, is, named, deep, wide⟩ := opens
  have permitted : permits limits reading attributes = .ok () := by
    simp [permits, Limits.check, Limits.maximum, Nat.not_lt.mpr deep, Nat.not_lt.mpr wide]
  have rooted : reading.draft.document.withRoot attributes = reading.draft.document :=
    Document.withRoot_of_read (by simp [read]) attributes
  refine ⟨.bare (some outer.scope) (reading.model.scopes.get outer.scope).home, ⟨rfl, rfl⟩, ?_⟩
  have opened : reading.openTag limits item.line written attributes =
      .done (reading.openPlain item.line name outer none) := by
    unfold openTag
    rw [permitted, rooted]
    dsimp only
    rw [read, Option.getD_some, named]
    dsimp only
    split
    next empty => cases frames.symm.trans empty
    next other inner there =>
      cases frames.symm.trans there
      rw [unplaced]
      rfl
  simp only [step, is, opened]
  cases placed : outer.place <;>
    simp [openPlain, placed, passing, push, withModel, model, Scopes.createChild, Scopes.create]

theorem step_closes_of_plain {frame : Frame} (frames : reading.frames = frame :: outer :: rest)
    (plain : frame.node = none) {item : Markup.Item} {written : String}
    (is : item.content = .ok (.closes written)) :
    reading.step limits item = .done ⟨reading.draft, outer :: rest⟩ := by
  simp [step, is, closeTag, frames, plain]

theorem steps_tag (frames : reading.frames = outer :: rest)
    (read : reading.draft.document.prefixes = some prefixes) (silent : outer.capture = none)
    {opening closing : Markup.Item} {name : QName} {written : String}
    (opens : Opens limits prefixes reading.frames.length opening name)
    (unplaced : (outer.place.bind fun place => place.child name) = none)
    (closes : closing.content = .ok (.closes written)) {inner : List Markup.Item}
    (passes : ∀ (inside : Reading) (frame : Frame),
      inside.frames = frame :: reading.frames -> frame.place = none -> frame.capture = none ->
        inside.draft.document.prefixes = some prefixes -> ∀ items,
          ∃ bodies : List Scope, (∀ body ∈ bodies, body.IsBare) ∧
            inside.steps limits (inner ++ items) =
              (inside.passing bodies []).steps limits items) (items : List Markup.Item) :
    ∃ bodies : List Scope, (∀ body ∈ bodies, body.IsBare) ∧
      reading.steps limits (opening :: (inner ++ closing :: items)) =
        (reading.passing bodies
          (if outer.place.isSome then [⟨reading.position opening.line, name⟩] else [])).steps
            limits items := by
  obtain ⟨first, bare, opened⟩ := step_opens_of_unplaced frames read opens unplaced
  generalize skipped : (if outer.place.isSome then
    [(⟨reading.position opening.line, name⟩ : Skipped)] else []) = notes at opened ⊢
  obtain ⟨bodies, bares, passed⟩ := passes ((reading.passing [first] notes).push
    ⟨none, reading.model.scopes.next, none, outer.capture⟩) _ rfl rfl silent read (closing :: items)
  have closed : (((reading.passing [first] notes).push
      ⟨none, reading.model.scopes.next, none, outer.capture⟩).passing bodies []).step limits closing =
        .done (reading.passing (first :: bodies) notes) := by
    refine (step_closes_of_plain (congrArg (_ :: ·) frames) rfl closes).trans ?_
    have joined := reading.passing_passing [first] bodies notes []
    rw [List.append_nil] at joined
    exact congrArg Attempt.done ((congrArg (Reading.mk _) frames.symm).trans joined)
  refine ⟨first :: bodies, List.forall_mem_cons.mpr ⟨bare, bares⟩, ?_⟩
  rw [steps_cons_of_done opened, passed, steps_cons_of_done closed]

/-- Inside a tag without a place nothing has one, so everything is passed over. -/
theorem Nested.steps {depth : Nat} {items : List Markup.Item}
    (nested : Nested limits prefixes depth items) {reading : Reading} {frame : Frame}
    {rest : List Frame} (frames : reading.frames = frame :: rest)
    (deep : reading.frames.length = depth) (placeless : frame.place = none)
    (silent : frame.capture = none) (read : reading.draft.document.prefixes = some prefixes)
    (further : List Markup.Item) :
    ∃ bodies : List Scope, (∀ body ∈ bodies, body.IsBare) ∧
      reading.steps limits (items ++ further) =
        (reading.passing bodies []).steps limits further := by
  induction nested generalizing reading frame rest further with
  | empty => exact ⟨[], nofun, by rw [passing_nothing, List.nil_append]⟩
  | text is later ih =>
    rw [List.cons_append, steps_cons_of_done (step_text_of_silent frames silent is)]
    exact ih frames deep placeless silent read further
  | @tag depth opening closing name written inner after opens inside closes later ih ihLater =>
    have unplaced : (frame.place.bind fun place => place.child name) = none := by
      rw [placeless]
      rfl
    obtain ⟨first, bares, passed⟩ := steps_tag frames read silent (deep ▸ opens) unplaced closes
      (fun within body around outside quiet known items =>
        ih around (by rw [around, List.length_cons, deep]) outside quiet known items)
      (after ++ further)
    rw [placeless] at passed
    obtain ⟨second, others, done⟩ := @ihLater (reading.passing first []) _ _ frames deep placeless
      silent read further
    refine ⟨first ++ second, List.forall_mem_append.mpr ⟨bares, others⟩, ?_⟩
    have joined := reading.passing_passing first second [] []
    rw [List.append_nil] at joined
    rw [← joined, ← done]
    simpa using passed

end

/-- In a schema tag, where the innermost open tag has a place, a tag that has none is passed over
together with all that stands in it: what is left of it is a note of its name and its line, and body
scopes that nothing is entered in. -/
theorem steps_skipped {model : Model} {document : Document} {before : List Markup.Item}
    (reads : (Reading.start model document).steps limits before = .done reading)
    (inside : ∃ frame ∈ reading.frames, frame.place = some (.tag .schema)) {outer : Frame}
    {rest : List Frame} (frames : reading.frames = outer :: rest) {place : Place}
    (placed : outer.place = some place) {opening closing : Markup.Item} {name : QName}
    {written : String} {inner : List Markup.Item}
    (opens : Opens limits (reading.draft.document.prefixes.getD .empty) reading.frames.length opening
      name)
    (nested : Nested limits (reading.draft.document.prefixes.getD .empty)
      (reading.frames.length + 1) inner)
    (closes : closing.content = .ok (.closes written)) (unplaced : place.child name = none) :
    ∃ bodies : List Scope, (∀ body ∈ bodies, body.IsBare) ∧
      reading.steps limits (opening :: (inner ++ [closing])) =
        .done (reading.passing bodies [⟨reading.position opening.line, name⟩]) := by
  have regular : reading.Regular := by
    have kept := (Regular.start model document).steps before (by rw [reads]; rfl)
    rw [reads] at kept
    exact kept
  obtain ⟨frame, member, schema⟩ := inside
  obtain ⟨prefixes, read⟩ := Option.ne_none_iff_exists'.mp (regular.begun frame member _ schema)
  rw [read, Option.getD_some] at opens nested
  -- where text is taken this tag would have a place
  have silent : outer.capture = none := by
    refine Classical.byContradiction fun taken => ?_
    have free := regular.child_of_captured (frames ▸ List.mem_cons_self) taken name
    rw [placed] at free
    cases unplaced.symm.trans free
  have bound : (outer.place.bind fun place => place.child name) = none := by
    rw [placed]
    exact unplaced
  obtain ⟨bodies, bares, passed⟩ := steps_tag frames read silent opens bound closes
    (fun within body around outside quiet known items =>
      nested.steps around (by rw [around, List.length_cons]) outside quiet known items) []
  refine ⟨bodies, bares, ?_⟩
  rw [passed, placed]
  rfl

def redefineOpening : Markup.Item := ⟨2, .ok (.opens "x:redefine" [])⟩

def redefineInner : List Markup.Item :=
  [⟨3, .ok (.opens "x:documentation" [])⟩, ⟨3, .ok (.text "why")⟩,
    ⟨3, .ok (.closes "x:documentation")⟩, ⟨4, .ok (.opens "x:schema" [])⟩,
    ⟨5, .ok (.opens "x:import" [("schemaLocation", "b.xsd")])⟩, ⟨5, .ok (.closes "x:import")⟩,
    ⟨6, .ok (.opens "x:element" [("name", "a")])⟩, ⟨6, .ok (.closes "x:element")⟩,
    ⟨7, .ok (.closes "x:schema")⟩]

set_option maxRecDepth 100000 in
theorem steps_skipped_redefine :
    ∃ reading : Reading,
      (start .empty (.fresh default default none)).steps .standard
        [⟨1, .ok (.opens "x:schema" [("xmlns:x", schemaUri)])⟩] = .done reading ∧
      ∃ bodies : List Scope, (∀ body ∈ bodies, body.IsBare) ∧
        reading.steps .standard
          (redefineOpening :: (redefineInner ++ [⟨8, .ok (.closes "x:redefine")⟩])) =
            .done (reading.passing bodies
              [⟨reading.position 2, .inNamespace schemaUri "redefine"⟩]) := by
  generalize attempted : (start .empty (.fresh default default none)).steps .standard
    [⟨1, .ok (.opens "x:schema" [("xmlns:x", schemaUri)])⟩] = attempt
  have facts : attempt.failure = none ∧
      attempt.state.frames.map (·.place) = [some (.tag .schema), some .document] ∧
        ∀ tag ∈ ["redefine", "documentation", "schema", "import", "element"],
          ((attempt.state.draft.document.prefixes.getD .empty).tagName ("x:" ++ tag)).toOption =
            some (.inNamespace schemaUri tag) := by
    subst attempted
    decide +kernel
  obtain ⟨reading, failure⟩ := attempt
  obtain ⟨rfl, places, named⟩ := facts
  have depth : reading.frames.length = 2 := by
    simpa using congrArg List.length places
  obtain ⟨outer, rest, frames⟩ := List.exists_cons_of_length_eq_add_one depth
  have placed : outer.place = some (.tag .schema) := by
    simpa [frames] using congrArg List.head? places
  -- each of these tags is spelled with the prefix of the schema, and is within the limits
  have opens (tag : String) (listed : tag ∈ ["redefine", "documentation", "schema", "import",
      "element"]) (line : Nat) (attributes : List (String × String)) (narrow : attributes.length ≤ 1)
      (depth : Nat) (deep : depth ≤ 4) :
      Opens .standard (reading.draft.document.prefixes.getD .empty) depth
        ⟨line, .ok (.opens ("x:" ++ tag) attributes)⟩ (.inNamespace schemaUri tag) :=
    have same : (reading.draft.document.prefixes.getD .empty).tagName ("x:" ++ tag) =
        .ok (.inNamespace schemaUri tag) := by
      have known := named tag listed
      cases written : (reading.draft.document.prefixes.getD .empty).tagName ("x:" ++ tag) with
      | ok name =>
        rw [written] at known
        exact congrArg Except.ok (Option.some.inj known)
      | error fault =>
        rw [written] at known
        cases known
    ⟨_, _, rfl, same, Nat.le_trans deep (by decide), Nat.le_trans narrow (by decide)⟩
  have nested : Nested .standard (reading.draft.document.prefixes.getD .empty) 3 redefineInner :=
    .tag (opens "documentation" (by simp) 3 [] (by simp) 3 (by simp)) (.text rfl .empty) rfl
      (.tag (opens "schema" (by simp) 4 [] (by simp) 3 (by simp))
        (.tag (opens "import" (by simp) 5 _ (by simp) 4 (by simp)) .empty rfl
          (.tag (opens "element" (by simp) 6 _ (by simp) 4 (by simp)) .empty rfl .empty))
        rfl .empty)
  refine ⟨reading, rfl, ?_⟩
  exact steps_skipped attempted ⟨outer, frames ▸ List.mem_cons_self, placed⟩ frames placed
    (depth ▸ opens "redefine" (by simp) 2 [] (by simp) 2 (by simp)) (depth ▸ nested) rfl
    (by decide)

end Reading

end XmlSchema

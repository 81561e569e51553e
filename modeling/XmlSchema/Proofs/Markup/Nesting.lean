import XmlSchema.Proofs.Markup.Outline

set_option autoImplicit false

namespace XmlSchema.Markup

namespace Event

/-- Tags inside and after each other with text between them, each closed by its own name. -/
inductive Balanced : List Event -> Prop where
  | nothing : Balanced []
  | text {content : String} {rest : List Event} (later : Balanced rest) :
      Balanced (.text content :: rest)
  | tag {name : String} {attributes : List (String × String)} {inner rest : List Event}
      (inside : Balanced inner) (later : Balanced rest) :
      Balanced (.opens name attributes :: (inner ++ .closes name :: rest))

/-- The names of the open tags after one more event, innermost first. A tag that is not the innermost
open one cannot close. -/
def turn (names : List String) : Event -> Option (List String)
  | .opens name _ => some (name :: names)
  | .closes name => if names.head? = some name then some names.tail else none
  | .text _ => some names

def openAfter (names : List String) (events : List Event) : Option (List String) :=
  events.foldlM turn names

@[simp] theorem openAfter_nil (names : List String) : openAfter names [] = some names := rfl

@[simp] theorem openAfter_cons (names : List String) (event : Event) (rest : List Event) :
    openAfter names (event :: rest) = (turn names event).bind (openAfter · rest) :=
  List.foldlM_cons

@[simp] theorem openAfter_append (names : List String) (first second : List Event) :
    openAfter names (first ++ second) = (openAfter names first).bind (openAfter · second) :=
  List.foldlM_append

def Closes : List String -> List Event -> Prop
  | [], events => Balanced events
  | name :: outer, events => ∃ inner rest, events = inner ++ .closes name :: rest ∧
      Balanced inner ∧ Closes outer rest

theorem Closes.text {names : List String} {events : List Event} (content : String)
    (closes : Closes names events) : Closes names (.text content :: events) := by
  cases names with
  | nil => exact Balanced.text closes
  | cons name outer =>
    obtain ⟨inner, rest, rfl, inside, later⟩ := closes
    exact ⟨.text content :: inner, rest, rfl, .text inside, later⟩

theorem Closes.opens {name : String} {outer : List String} {events : List Event}
    (attributes : List (String × String)) (closes : Closes (name :: outer) events) :
    Closes outer (.opens name attributes :: events) := by
  obtain ⟨inner, rest, rfl, inside, later⟩ := closes
  -- the tag is now closed, and belongs to what stands in the next one
  cases outer with
  | nil => exact Balanced.tag inside later
  | cons next outer =>
    obtain ⟨between, rest, rfl, balanced, later⟩ := later
    exact ⟨.opens name attributes :: (inner ++ .closes name :: between), rest, by simp,
      .tag inside balanced, later⟩

theorem closes_map (names : List String) : Closes names (names.map .closes) := by
  induction names with
  | nil => exact .nothing
  | cons name outer ih => exact ⟨[], _, rfl, .nothing, ih⟩

theorem closes_of_openAfter {names left : List String} {events : List Event}
    (known : openAfter names events = some left) :
    Closes names (events ++ left.map .closes) := by
  induction events generalizing names with
  | nil =>
    obtain rfl : names = left := by simpa using known
    exact closes_map names
  | cons event rest ih =>
    cases event with
    | opens name attributes => exact (ih (by simpa [turn] using known)).opens attributes
    | text content => exact (ih (by simpa [turn] using known)).text content
    | closes name =>
      cases names with
      | nil => simp [turn] at known
      | cons innermost outer =>
        by_cases same : innermost = name
        · subst same
          exact ⟨[], _, rfl, .nothing, ih (by simpa [turn] using known)⟩
        · simp [turn, same] at known

theorem balanced_of_openAfter {left : List String} {events : List Event}
    (known : openAfter [] events = some left) : Balanced (events ++ left.map .closes) :=
  closes_of_openAfter known

theorem openAfter_of_front {names : List String} {first events : List Event}
    (front : first <+: events) (known : openAfter names events ≠ none) :
    ∃ left, openAfter names first = some left := by
  obtain ⟨second, rfl⟩ := front
  rw [openAfter_append] at known
  cases first : openAfter names first with
  | none => simp [first] at known
  | some left => exact ⟨left, rfl⟩

end Event

def eventsBefore : List (Except Fault Event) -> List Event
  | .ok event :: rest => event :: eventsBefore rest
  | _ => []

@[simp] theorem eventsBefore_error (fault : Fault) (rest : List (Except Fault Event)) :
    eventsBefore (.error fault :: rest) = [] := rfl

@[simp] theorem eventsBefore_append (events : List Event) (rest : List (Except Fault Event)) :
    eventsBefore (events.map .ok ++ rest) = events ++ eventsBefore rest := by
  induction events with
  | nil => rfl
  | cons event events ih => simp [eventsBefore, ih]

theorem prefix_eventsBefore (first second : List (Except Fault Event)) :
    eventsBefore first <+: eventsBefore (first ++ second) := by
  induction first with
  | nil => exact List.nil_prefix
  | cons content first ih =>
    cases content with
    | error fault => simp
    | ok event => simpa [eventsBefore] using ih

namespace Construct

theorem openEvent_spec (content name : List UInt8) :
    (∃ fault, openEvent content name = .error fault) ∨
      ∃ text attributes, Utf8.decodeText name = .ok text ∧
        openEvent content name = .ok (text, attributes) := by
  unfold openEvent
  split
  next fault _ => exact .inl ⟨_, rfl⟩
  next text named =>
    split
    next fault _ => exact .inl ⟨fault, rfl⟩
    next attributes _ => exact .inr ⟨text, attributes, named, rfl⟩

theorem contents_empty (content name : List UInt8) :
    (∃ fault, (Construct.empty content name).contents = [.error fault]) ∨
      ∃ text attributes, Utf8.decodeText name = .ok text ∧
        (Construct.empty content name).contents =
          [.ok (.opens text attributes), .ok (.closes text)] := by
  rcases openEvent_spec content name with ⟨fault, opened⟩ | ⟨text, attributes, named, opened⟩
  · exact .inl ⟨fault, by simp [contents, itemsOf, opened]⟩
  · exact .inr ⟨text, attributes, named, by simp [contents, itemsOf, opened]⟩

theorem contents_start (content name : List UInt8) :
    (∃ fault, (Construct.start content name).contents = [.error fault]) ∨
      ∃ text attributes, Utf8.decodeText name = .ok text ∧
        (Construct.start content name).contents = [.ok (.opens text attributes)] := by
  rcases openEvent_spec content name with ⟨fault, opened⟩ | ⟨text, attributes, named, opened⟩
  · exact .inl ⟨fault, by simp [contents, itemsOf, opened]⟩
  · exact .inr ⟨text, attributes, named, by simp [contents, itemsOf, opened]⟩

theorem contents_textItems (content : Except Fault String) :
    (∃ fault, (textItems 0 content).map Item.content = [.error fault]) ∨
      ∃ texts : List String,
        (textItems 0 content).map Item.content = (texts.map Event.text).map .ok := by
  unfold textItems
  split
  next fault => exact .inl ⟨fault, rfl⟩
  next text =>
    split
    next => exact .inr ⟨[], rfl⟩
    next => exact .inr ⟨[text], rfl⟩

theorem openAfter_texts (names : List String) (texts : List String) :
    Event.openAfter names (texts.map .text) = some names := by
  induction texts with
  | nil => rfl
  | cons text texts ih => simpa [Event.turn] using ih

theorem contents_turns {construct : Construct} {opened after : List (List UInt8)}
    (turns : construct.Turns opened after) {names : List String}
    (known : opened.map Utf8.decodeText = names.map .ok) :
    (∃ fault, construct.contents = [.error fault]) ∨
      ∃ events left, construct.contents = events.map .ok ∧
        Event.openAfter names events = some left ∧ after.map Utf8.decodeText = left.map .ok := by
  cases construct with
  | start content name =>
    obtain rfl : after = name :: opened := turns
    rcases contents_start content name with faulty | ⟨text, attributes, named, yields⟩
    · exact .inl faulty
    · exact .inr ⟨[.opens text attributes], text :: names, yields, rfl, by simp [named, known]⟩
  | empty content name =>
    obtain rfl : after = opened := turns
    rcases contents_empty content name with faulty | ⟨text, attributes, named, yields⟩
    · exact .inl faulty
    · exact .inr ⟨[.opens text attributes, .closes text], names, yields, by simp [Event.turn], known⟩
  | close name =>
    obtain rfl : opened = name :: after := turns
    cases names with
    | nil => simp at known
    | cons text outer =>
      obtain ⟨named, outer⟩ := List.cons.inj known
      refine .inr ⟨[.closes text], _, ?_, by simp [Event.turn], outer⟩
      simp [contents, itemsOf, named]
  | text bytes =>
    obtain rfl : after = opened := turns
    rcases contents_textItems ((readText bytes).mapError .text) with faulty | ⟨texts, yields⟩
    · exact .inl faulty
    · exact .inr ⟨_, names, yields, openAfter_texts names texts, known⟩
  | cdata bytes =>
    obtain rfl : after = opened := turns
    rcases contents_textItems ((Utf8.decodeText bytes).mapError .cdata) with faulty | ⟨texts, yields⟩
    · exact .inl faulty
    · exact .inr ⟨_, names, yields, openAfter_texts names texts, known⟩
  | ignored =>
    obtain rfl : after = opened := turns
    exact .inr ⟨[], names, rfl, rfl, known⟩

end Construct

theorem Reader.step_turns {reader next : Reader} {construct : Construct}
    (read : reader.step = .read construct next) : construct.Turns reader.opened next.opened := by
  rcases step_cases read with ⟨-, -, reads⟩ | text
  · rw [← reader.opened_behind]
    exact reads.turns
  · obtain ⟨bytes, rfl⟩ := text.text
    exact text.opened

/-- The names of the reader's open tags are those of the events that opened them, so what closes for
the reader closes what is open. -/
theorem Reader.nested_outline (reader : Reader) (names : List String)
    (known : reader.opened.map Utf8.decodeText = names.map .ok) :
    Event.openAfter names (eventsBefore reader.outline.contents) ≠ none := by
  fun_induction Reader.outline reader generalizing names with
  | case1 reader finished => simp [Outline.contents, eventsBefore]
  | case2 reader fault position refused => simp [Outline.contents]
  | case3 reader construct next read later ih =>
    have whole : Outline.contents
        ⟨⟨reader.placeOf construct, construct⟩ :: later.pieces, later.refusal⟩ =
          construct.contents ++ later.contents := by
      simp [Outline.contents]
    rw [whole]
    rcases Construct.contents_turns (step_turns read) known with
      ⟨fault, yields⟩ | ⟨events, left, yields, turned, known⟩
    -- behind a fault the reader goes on, but no more events count
    · simp [yields]
    · rw [yields, eventsBefore_append, Event.openAfter_append, turned, Option.bind_some]
      exact ih left known

theorem nested_scan (bytes : List UInt8) :
    Event.openAfter [] (eventsBefore ((scan bytes).items.map Item.content)) ≠ none := by
  have whole := contents_scanFrom [] (.start bytes) (.atStart (withoutMark bytes))
  rw [List.reverse_nil, List.map_nil, List.nil_append] at whole
  exact whole ▸ (Reader.atStart (withoutMark bytes)).nested_outline [] rfl

end XmlSchema.Markup

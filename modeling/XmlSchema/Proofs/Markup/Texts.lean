import XmlSchema.Node
import XmlSchema.Proofs.Markup.Outline

set_option autoImplicit false

namespace XmlSchema

namespace Text

structure Edged (text : List Char) : Prop where
  first : ∃ c, text.head? = some c ∧ isBlank c = false
  last : ∃ c, text.getLast? = some c ∧ isBlank c = false

theorem dropBlanks_of_solid {text : List Char} {c : Char} (first : text.head? = some c)
    (solid : isBlank c = false) : dropBlanks text = text := by
  cases text with
  | nil => rfl
  | cons head tail =>
    obtain rfl : head = c := Option.some.inj first
    exact List.dropWhile_cons_of_neg (by simp [solid])

theorem Edged.trimmed {text : List Char} (edged : Edged text) : trimmed text = text := by
  obtain ⟨first, starts, solid⟩ := edged.first
  obtain ⟨last, ends, closes⟩ := edged.last
  unfold Text.trimmed
  rw [dropBlanks_of_solid starts solid,
    dropBlanks_of_solid ((List.head?_reverse ..).trans ends) closes, List.reverse_reverse]

theorem Edged.join {one two : List Char} (first : Edged one) (second : Edged two)
    (between : List Char) : Edged (one ++ between ++ two) := by
  obtain ⟨head, starts, solid⟩ := first.first
  obtain ⟨last, ends, closes⟩ := second.last
  exact ⟨⟨head, by simp [starts], solid⟩, ⟨last, by simp [List.getLast?_append, ends], closes⟩⟩

theorem edged_trimmed {text : List Char} (solid : trimmed text ≠ []) : Edged (trimmed text) := by
  have reversed : dropBlanks (dropBlanks text).reverse ≠ [] := by
    simpa [trimmed] using solid
  obtain ⟨last, rest, ended⟩ := List.exists_cons_of_ne_nil reversed
  have closes := isBlank_head_dropBlanks _ last rest ended
  -- dropping blanks at the end takes nothing from the start
  have front : trimmed text <+: dropBlanks text := by
    have behind : dropBlanks (dropBlanks text).reverse <:+ (dropBlanks text).reverse :=
      List.dropWhile_suffix ..
    simpa [trimmed] using List.reverse_prefix.mpr behind
  obtain ⟨first, more, started⟩ := List.exists_cons_of_ne_nil solid
  have starts : ∃ after, dropBlanks text = first :: after := by
    obtain ⟨after, whole⟩ := front
    exact ⟨more ++ after, by rw [← whole, started]; rfl⟩
  obtain ⟨after, dropped⟩ := starts
  refine ⟨⟨first, by rw [started]; rfl, isBlank_head_dropBlanks _ first after dropped⟩, last, ?_,
    closes⟩
  rw [trimmed, List.getLast?_reverse, ended]
  rfl

theorem trim_of_edged {text : String} (edged : Edged text.toList) : trim text = text := by
  rw [trim, edged.trimmed, String.ofList_toList]

theorem edged_trim {text : String} (solid : trim text ≠ "") : Edged (trim text).toList := by
  have trimmed : (trim text).toList = trimmed text.toList := String.toList_ofList
  rw [trimmed]
  refine edged_trimmed fun none_ => solid ?_
  rw [trim, none_]

end Text

namespace Markup

namespace Event

def texts (events : List Event) : List String :=
  events.filterMap fun
    | .text content => some content
    | _ => none

def prose (events : List Event) : String := " ".intercalate ((texts events).map Text.trim)

/-- No text among the events is blank. -/
def Solid (events : List Event) : Prop := ∀ content ∈ texts events, Text.trim content ≠ ""

@[simp] theorem texts_nil : texts [] = [] := rfl

@[simp] theorem texts_text (content : String) (rest : List Event) :
    texts (.text content :: rest) = content :: texts rest := rfl

@[simp] theorem texts_opens (name : String) (attributes : List (String × String))
    (rest : List Event) : texts (.opens name attributes :: rest) = texts rest := rfl

@[simp] theorem texts_closes (name : String) (rest : List Event) :
    texts (.closes name :: rest) = texts rest := rfl

end Event

def collected (before : String) (pieces : List String) : String :=
  pieces.foldl (fun text piece =>
    if text.isEmpty then Text.trim piece else text ++ " " ++ Text.trim piece) before

theorem collected_eq {pieces : List String} (solid : ∀ piece ∈ pieces, Text.trim piece ≠ "")
    {before : List String} (edged : ∀ text ∈ before, text ≠ "") :
    collected (" ".intercalate before) pieces =
      " ".intercalate (before ++ pieces.map Text.trim) := by
  -- by induction on the pieces, each of which joins those before it
  induction pieces generalizing before with
  | nil => simp [collected]
  | cons piece rest ih =>
    have first : Text.trim piece ≠ "" := solid piece List.mem_cons_self
    have joined : (if (" ".intercalate before).isEmpty then Text.trim piece
        else " ".intercalate before ++ " " ++ Text.trim piece) =
          " ".intercalate (before ++ [Text.trim piece]) := by
      rcases before with _ | ⟨text, before⟩
      · simp [String.intercalate_nil]
      · have some_ : " ".intercalate (text :: before) ≠ "" := by
          intro empty
          refine edged text List.mem_cons_self ?_
          rcases before with _ | ⟨next, before⟩
          · simpa using empty
          · rw [String.intercalate_cons_cons] at empty
            simp at empty
        rw [if_neg (by simpa using some_),
          String.intercalate_append_of_ne_nil (by simp) (by simp), String.intercalate_singleton]
    have step : collected (" ".intercalate before) (piece :: rest) =
        collected (" ".intercalate (before ++ [Text.trim piece])) rest := by
      rw [← joined]
      rfl
    rw [step, ih (fun other member => solid other (List.mem_cons_of_mem _ member)) ?_]
    · simp
    · intro text member
      rcases List.mem_append.mp member with there | last
      · exact edged text there
      · rw [List.mem_singleton.mp last]
        exact first

theorem collected_texts {events : List Event} (solid : Event.Solid events) :
    collected "" (Event.texts events) = Event.prose events := by
  have joined := @collected_eq _ solid [] (by simp)
  simpa [Event.prose] using joined

theorem trim_prose {events : List Event} (solid : Event.Solid events) :
    Text.trim (Event.prose events) = Event.prose events := by
  unfold Event.prose
  unfold Event.Solid at solid
  generalize Event.texts events = texts at solid
  by_cases none_ : texts = []
  · subst none_
    rfl
  refine Text.trim_of_edged ?_
  -- by induction from the front, the first text being joined to the rest
  induction texts with
  | nil => exact absurd rfl none_
  | cons text rest ih =>
    have first := Text.edged_trim (solid text List.mem_cons_self)
    rcases rest with _ | ⟨next, rest⟩
    · simpa using first
    · have later := ih (fun other member => solid other (List.mem_cons_of_mem _ member)) (by simp)
      simpa [String.intercalate_cons_cons] using first.join later [' ']

theorem solid_textItems {line : Nat} {content : Except Fault String} {item : Item} {text : String}
    (member : item ∈ textItems line content) (is : item.content = .ok (.text text)) :
    Text.trim text ≠ "" := by
  unfold textItems at member
  split at member
  next =>
    rw [List.mem_singleton.mp member] at is
    cases is
  next written =>
    split at member
    next => cases member
    next solid =>
      rw [List.mem_singleton.mp member] at is
      cases is
      simpa using solid

theorem solid_itemsOf {line : Nat} {construct : Construct} {item : Item} {text : String}
    (member : item ∈ itemsOf line construct) (is : item.content = .ok (.text text)) :
    Text.trim text ≠ "" := by
  unfold itemsOf at member
  split at member
  next =>
    split at member <;> rw [List.mem_singleton.mp member] at is <;> cases is
  next =>
    split at member
    next =>
      rw [List.mem_singleton.mp member] at is
      cases is
    next =>
      rcases List.mem_cons.mp member with rfl | last
      · cases is
      · rw [List.mem_singleton.mp last] at is
        cases is
  next =>
    split at member <;> rw [List.mem_singleton.mp member] at is <;> cases is
  next => exact solid_textItems member is
  next => exact solid_textItems member is
  next => cases member

theorem solid_scan {bytes : List UInt8} {item : Item} {text : String}
    (member : item ∈ (scan bytes).items) (is : item.content = .ok (.text text)) :
    Text.trim text ≠ "" := by
  have content : Except.ok (Event.text text) ∈ (scan bytes).items.map Item.content :=
    is ▸ List.mem_map_of_mem member
  have whole := contents_scanFrom [] (.start bytes) (.atStart (withoutMark bytes))
  rw [List.reverse_nil, List.map_nil, List.nil_append] at whole
  have yields : Except.ok (Event.text text) ∈
      (Reader.atStart (withoutMark bytes)).outline.contents := whole ▸ content
  rcases List.mem_append.mp yields with piece | refusal
  · obtain ⟨piece, -, there⟩ := List.mem_flatMap.mp piece
    obtain ⟨item, among, is⟩ := List.mem_map.mp there
    exact solid_itemsOf among is
  · obtain ⟨_, -, fault⟩ := List.mem_map.mp refusal
    cases fault

end Markup

theorem Node.foldl_withText (node : Node) (pieces : List String) :
    pieces.foldl Node.withText node = { node with text := Markup.collected node.text pieces } := by
  induction pieces generalizing node with
  | nil => rfl
  | cons piece rest ih => exact ih (node.withText piece)

end XmlSchema

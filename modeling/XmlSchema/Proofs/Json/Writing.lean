import XmlSchema.Proofs.Json.Grammar

set_option autoImplicit false

namespace XmlSchema

namespace Json

theorem unescape?_shortEscape? {c letter : Char} (short : shortEscape? c = some letter) :
    unescape? letter = some c := by
  unfold shortEscape? at short
  split at short <;> cases short <;> rfl

theorem codeUnit?_control {n : Nat} (control : n < 0x20) :
    codeUnit? '0' '0' (Nat.digitChar (n / 16)) (Nat.digitChar (n % 16)) = some n := by
  have every : ∀ n < 0x20,
      codeUnit? '0' '0' (Nat.digitChar (n / 16)) (Nat.digitChar (n % 16)) = some n := by decide
  exact every n control

theorem Spells.escape {value text rest : List Char} (c : Char) (others : Spells value text rest) :
    Spells (c :: value) (escape c ++ text) rest := by
  unfold Json.escape
  split
  next letter short => exact .short (unescape?_shortEscape? short) others
  next long =>
    split
    next control =>
      have unit := Spells.unit (codeUnit?_control control) (.inl (by omega)) others
      rwa [Char.ofNat_toNat] at unit
    next printed =>
      have quote : c ≠ '"' := by rintro rfl; cases long
      have backslash : c ≠ '\\' := by rintro rfl; cases long
      exact .plain quote backslash (by omega) others

theorem spells_quoted (value rest : List Char) :
    Spells value (value.flatMap escape ++ '"' :: rest) rest := by
  induction value with
  | nil => exact .ends rest
  | cons c value ih =>
      rw [List.flatMap_cons, List.append_assoc]
      exact ih.escape c

theorem skip_lineBreak (layout : Layout) (text : List Char) :
    skip (layout.lineBreak ++ text) = skip text := by
  cases layout with
  | compact => rfl
  | spread depth =>
      apply List.dropWhile_append_of_pos
      intro c member
      simp only [Layout.lineBreak, List.mem_cons, List.mem_replicate] at member
      obtain rfl | ⟨-, rfl⟩ := member <;> rfl

theorem skip_digits (value : Nat) (rest : List Char) :
    skip (Nat.toDigits 10 value ++ rest) = Nat.toDigits 10 value ++ rest := by
  obtain ⟨c, others, written, digit⟩ := toDigits_cons value
  have solid : isSpace c = false := by
    rw [Bool.eq_false_iff]
    intro space
    simp only [isSpace, Bool.or_eq_true, beq_iff_eq] at space
    obtain ((rfl | rfl) | rfl) | rfl := space <;> cases digit
  simp [written, skip, solid]

theorem Reads.congr {json : Json} {text other rest : List Char} (same : skip text = skip other)
    (reads : Reads json text rest) : Reads json other rest := by
  cases reads with
  | null word => exact .null (same ▸ word)
  | holds word => exact .holds (same ▸ word)
  | fails word => exact .fails (same ▸ word)
  | number digits stops => exact .number (same ▸ digits) stops
  | text opens spells => exact .text (same ▸ opens) spells
  | nil opens closes => exact .nil (same ▸ opens) closes
  | list opens first others => exact .list (same ▸ opens) first others
  | empty opens closes => exact .empty (same ▸ opens) closes
  | object opens first others => exact .object (same ▸ opens) first others

theorem ReadsField.congr {field : String × Json} {text other rest : List Char}
    (same : skip text = skip other) (reads : ReadsField field text rest) :
    ReadsField field other rest := by
  cases reads with
  | field opens spells colon reads => exact .field (same ▸ opens) spells colon reads

theorem ReadsField.broken {layout : Layout} {field : String × Json} {text rest : List Char}
    (reads : ReadsField field text rest) : ReadsField field (layout.lineBreak ++ text) rest :=
  reads.congr (skip_lineBreak layout text).symm

theorem Reads.broken {layout : Layout} {json : Json} {text rest : List Char}
    (reads : Reads json text rest) : Reads json (layout.lineBreak ++ text) rest :=
  reads.congr (skip_lineBreak layout text).symm

theorem stops_lineBreak {layout : Layout} {c : Char} {rest : List Char}
    (other : (c.isDigit || c == '.' || c == 'e' || c == 'E') = false) :
    Stops (layout.lineBreak ++ c :: rest) := by
  intro first leads
  cases layout <;> cases leads
  next => exact other
  next => rfl

theorem stops_comma (rest : List Char) : Stops (',' :: rest) := by
  intro first leads
  cases leads
  rfl

theorem stops_writeItems (layout : Layout) (items : List Json) {rest : List Char}
    (stops : Stops rest) : Stops (writeItems layout items rest) := by
  cases items with
  | nil => exact stops
  | cons => exact stops_comma _

theorem stops_writeFields (layout : Layout) (fields : List (String × Json)) {rest : List Char}
    (stops : Stops rest) : Stops (writeFields layout fields rest) := by
  cases fields with
  | nil => exact stops
  | cons => exact stops_comma _

mutual

/-- A value is read from its text and no further. -/
theorem reads_write (layout : Layout) (json : Json) {rest : List Char} (stops : Stops rest) :
    Reads json (write layout json rest) rest := by
  match json with
  | .null => exact .null rfl
  | .bool true => exact .holds rfl
  | .bool false => exact .fails rfl
  | .number value => exact .number (skip_digits value rest) stops
  | .text value =>
      apply Reads.text rfl
      simpa [quoted] using spells_quoted value.toList rest
  | .list [] => exact .nil rfl rfl
  | .list (item :: items) =>
      -- A comma, a line break or the bracket comes next, so no number in the list runs on.
      have ends : Stops (layout.lineBreak ++ ']' :: rest) := stops_lineBreak rfl
      have first := reads_write layout.inner item (stops_writeItems layout.inner items ends)
      have closes := skip_lineBreak layout (']' :: rest)
      exact .list rfl first.broken (readsItems_write layout.inner items ends closes)
  | .object [] => exact .empty rfl rfl
  | .object (field :: fields) =>
      have ends : Stops (layout.lineBreak ++ '\x7d' :: rest) := stops_lineBreak rfl
      have first := readsField_write layout.inner field (stops_writeFields layout.inner fields ends)
      have closes := skip_lineBreak layout ('\x7d' :: rest)
      exact .object rfl first.broken (readsFields_write layout.inner fields ends closes)

theorem readsItems_write (layout : Layout) (items : List Json) {text rest : List Char}
    (stops : Stops text) (closes : skip text = ']' :: rest) :
    ReadsItems items (writeItems layout items text) rest := by
  match items with
  | [] => exact .ends closes
  | item :: items =>
      have first := reads_write layout item (stops_writeItems layout items stops)
      exact .next rfl first.broken (readsItems_write layout items stops closes)

theorem readsField_write (layout : Layout) (field : String × Json) {rest : List Char}
    (stops : Stops rest) : ReadsField field (writeField layout field rest) rest := by
  match field with
  | (key, value) =>
      have reads := reads_write layout value stops
      have spells := spells_quoted key.toList (layout.colon ++ write layout value rest)
      cases layout with
      | compact => exact .field rfl (by simpa using spells) rfl reads
      | spread depth =>
          have spaced : skip (write (.spread depth) value rest) =
            skip (' ' :: write (.spread depth) value rest) := rfl
          exact .field rfl (by simpa using spells) rfl (reads.congr spaced)

theorem readsFields_write (layout : Layout) (fields : List (String × Json)) {text rest : List Char}
    (stops : Stops text) (closes : skip text = '\x7d' :: rest) :
    ReadsFields fields (writeFields layout fields text) rest := by
  match fields with
  | [] => exact .ends closes
  | field :: fields =>
      have first := readsField_write layout field (stops_writeFields layout fields stops)
      exact .next rfl first.broken (readsFields_write layout fields stops closes)

end

theorem denotes_write (layout : Layout) (json : Json) :
    Denotes (String.ofList (write layout json [])) json := by
  have alone : Stops [] := fun c leads => by cases leads
  exact ⟨[], by simpa using reads_write layout json alone, rfl⟩

theorem denotes_write_iff {layout : Layout} {json other : Json} :
    Denotes (String.ofList (write layout json [])) other ↔ other = json := by
  constructor
  · intro denotes
    exact denotes.unique (denotes_write layout json)
  · rintro rfl
    exact denotes_write layout other

theorem write_inj {layout : Layout} {json other : Json} :
    String.ofList (write layout json []) = String.ofList (write layout other []) ↔
      json = other := by
  constructor
  · intro same
    apply denotes_write_iff.mp
    rw [← same]
    exact denotes_write layout json
  · rintro rfl
    rfl

end Json

end XmlSchema

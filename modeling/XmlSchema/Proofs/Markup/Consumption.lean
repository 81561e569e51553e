import XmlSchema.Markup.Construct

set_option autoImplicit false

namespace XmlSchema.Markup

theorem drop_length_takeWhile (p : UInt8 -> Bool) (bytes : List UInt8) :
    bytes.drop (bytes.takeWhile p).length = bytes.dropWhile p := by
  induction bytes with
  | nil => rfl
  | cons b rest ih =>
    cases holds : p b <;> simp [holds, ih]

theorem takeTo_cases (mark : UInt8) (bytes : List UInt8) :
    takeTo mark bytes = (bytes, bytes.length, []) ∨
      ∃ taken rest, bytes = taken ++ mark :: rest ∧
        takeTo mark bytes = (taken, taken.length + 1, rest) := by
  have whole := List.takeWhile_append_dropWhile (p := (· != mark)) (l := bytes)
  have first := List.head?_dropWhile_not (· != mark) bytes
  unfold takeTo
  cases found : bytes.dropWhile (· != mark) with
  | nil =>
    rw [found, List.append_nil] at whole
    simp [whole]
  | cons b rest =>
    simp only [found, List.head?_cons, bne_eq_false_iff_eq] at first
    rw [found, first] at whole
    exact .inr ⟨_, _, whole.symm, rfl⟩

theorem drop_takeTo (mark : UInt8) (bytes : List UInt8) :
    (takeTo mark bytes).2.2 = bytes.drop (takeTo mark bytes).2.1 := by
  rcases takeTo_cases mark bytes with all | ⟨taken, rest, rfl, found⟩
  · simp [all]
  · simp [found]

theorem prefix_takeTo (mark : UInt8) (bytes : List UInt8) :
    (takeTo mark bytes).1 <+: bytes := by
  rcases takeTo_cases mark bytes with all | ⟨taken, rest, rfl, found⟩
  · simp [all]
  · simp [found]

theorem length_takeTo_le (mark : UInt8) (bytes : List UInt8) :
    (takeTo mark bytes).1.length ≤ (takeTo mark bytes).2.1 := by
  rcases takeTo_cases mark bytes with all | ⟨taken, rest, rfl, found⟩
  · simp [all]
  · simp [found]

theorem takeTag_spec (quote : Option UInt8) (taken bytes : List UInt8) :
    (takeTag quote taken bytes).1 <+: taken.reverse ++ bytes ∧
      ((takeTag quote taken bytes).2.2 = [] ∨
        (takeTag quote taken bytes).2.2 =
          (taken.reverse ++ bytes).drop (takeTag quote taken bytes).2.1) := by
  induction bytes generalizing quote taken with
  | nil => simp [takeTag]
  | cons b rest ih =>
    have shifted : (b :: taken).reverse ++ rest = taken.reverse ++ b :: rest := by simp
    cases quote with
    | some mark =>
      have later := ih (if b = mark then none else some mark) (b :: taken)
      rw [shifted] at later
      simpa only [takeTag] using later
    | none =>
      by_cases closing : b = greaterThan
      · subst closing
        have behind : (taken.reverse ++ greaterThan :: rest).drop (taken.length + 1) = rest := by
          rw [← shifted, ← List.length_cons, ← List.length_reverse, List.drop_left]
        simp only [takeTag]
        exact ⟨List.prefix_append .., .inr behind.symm⟩
      · have later := ih (if b = 34 || b = 39 then some b else none) (b :: taken)
        rw [shifted] at later
        simpa only [takeTag, if_neg closing] using later

theorem takeClosed_spec {closes : List UInt8 -> Bool} {taken bytes content rest : List UInt8}
    (found : takeClosed closes taken bytes = some (content, rest)) :
    taken.reverse ++ bytes = content ++ greaterThan :: rest := by
  induction bytes generalizing taken with
  | nil => simp [takeClosed] at found
  | cons b bytes ih =>
    simp only [takeClosed] at found
    split at found
    next closing =>
      simp only [Option.some.injEq, Prod.mk.injEq] at found
      obtain ⟨rfl, rfl⟩ := found
      simp at closing
      rw [closing.1]
    next =>
      have later := ih found
      simpa using later

theorem prefix_trimEnd (bytes : List UInt8) : trimEnd bytes <+: bytes := by
  have suffix := List.reverse_prefix.mpr (List.dropWhile_suffix (l := bytes.reverse) isSpace)
  rwa [List.reverse_reverse] at suffix

theorem prefix_trimEndUnlessAll (bytes : List UInt8) : trimEndUnlessAll bytes <+: bytes := by
  unfold trimEndUnlessAll
  split
  · exact List.prefix_rfl
  · exact prefix_trimEnd bytes

namespace Construct

/-- The bytes that a tag starts with; other constructs are not told by theirs. -/
def spelling : Construct -> List UInt8
  | .start content _ => lessThan :: content
  | .empty content _ => lessThan :: (content ++ [slash])
  | .close name => lessThan :: slash :: name
  | _ => []

def isTag : Construct -> Bool
  | .start _ _ => true
  | .empty _ _ => true
  | .close _ => true
  | _ => false

def Turns (construct : Construct) (before after : List (List UInt8)) : Prop :=
  match construct with
  | .start _ name => after = name :: before
  | .close name => before = name :: after
  | _ => after = before

end Construct

namespace Reader

structure Reads (reader : Reader) (construct : Construct) (next : Reader) : Prop where
  used : ∃ n, next.offset = reader.offset + n ∧ (next.rest = [] ∨ next.rest = reader.rest.drop n)
  inTag : next.inTag = reader.inTag
  spelled : construct.spelling <+: lessThan :: reader.rest
  turns : construct.Turns reader.opened next.opened

variable {reader next : Reader} {construct : Construct} {after : List UInt8}

theorem spelling_enclosed {enclosure : Enclosure} {content : List UInt8}
    (made : enclosed enclosure content = .ok construct) :
    construct.spelling = [] ∧ ∀ names, construct.Turns names names := by
  have simple : construct = .ignored ∨ ∃ bytes, construct = .cdata bytes := by
    unfold enclosed at made
    repeat' split at made
    all_goals cases made
    all_goals simp
  rcases simple with rfl | ⟨bytes, rfl⟩ <;> exact ⟨rfl, fun _ => rfl⟩

theorem reads_bangMarkup (rest : reader.rest = bang :: after)
    (read : reader.bangMarkup after = .read construct next) : reader.Reads construct next := by
  unfold bangMarkup at read
  split at read
  next => cases read
  next =>
    split at read
    next => cases read
    next =>
      split at read
      next => cases read
      next content behind closed =>
        have spec := takeClosed_spec closed
        dsimp only at read
        split at read
        next => cases read
        next made enclosed =>
          cases read
          obtain ⟨spelling, turns⟩ := spelling_enclosed enclosed
          have passed : reader.rest.drop (content.length + 2) = behind := by
            simp only [List.reverse_nil, List.nil_append] at spec
            rw [rest, spec, List.drop_succ_cons, ← List.drop_drop, List.drop_left]
            rfl
          exact ⟨⟨content.length + 2, rfl, .inr passed.symm⟩, rfl, spelling ▸ List.nil_prefix,
            turns _⟩

theorem reads_closeMarkup (rest : reader.rest = slash :: after)
    (read : reader.closeMarkup after = .read construct next) : reader.Reads construct next := by
  unfold closeMarkup at read
  dsimp only at read
  split at read
  next => cases read
  next innermost outer opened =>
    split at read
    next same =>
      cases read
      have passed := drop_takeTo greaterThan after
      have name := (prefix_trimEndUnlessAll _).trans (prefix_takeTo greaterThan after)
      refine ⟨⟨(takeTo greaterThan after).2.1 + 1, by simp [Nat.add_assoc], .inr ?_⟩, rfl, ?_, ?_⟩
      · rw [rest, List.drop_succ_cons]
        exact passed
      · rw [rest]
        simpa [Construct.spelling] using name
      · rw [opened, ← same]
        rfl
    next => cases read

theorem reads_questionMarkup (rest : reader.rest = questionMark :: after)
    (read : reader.questionMarkup after = .read construct next) : reader.Reads construct next := by
  unfold questionMarkup at read
  dsimp only at read
  split at read
  next =>
    cases read
    refine ⟨⟨(takeTo greaterThan after).2.1 + 1, by simp [Nat.add_assoc], .inr ?_⟩, rfl,
      List.nil_prefix, rfl⟩
    rw [rest, List.drop_succ_cons]
    exact drop_takeTo greaterThan after
  next => cases read

theorem reads_tagMarkup (read : reader.tagMarkup = .read construct next) :
    reader.Reads construct next := by
  have spec := takeTag_spec none [] reader.rest
  simp only [List.reverse_nil, List.nil_append] at spec
  unfold tagMarkup at read
  dsimp only at read
  split at read
  next slashed =>
    cases read
    -- the slash that makes the tag an empty one is the last byte of its content
    have whole : (takeTag none [] reader.rest).1.dropLast ++ [slash] =
        (takeTag none [] reader.rest).1 := by
      obtain ⟨front, ends⟩ := List.getLast?_eq_some_iff.mp (eq_of_beq slashed)
      rw [ends, List.dropLast_concat]
    exact ⟨⟨_, rfl, spec.2⟩, rfl, by simpa [Construct.spelling, whole] using spec.1, rfl⟩
  next =>
    cases read
    exact ⟨⟨_, rfl, spec.2⟩, rfl, by simpa [Construct.spelling] using spec.1, rfl⟩

theorem reads_markup (read : reader.markup = .read construct next) :
    reader.Reads construct next := by
  unfold markup at read
  split at read
  next => cases read
  next b after rest =>
    split at read
    next isBang => exact reads_bangMarkup (isBang ▸ rest) read
    next =>
      split at read
      next isSlash => exact reads_closeMarkup (isSlash ▸ rest) read
      next =>
        split at read
        next isQuestion => exact reads_questionMarkup (isQuestion ▸ rest) read
        next => exact reads_tagMarkup read

theorem rest_ne_nil (read : reader.markup = .read construct next) : reader.rest ≠ [] := by
  intro empty
  rw [markup, empty] at read
  cases read

theorem offset_le_given_back (reader : Reader) (bytes : List UInt8) :
    reader.offset ≤ reader.offset + (takeTo greaterThan bytes).2.1 + 1 -
      ((takeTo greaterThan bytes).1.length + 1) := by
  have taken := length_takeTo_le greaterThan bytes
  omega

variable {fault : ReadFault} {position : Nat}

theorem offset_le_bangMarkup (refused : reader.bangMarkup after = .refused fault position) :
    reader.offset ≤ position := by
  unfold bangMarkup at refused
  dsimp only at refused
  repeat' split at refused
  all_goals cases refused
  all_goals omega

theorem offset_le_closeMarkup (refused : reader.closeMarkup after = .refused fault position) :
    reader.offset ≤ position := by
  unfold closeMarkup at refused
  dsimp only at refused
  repeat' split at refused
  all_goals cases refused
  all_goals exact offset_le_given_back reader after

theorem offset_le_questionMarkup (refused : reader.questionMarkup after = .refused fault position) :
    reader.offset ≤ position := by
  unfold questionMarkup at refused
  dsimp only at refused
  split at refused
  · cases refused
  · cases refused
    exact offset_le_given_back reader after

theorem offset_le_markup (refused : reader.markup = .refused fault position) :
    reader.offset ≤ position := by
  unfold markup at refused
  split at refused
  next => cases refused
  next =>
    split at refused
    next => exact offset_le_bangMarkup refused
    next =>
      split at refused
      next => exact offset_le_closeMarkup refused
      next =>
        split at refused
        next => exact offset_le_questionMarkup refused
        next =>
          unfold tagMarkup at refused
          dsimp only at refused
          split at refused <;> cases refused

def behind (reader : Reader) : Reader :=
  if reader.inTag then { reader with inTag := false }
  else
    { reader with
      rest := (reader.rest.dropWhile isSpace).tail
      offset := reader.offset + (reader.rest.takeWhile isSpace).length + 1 }

/-- The place of that `<`. -/
def bracket (reader : Reader) : Nat := reader.behind.offset - 1

def Bracketed (reader : Reader) : Prop :=
  reader.inTag = true ∨
    reader.inTag = false ∧ ∃ after, reader.rest.dropWhile isSpace = lessThan :: after

theorem opened_behind (reader : Reader) : reader.behind.opened = reader.opened := by
  unfold behind
  split <;> rfl

theorem inTag_behind (reader : Reader) : reader.behind.inTag = false := by
  unfold behind
  split
  next => rfl
  next outside => exact Bool.eq_false_iff.mpr outside

structure ReadsText (reader : Reader) (construct : Construct) (next : Reader) : Prop where
  outside : reader.inTag = false
  text : ∃ bytes, construct = .text bytes
  inTag : next.inTag = true
  opened : next.opened = reader.opened
  used : ∃ n, next.offset = reader.offset + n + 1 ∧
    (next.rest = [] ∨ reader.rest.drop n = lessThan :: next.rest)

theorem behind_of_solid (outside : ¬ reader.inTag = true) {b : UInt8}
    (solid : reader.rest.dropWhile isSpace = b :: after) :
    reader.behind = { reader with
      rest := after
      offset := reader.offset + (reader.rest.takeWhile isSpace).length + 1 } := by
  rw [behind, if_neg outside, solid]
  rfl

theorem readsText_of_solid (outside : reader.inTag = false) {b : UInt8}
    (solid : reader.rest.dropWhile isSpace = b :: after) :
    reader.ReadsText (.text (trimEndUnlessAll (takeTo lessThan (b :: after)).1))
      { reader with
        rest := (takeTo lessThan (b :: after)).2.2
        offset := reader.offset + (reader.rest.takeWhile isSpace).length +
          (takeTo lessThan (b :: after)).2.1
        inTag := true } := by
  refine ⟨outside, ⟨_, rfl⟩, rfl, rfl, ?_⟩
  have spaces := drop_length_takeWhile isSpace reader.rest
  rw [solid] at spaces
  rcases takeTo_cases lessThan (b :: after) with all | ⟨taken, rest, whole, found⟩
  · -- the byte that is no white space is consumed, if nothing else is
    refine ⟨(reader.rest.takeWhile isSpace).length + after.length, ?_, .inl (by rw [all])⟩
    simp only [all, List.length_cons]
    omega
  · refine ⟨(reader.rest.takeWhile isSpace).length + taken.length, ?_, .inr ?_⟩
    · simp only [found]
      omega
    · simp only [found]
      rw [← List.drop_drop, spaces, whole, List.drop_left]

theorem step_cases (read : reader.step = .read construct next) :
    (reader.Bracketed ∧ reader.behind.rest ≠ [] ∧ reader.behind.Reads construct next) ∨
      reader.ReadsText construct next := by
  unfold step at read
  split at read
  next inTag =>
    refine .inl ⟨.inl inTag, ?_⟩
    rw [behind, if_pos inTag]
    exact ⟨rest_ne_nil read, reads_markup read⟩
  next outside =>
    dsimp only at read
    split at read
    next => cases read
    next b after solid =>
      split at read
      next isBracket =>
        refine .inl ⟨.inr ⟨Bool.eq_false_iff.mpr outside, after, isBracket ▸ solid⟩, ?_⟩
        rw [behind_of_solid outside solid]
        exact ⟨rest_ne_nil read, reads_markup read⟩
      next =>
        cases read
        exact .inr (readsText_of_solid (Bool.eq_false_iff.mpr outside) solid)

theorem step_refused (refused : reader.step = .refused fault position) :
    reader.Bracketed ∧ reader.behind.offset ≤ position := by
  unfold step at refused
  split at refused
  next inTag =>
    refine ⟨.inl inTag, ?_⟩
    rw [behind, if_pos inTag]
    exact offset_le_markup refused
  next outside =>
    dsimp only at refused
    split at refused
    next => cases refused
    next b after solid =>
      split at refused
      next isBracket =>
        refine ⟨.inr ⟨Bool.eq_false_iff.mpr outside, after, isBracket ▸ solid⟩, ?_⟩
        rw [behind_of_solid outside solid]
        exact offset_le_markup refused
      next => cases refused

end Reader

end XmlSchema.Markup

import XmlSchema.Proofs.Markup.Outline

set_option autoImplicit false

namespace XmlSchema.Markup

def lineAt (input : List UInt8) (place : Nat) : Nat :=
  1 + (input.take place).count LineCounter.newline

theorem lineAt_min_length (input : List UInt8) (place : Nat) :
    lineAt input (min place input.length) = lineAt input place := by
  rw [lineAt, lineAt, ← List.take_eq_take_min]

namespace LineCounter

def upTo (input : List UInt8) (place : Nat) : LineCounter :=
  ⟨lineAt input place, place, input.drop place⟩

variable {input : List UInt8} {counted : Nat}

theorem advanceTo_upTo {position : Nat} (within : counted ≤ input.length)
    (forward : counted ≤ position) :
    (upTo input counted).advanceTo position = upTo input (min position input.length) := by
  have passed : counted + ((input.drop counted).take (position - counted)).length =
      min position input.length := by
    simp only [List.length_take, List.length_drop]
    omega
  have lines : (input.take counted) ++ (input.drop counted).take (position - counted) =
      input.take (min position input.length) := by
    rw [← List.take_add, List.take_eq_take_iff]
    omega
  have ahead : (input.drop counted).drop (position - counted) =
      input.drop (min position input.length) := by
    rw [List.drop_drop, List.drop_eq_drop_iff]
    omega
  simp only [advanceTo, upTo, lineAt]
  rw [passed, ahead, ← lines, List.count_append, Nat.add_assoc]

theorem markTag_upTo {before after : Nat} {gap rest : List UInt8} (forward : counted ≤ before)
    (window : input.drop before = gap ++ lessThan :: rest) (blank : lessThan ∉ gap)
    (inside : before + gap.length < after) :
    (upTo input counted).markTag before after = upTo input (before + gap.length) := by
  have length := congrArg List.length window
  simp only [List.length_drop, List.length_append, List.length_cons] at length
  have clear : ∀ b ∈ gap, (b != lessThan) = true := fun b member =>
    bne_iff_ne.mpr fun same => blank (same ▸ member)
  have first : ((((input.drop counted).drop (before - counted)).take (after - before)).takeWhile
      (· != lessThan)).length = gap.length := by
    obtain ⟨more, enough⟩ : ∃ more, after - before = gap.length + (more + 1) :=
      ⟨after - before - gap.length - 1, by omega⟩
    rw [List.drop_drop, Nat.add_sub_cancel' forward, window, enough, List.take_length_add_append,
      List.take_succ_cons, List.takeWhile_append_of_pos clear]
    simp
  rw [markTag, show (upTo input counted).ahead = input.drop counted from rfl,
    show (upTo input counted).counted = counted from rfl, first,
    advanceTo_upTo (by omega) (by omega), Nat.min_eq_left (by omega)]

end LineCounter

namespace Reader

def unread (reader : Reader) : List UInt8 :=
  if reader.inTag then lessThan :: reader.rest else reader.rest

structure Stands (input : List UInt8) (reader : Reader) : Prop where
  consumed : reader.inTag = true → 0 < reader.offset
  unread : reader.rest ≠ [] → input.drop reader.position = reader.unread

theorem atStart_stands (input : List UInt8) : (atStart input).Stands input :=
  ⟨nofun, fun _ => List.drop_zero⟩

variable {input : List UInt8} {reader next : Reader} {construct : Construct}

theorem Stands.gap (stands : reader.Stands input) (bracketed : reader.Bracketed)
    (more : reader.behind.rest ≠ []) :
    ∃ gap, lessThan ∉ gap ∧ input.drop reader.position = gap ++ lessThan :: reader.behind.rest ∧
      reader.bracket = reader.position + gap.length ∧
      reader.behind.offset = reader.bracket + 1 := by
  rcases bracketed with inTag | ⟨outside, after, solid⟩
  -- the `<` was consumed with the text before it, so there is no gap
  · have unread := stands.unread
    have positive := stands.consumed inTag
    simp only [bracket, behind, position, Reader.unread, if_pos inTag] at more unread ⊢
    exact ⟨[], by simp, unread more, rfl, by omega⟩
  -- else the gap is the white space that is skipped, and `<` is none
  · have apart := List.takeWhile_append_dropWhile (p := isSpace) (l := reader.rest)
    have filled : reader.rest ≠ [] := by
      rintro empty
      simp [empty] at solid
    have unread := stands.unread filled
    simp only [bracket, behind, position, Reader.unread, outside, Bool.false_eq_true, if_false]
      at unread ⊢
    refine ⟨reader.rest.takeWhile isSpace, ?_, ?_, by omega, by omega⟩
    · intro member
      have space := List.all_takeWhile (p := isSpace) (l := reader.rest)
      simpa [isSpace, lessThan] using List.all_eq_true.mp space lessThan member
    · rw [unread, solid, List.tail_cons, ← solid, apart]

theorem Stands.drop_bracket (stands : reader.Stands input) (bracketed : reader.Bracketed)
    (more : reader.behind.rest ≠ []) :
    input.drop reader.bracket = lessThan :: reader.behind.rest := by
  obtain ⟨gap, -, window, place, -⟩ := stands.gap bracketed more
  rw [place, ← List.drop_drop, window, List.drop_left]

theorem Stands.read (stands : reader.Stands input) (read : reader.step = .read construct next) :
    next.Stands input := by
  rcases step_cases read with ⟨bracketed, more, reads⟩ | text
  · have outside : next.inTag = false := reads.inTag.trans reader.inTag_behind
    -- a tag that the input ends is not counted as consumed, but then nothing is left
    obtain ⟨n, used, ended | rest⟩ := reads.used
    · exact ⟨by simp [outside], fun filled => absurd ended filled⟩
    · obtain ⟨-, -, -, -, one⟩ := stands.gap bracketed more
      have behind := congrArg (List.drop (n + 1)) (stands.drop_bracket bracketed more)
      simp only [List.drop_drop, List.drop_succ_cons] at behind
      refine ⟨by simp [outside], fun _ => ?_⟩
      simp only [position, Reader.unread, outside, Bool.false_eq_true, if_false]
      rw [used, one, rest, ← behind]
      congr 1
      omega
  · obtain ⟨n, used, ended | rest⟩ := text.used
    · exact ⟨fun _ => by omega, fun filled => absurd ended filled⟩
    · have filled : reader.rest ≠ [] := by
        rintro empty
        simp [empty] at rest
      have unread := stands.unread filled
      refine ⟨fun _ => by omega, fun _ => ?_⟩
      simp only [position, Reader.unread, text.inTag, text.outside, if_true, Bool.false_eq_true,
        if_false] at unread ⊢
      rw [used, Nat.add_sub_cancel, ← List.drop_drop, unread, rest]

theorem position_le_bracket (reader : Reader) : reader.position ≤ reader.bracket := by
  unfold position bracket behind
  split <;> simp only <;> omega

theorem Stands.placeOf_le (stands : reader.Stands input)
    (read : reader.step = .read construct next) :
    reader.position ≤ reader.placeOf construct ∧ reader.placeOf construct ≤ next.position ∧
      (construct.isTag = true → reader.placeOf construct < next.position) := by
  have ahead := reader.position_le_bracket
  rcases step_cases read with ⟨bracketed, more, reads⟩ | text
  · obtain ⟨-, -, -, -, one⟩ := stands.gap bracketed more
    obtain ⟨n, used, -⟩ := reads.used
    have outside : next.inTag = false := reads.inTag.trans reader.inTag_behind
    have passed : reader.bracket < next.position := by
      simp only [position, outside, Bool.false_eq_true, if_false]
      omega
    unfold placeOf
    split <;> omega
  · obtain ⟨n, used, -⟩ := text.used
    obtain ⟨bytes, rfl⟩ := text.text
    simp only [placeOf, Construct.isTag, position, text.inTag, text.outside]
    simp
    omega

theorem Stands.tag (stands : reader.Stands input) (read : reader.step = .read construct next)
    (tag : construct.isTag = true) : construct.spelling <+: input.drop (reader.placeOf construct) := by
  rw [placeOf, if_pos tag]
  rcases step_cases read with ⟨bracketed, more, reads⟩ | text
  · rw [stands.drop_bracket bracketed more]
    exact reads.spelled
  · obtain ⟨bytes, rfl⟩ := text.text
    simp [Construct.isTag] at tag

theorem Stands.markTag (stands : reader.Stands input) (read : reader.step = .read construct next)
    (tag : construct.isTag = true) {counted : Nat} (forward : counted ≤ reader.position) :
    (LineCounter.upTo input counted).markTag reader.position next.position =
      LineCounter.upTo input (reader.placeOf construct) := by
  have inside := (stands.placeOf_le read).2.2 tag
  rw [placeOf, if_pos tag] at inside ⊢
  rcases step_cases read with ⟨bracketed, more, -⟩ | text
  · obtain ⟨gap, blank, window, place, -⟩ := stands.gap bracketed more
    rw [place] at inside ⊢
    exact LineCounter.markTag_upTo forward window blank inside
  · obtain ⟨bytes, rfl⟩ := text.text
    simp [Construct.isTag] at tag

theorem Stands.placeOf_le_length (stands : reader.Stands input)
    (read : reader.step = .read construct next) (tag : construct.isTag = true) :
    reader.placeOf construct ≤ input.length := by
  have spelled := (stands.tag read tag).length_le
  have written : construct.spelling ≠ [] := by
    cases construct <;> simp_all [Construct.isTag, Construct.spelling]
  have positive := List.length_pos_iff.mpr written
  simp only [List.length_drop] at spelled
  omega

theorem Stands.locate (stands : reader.Stands input) (read : reader.step = .read construct next)
    {counted : Nat} (within : counted ≤ input.length) (forward : counted ≤ reader.position) :
    ∃ reached, locate (LineCounter.upTo input counted) reader.position next.position construct =
        LineCounter.upTo input reached ∧
      reached ≤ input.length ∧ reached ≤ next.position ∧
      (construct = .ignored ∨ lineAt input reached = lineAt input (reader.placeOf construct)) := by
  obtain ⟨before, after, -⟩ := stands.placeOf_le read
  cases tag : construct.isTag with
  | true =>
    refine ⟨reader.placeOf construct, ?_, stands.placeOf_le_length read tag, after, .inr rfl⟩
    rw [← stands.markTag read tag forward]
    cases construct <;> first | rfl | simp [Construct.isTag] at tag
  | false =>
    -- what is ignored leaves the counter behind, and yields nothing that could tell
    have moved : (LineCounter.upTo input counted).advanceTo reader.position =
        LineCounter.upTo input (min reader.position input.length) :=
      LineCounter.advanceTo_upTo within forward
    have place : reader.placeOf construct = reader.position := by simp [placeOf, tag]
    have line := lineAt_min_length input reader.position
    cases construct with
    | ignored => exact ⟨counted, rfl, within, by omega, .inl rfl⟩
    | text bytes => exact ⟨_, moved, by omega, by omega, .inr (place ▸ line)⟩
    | cdata bytes => exact ⟨_, moved, by omega, by omega, .inr (place ▸ line)⟩
    | _ => simp [Construct.isTag] at tag

/-- The pieces stand where they are written, one behind the other. -/
theorem Stands.outline (stands : reader.Stands input) :
    (∀ piece ∈ reader.outline.pieces, reader.position ≤ piece.place ∧
      (piece.construct.isTag = true → piece.construct.spelling <+: input.drop piece.place)) ∧
    reader.outline.pieces.Pairwise (fun first second =>
      first.place ≤ second.place ∧ (first.construct.isTag = true → first.place < second.place)) := by
  fun_induction Reader.outline reader with
  | case1 reader finished => simp
  | case2 reader fault position refused => simp
  | case3 reader construct next read later ih =>
    obtain ⟨placed, apart⟩ := ih (stands.read read)
    obtain ⟨before, after, behind⟩ := stands.placeOf_le read
    constructor
    · intro piece member
      rcases List.mem_cons.mp member with rfl | member
      · exact ⟨before, stands.tag read⟩
      · exact ⟨by have := (placed piece member).1; omega, (placed piece member).2⟩
    · refine List.pairwise_cons.mpr ⟨fun piece member => ?_, apart⟩
      have follows := (placed piece member).1
      exact ⟨by simp only; omega, fun tag => by have := behind tag; simp only; omega⟩

end Reader

def Piece.items (input : List UInt8) (piece : Piece) : List Item :=
  itemsOf (lineAt input piece.place) piece.construct

def Outline.items (input : List UInt8) (outline : Outline) : List Item :=
  outline.pieces.flatMap (·.items input) ++
    outline.refusal.toList.map fun refusal =>
      ⟨lineAt input refusal.2, .error (.reader refusal.1)⟩

theorem items_scanFrom {input : List UInt8} {reader : Reader} (stands : reader.Stands input)
    {counter : LineCounter} {counted : Nat} (counts : counter = .upTo input counted)
    (within : counted ≤ input.length) (forward : counted ≤ reader.position) (read : List Item) :
    (scanFrom read counter reader).items = read.reverse ++ reader.outline.items input := by
  -- the counter stays that of a place which the reader has reached
  fun_induction scanFrom read counter reader generalizing counted with
  | case1 read counter reader finished =>
    simp [Reader.outline_of_finished finished, Outline.items]
  | case2 read counter reader fault position refused moved =>
    have ahead := reader.position_le_bracket
    have behind := (Reader.step_refused refused).2
    have reached : moved = .upTo input (min position input.length) := by
      rw [← LineCounter.advanceTo_upTo within (by unfold Reader.bracket at ahead; omega), ← counts]
    have line : moved.line = lineAt input position :=
      (congrArg LineCounter.line reached).trans (lineAt_min_length input position)
    simp [Reader.outline_of_refused refused, Outline.items, line]
  | case3 read counter reader construct next found moved ih =>
    obtain ⟨reached, located, within, behind, line⟩ := stands.locate found within forward
    rw [← counts] at located
    have here : itemsOf moved.line construct =
        Piece.items input ⟨reader.placeOf construct, construct⟩ := by
      rcases line with rfl | line
      · rfl
      · rw [Piece.items, ← line]
        exact congrArg (itemsOf · construct) (congrArg LineCounter.line located)
    rw [ih (stands.read found) located within behind]
    simp [Reader.outline_of_read found, Outline.items, here]

/-- No item is behind the next one, nor behind the line reached. -/
def Scan.Ordered (scan : Scan) : Prop :=
  scan.items.Pairwise (fun first second => first.line ≤ second.line) ∧
    ∀ item ∈ scan.items, item.line ≤ scan.line

theorem Scan.Ordered.append {scan : Scan} (ordered : scan.Ordered) {line : Nat}
    (forward : scan.line ≤ line) {items : List Item} (here : ∀ item ∈ items, item.line = line) :
    Scan.Ordered ⟨scan.items ++ items, line⟩ := by
  obtain ⟨apart, before⟩ := ordered
  constructor
  · refine List.pairwise_append.mpr ⟨apart, ?_, fun first old second new => ?_⟩
    · apply List.pairwise_of_forall_mem_list
      intro first left second right
      simp [here first left, here second right]
    · rw [here second new]
      exact Nat.le_trans (before first old) forward
  · intro item member
    rcases List.mem_append.mp member with old | new
    · exact Nat.le_trans (before item old) forward
    · simp [here item new]

namespace LineCounter

def last (counter : LineCounter) : Nat := counter.line + counter.ahead.count newline

theorem advanceTo_forward (counter : LineCounter) (position : Nat) :
    counter.line ≤ (counter.advanceTo position).line ∧
      (counter.advanceTo position).last = counter.last := by
  have split := congrArg (List.count newline)
    (List.take_append_drop (position - counter.counted) counter.ahead)
  rw [List.count_append] at split
  simp only [advanceTo, last]
  omega

theorem locate_forward (counter : LineCounter) (before after : Nat) (construct : Construct) :
    counter.line ≤ (locate counter before after construct).line ∧
      (locate counter before after construct).last = counter.last := by
  cases construct with
  | ignored => exact ⟨Nat.le_refl _, rfl⟩
  | _ => exact advanceTo_forward ..

end LineCounter

theorem scanFrom_ordered (read : List Item) (counter : LineCounter) (reader : Reader)
    (ordered : Scan.Ordered ⟨read.reverse, counter.line⟩) :
    (scanFrom read counter reader).Ordered ∧
      (scanFrom read counter reader).line ≤ counter.last := by
  fun_induction scanFrom read counter reader with
  | case1 read counter reader finished => exact ⟨ordered, Nat.le_add_right ..⟩
  | case2 read counter reader fault position refused moved =>
    -- the counter moves once more, for the line of the fault
    obtain ⟨forward, last⟩ := counter.advanceTo_forward position
    have here : ∀ item ∈ [Item.mk moved.line (.error (.reader fault))], item.line = moved.line := by
      simp
    refine ⟨by simpa using ordered.append forward here, ?_⟩
    rw [← last]
    exact Nat.le_add_right ..
  | case3 read counter reader construct next found moved ih =>
    obtain ⟨forward, last⟩ := counter.locate_forward reader.position next.position construct
    have here : ∀ item ∈ itemsOf moved.line construct, item.line = moved.line :=
      fun _ => line_of_mem_itemsOf
    rw [← last]
    exact ih (by simpa using ordered.append forward here)

/-- Without a byte order mark the lines are exact: what a scan yields are the items of the input's
pieces, in order and each at the line of its piece, and the place of a tag, an empty one included, is
that of the `<` it is written behind. Lines never go back, nor past the last line, faults or not. -/
theorem scan_lines (input : List UInt8) (unmarked : input.take 3 ≠ byteOrderMark) :
    let outline := (Reader.atStart input).outline
    (scan input).items = outline.items input ∧
      (∀ piece ∈ outline.pieces,
        (∀ item ∈ piece.items input,
          item.line = 1 + (input.take piece.place).count LineCounter.newline) ∧
        (piece.construct.isTag = true →
          piece.construct.spelling <+: input.drop piece.place)) ∧
      outline.pieces.Pairwise (fun first second => first.place ≤ second.place ∧
        (first.construct.isTag = true → first.place < second.place)) ∧
      (scan input).items.Pairwise (fun first second => first.line ≤ second.line) ∧
      (∀ item ∈ (scan input).items, item.line ≤ (scan input).line) ∧
      (scan input).line ≤ 1 + input.count LineCounter.newline := by
  intro outline
  have stands := Reader.atStart_stands input
  have yielded : (scan input).items = outline.items input := by
    have items := items_scanFrom stands rfl (Nat.zero_le _)
      (Nat.zero_le _) []
    rwa [scan, withoutMark, if_neg unmarked]
  have ordered := scanFrom_ordered [] (.start input) ⟨withoutMark input, 0, false, []⟩
    ⟨.nil, by simp⟩
  obtain ⟨placed, apart⟩ := stands.outline
  exact ⟨yielded, fun piece member => ⟨fun item => line_of_mem_itemsOf, (placed piece member).2⟩,
    apart, ordered.1.1, ordered.1.2, ordered.2⟩

theorem scan_lines_spread :
    let input := Utf8.encode "<!-- < -->\n<a\n b=\">\">\n  <b/>\n\n</a>\n"
    input.take 3 ≠ byteOrderMark ∧
      (scan input).items = (Reader.atStart input).outline.items input ∧
      (scan input).items.map (·.line) = [2, 4, 4, 6] ∧ (scan input).line = 6 :=
  have unmarked := by decide +kernel
  ⟨unmarked, (scan_lines _ unmarked).1, by decide +kernel, by decide +kernel⟩

end XmlSchema.Markup

import XmlSchema.Markup.Event
import XmlSchema.Proofs.Markup.Consumption

set_option autoImplicit false

namespace XmlSchema.Markup

structure Piece where
  place : Nat
  construct : Construct
  deriving DecidableEq, Repr

/-- The constructs of an input, and what the reader refuses and where, if it stops at that. -/
structure Outline where
  pieces : List Piece
  refusal : Option (ReadFault × Nat)
  deriving DecidableEq, Repr

namespace Reader

def atStart (input : List UInt8) : Reader := ⟨input, 0, false, []⟩

def placeOf (reader : Reader) (construct : Construct) : Nat :=
  if construct.isTag then reader.bracket else reader.position

def outline (reader : Reader) : Outline :=
  match _found : reader.step with
  | .finished => ⟨[], none⟩
  | .refused fault position => ⟨[], some (fault, position)⟩
  | .read construct next =>
      let later := next.outline
      ⟨⟨reader.placeOf construct, construct⟩ :: later.pieces, later.refusal⟩
termination_by reader.rest.length
decreasing_by exact length_step _found

variable {reader next : Reader} {construct : Construct}

theorem outline_of_finished (finished : reader.step = .finished) : reader.outline = ⟨[], none⟩ := by
  rw [outline]
  split <;> simp_all

theorem outline_of_refused {fault : ReadFault} {position : Nat}
    (refused : reader.step = .refused fault position) :
    reader.outline = ⟨[], some (fault, position)⟩ := by
  rw [outline]
  split <;> simp_all

theorem outline_of_read (read : reader.step = .read construct next) :
    reader.outline = ⟨⟨reader.placeOf construct, construct⟩ :: next.outline.pieces,
      next.outline.refusal⟩ := by
  rw [outline]
  split <;> simp_all

end Reader

def Construct.contents (construct : Construct) : List (Except Fault Event) :=
  (itemsOf 0 construct).map Item.content

theorem contents_itemsOf (line : Nat) (construct : Construct) :
    (itemsOf line construct).map Item.content = construct.contents := by
  unfold Construct.contents itemsOf textItems
  repeat' split
  all_goals simp

theorem line_of_mem_itemsOf {line : Nat} {construct : Construct} {item : Item}
    (member : item ∈ itemsOf line construct) : item.line = line := by
  unfold itemsOf textItems at member
  repeat' split at member
  all_goals simp at member
  all_goals rcases member with rfl | rfl
  all_goals rfl

def Outline.contents (outline : Outline) : List (Except Fault Event) :=
  outline.pieces.flatMap (fun piece => piece.construct.contents) ++
    outline.refusal.toList.map fun refusal => .error (.reader refusal.1)

theorem contents_scanFrom (read : List Item) (counter : LineCounter) (reader : Reader) :
    (scanFrom read counter reader).items.map Item.content =
      read.reverse.map Item.content ++ reader.outline.contents := by
  fun_induction scanFrom read counter reader with
  | case1 read counter reader finished =>
    simp [Reader.outline_of_finished finished, Outline.contents]
  | case2 read counter reader fault position refused =>
    simp [Reader.outline_of_refused refused, Outline.contents]
  | case3 read counter reader construct next found counter' ih =>
    simp [Reader.outline_of_read found, ih, Outline.contents, contents_itemsOf]

end XmlSchema.Markup

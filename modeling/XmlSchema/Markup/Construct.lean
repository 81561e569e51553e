import XmlSchema.Text.Utf8

set_option autoImplicit false

namespace XmlSchema.Markup

def isSpace (b : UInt8) : Bool := b == 32 || b == 9 || b == 13 || b == 10

def lessThan : UInt8 := 60
def greaterThan : UInt8 := 62
def slash : UInt8 := 47
def bang : UInt8 := 33
def questionMark : UInt8 := 63

inductive Enclosure where
  | bang
  | cdata
  | comment
  | doctype
  | declaration
  deriving DecidableEq, Repr

def Enclosure.text : Enclosure -> String
  | .bang => "Bang"
  | .cdata => "CData"
  | .comment => "Comment"
  | .doctype => "DOCTYPE"
  | .declaration => "XmlDecl"

inductive ReadFault where
  | strayBang (byte : UInt8)
  | unclosed (enclosure : Enclosure)
  | emptyDoctype
  | mismatched (expected found : String)
  deriving DecidableEq, Repr

def ReadFault.message : ReadFault -> String
  | .strayBang byte =>
      "Only Comment (`--`), CDATA (`[CDATA[`) and DOCTYPE (`DOCTYPE`) nodes can start with a '!', "
        ++ "but symbol `" ++ String.ofList [Utf8.narrow byte] ++ "` found"
  | .unclosed enclosure => "Unexpected EOF during reading " ++ enclosure.text
  | .emptyDoctype => "DOCTYPE declaration must not be empty"
  | .mismatched expected found => "Expecting </" ++ expected ++ "> found </" ++ found ++ ">"

/-- One piece of markup. Tags carry their content, which starts with their name. -/
inductive Construct where
  | start (content name : List UInt8)
  | empty (content name : List UInt8)
  | close (name : List UInt8)
  | text (bytes : List UInt8)
  | cdata (bytes : List UInt8)
  | ignored
  deriving DecidableEq, Repr

/-- Where reading stands. After text the `<` of the next tag is already consumed. -/
structure Reader where
  rest : List UInt8
  offset : Nat
  inTag : Bool
  opened : List (List UInt8)

def Reader.position (reader : Reader) : Nat :=
  if reader.inTag then reader.offset - 1 else reader.offset

inductive Step where
  | finished
  | refused (fault : ReadFault) (position : Nat)
  | read (construct : Construct) (next : Reader)

def takeTo (mark : UInt8) (bytes : List UInt8) : List UInt8 × Nat × List UInt8 :=
  let taken := bytes.takeWhile (· != mark)
  match bytes.dropWhile (· != mark) with
  | [] => (taken, taken.length, [])
  | _ :: rest => (taken, taken.length + 1, rest)

/-- The bytes of a start tag: to the first `>` outside quotes, or to the end. A tag that the end of
the input ends does not count as consumed. -/
def takeTag (quote : Option UInt8) (taken : List UInt8) :
    List UInt8 -> List UInt8 × Nat × List UInt8
  | [] => (taken.reverse, 0, [])
  | b :: rest =>
      match quote with
      | some mark => takeTag (if b = mark then none else quote) (b :: taken) rest
      | none =>
          if b = greaterThan then (taken.reverse, taken.length + 1, rest)
          else takeTag (if b = 34 || b = 39 then some b else none) (b :: taken) rest

/-- Splits at the first `>` for which `closes` accepts the bytes before it, last one first. -/
def takeClosed (closes : List UInt8 -> Bool) (taken : List UInt8) :
    List UInt8 -> Option (List UInt8 × List UInt8)
  | [] => none
  | b :: rest =>
      if b = greaterThan && closes taken then some (taken.reverse, rest)
      else takeClosed closes (b :: taken) rest

def trimEnd (bytes : List UInt8) : List UInt8 :=
  (bytes.reverse.dropWhile isSpace).reverse

/-- The bytes less the white space at their end, unless they are nothing else. -/
def trimEndUnlessAll (bytes : List UInt8) : List UInt8 :=
  if (trimEnd bytes).isEmpty then bytes else trimEnd bytes

def lower (b : UInt8) : UInt8 := if 65 ≤ b && b ≤ 90 then b + 32 else b

def startsWithWord (word : String) (bytes : List UInt8) : Bool :=
  (bytes.take word.length).map lower == Utf8.encode word

def enclosure? (b : UInt8) : Option Enclosure :=
  if b = 91 then some .cdata
  else if b = 45 then some .comment
  else if b = 68 || b = 100 then some .doctype
  else none

def closesAfter (enclosure : Enclosure) (before : List UInt8) : Bool :=
  match enclosure with
  | .cdata => before.take 2 == [93, 93]
  | .comment => 4 ≤ before.length && before.take 2 == [45, 45]
  | .doctype => before.count lessThan == before.count greaterThan
  | _ => true

def enclosed (enclosure : Enclosure) (content : List UInt8) : Except ReadFault Construct :=
  match enclosure with
  | .cdata =>
      if startsWithWord "[cdata[" content then
        .ok (.cdata ((content.drop 7).take (content.length - 9)))
      else .error (.unclosed .cdata)
  | .comment => if content.take 2 == [45, 45] then .ok .ignored else .error (.unclosed .comment)
  | .doctype =>
      if !startsWithWord "doctype" content then .error (.unclosed .doctype)
      else if (content.drop 7).all isSpace then .error .emptyDoctype
      else .ok .ignored
  | other => .error (.unclosed other)

namespace Reader

def bangMarkup (reader : Reader) (after : List UInt8) : Step :=
  match after with
  | [] => .refused (.unclosed .bang) reader.offset
  | b :: _ =>
      match enclosure? b with
      | none => .refused (.strayBang b) reader.offset
      | some enclosure =>
          match takeClosed (closesAfter enclosure) [] after with
          | none => .refused (.unclosed enclosure) reader.offset
          | some (content, rest) =>
              let next := { reader with rest := rest, offset := reader.offset + content.length + 2 }
              match enclosed enclosure content with
              | .error fault => .refused fault next.offset
              | .ok construct => .read construct next

def nameText (name : List UInt8) : String :=
  match Utf8.decodeText name with
  | .ok text => text
  | .error _ => ""

def closeMarkup (reader : Reader) (after : List UInt8) : Step :=
  let (written, consumed, rest) := takeTo greaterThan after
  let name := trimEndUnlessAll written
  let offset := reader.offset + consumed + 1
  let start := offset - (written.length + 1)
  match reader.opened with
  | [] => .refused (.mismatched "" (nameText written)) start
  | innermost :: outer =>
      if name = innermost then
        .read (.close name) { reader with rest := rest, offset := offset, opened := outer }
      else .refused (.mismatched (nameText innermost) (nameText name)) start

def questionMarkup (reader : Reader) (after : List UInt8) : Step :=
  let (content, consumed, rest) := takeTo greaterThan after
  let offset := reader.offset + consumed + 1
  if 2 ≤ content.length && content.getLast? == some questionMark then
    .read .ignored { reader with rest := rest, offset := offset }
  else .refused (.unclosed .declaration) (offset - (content.length + 1))

/-- A start tag or an empty one. The end of the input also ends it. -/
def tagMarkup (reader : Reader) : Step :=
  let (content, consumed, rest) := takeTag none [] reader.rest
  let next := { reader with rest := rest, offset := reader.offset + consumed }
  let name := content.takeWhile fun b => !isSpace b
  if content.getLast? == some slash then
    let name := if name.length < content.length then name else name.dropLast
    .read (.empty content.dropLast name) next
  else .read (.start content name) { next with opened := name :: next.opened }

def markup (reader : Reader) : Step :=
  match reader.rest with
  | [] => .finished
  | b :: after =>
      if b = bang then reader.bangMarkup after
      else if b = slash then reader.closeMarkup after
      else if b = questionMark then reader.questionMarkup after
      else reader.tagMarkup

/-- The next construct. White space before it is skipped. -/
def step (reader : Reader) : Step :=
  if reader.inTag then { reader with inTag := false }.markup
  else
    let solid := reader.rest.dropWhile isSpace
    let offset := reader.offset + (reader.rest.takeWhile isSpace).length
    match solid with
    | [] => .finished
    | b :: after =>
        if b = lessThan then { reader with rest := after, offset := offset + 1 }.markup
        else
          let (bytes, consumed, rest) := takeTo lessThan (b :: after)
          .read (.text (trimEndUnlessAll bytes))
            { reader with rest := rest, offset := offset + consumed, inTag := true }

end Reader

theorem length_dropWhile_le {α : Type} (p : α -> Bool) (l : List α) :
    (l.dropWhile p).length ≤ l.length := by
  induction l with
  | nil => simp
  | cons a l ih =>
      rw [List.dropWhile_cons]
      split
      next => exact Nat.le_succ_of_le ih
      next => exact Nat.le_refl _

theorem length_takeTo (mark : UInt8) (bytes : List UInt8) :
    (takeTo mark bytes).2.2.length ≤ bytes.length := by
  have shorter := length_dropWhile_le (· != mark) bytes
  unfold takeTo
  split
  next => simp
  next _ _ same =>
    rw [same] at shorter
    simp only [List.length_cons] at shorter
    simp only
    omega

theorem length_takeTo_cons (mark b : UInt8) (bytes : List UInt8) :
    (takeTo mark (b :: bytes)).2.2.length < (b :: bytes).length := by
  unfold takeTo
  split
  next => simp
  next _ _ same =>
    have shorter := length_dropWhile_le (· != mark) (b :: bytes)
    rw [same] at shorter
    simp only [List.length_cons] at shorter ⊢
    omega

theorem length_takeTag (quote : Option UInt8) (taken bytes : List UInt8) :
    (takeTag quote taken bytes).2.2.length ≤ bytes.length := by
  induction bytes generalizing quote taken with
  | nil => simp [takeTag]
  | cons b rest ih =>
      simp only [takeTag]
      split
      next => exact Nat.le_succ_of_le (ih _ _)
      next =>
        split
        next => simp
        next => exact Nat.le_succ_of_le (ih _ _)

theorem length_takeTag_cons (quote : Option UInt8) (taken : List UInt8) (b : UInt8)
    (bytes : List UInt8) :
    (takeTag quote taken (b :: bytes)).2.2.length < (b :: bytes).length := by
  simp only [takeTag, List.length_cons]
  split
  next => exact Nat.lt_succ_of_le (length_takeTag _ _ _)
  next =>
    split
    next => simp
    next => exact Nat.lt_succ_of_le (length_takeTag _ _ _)

theorem length_takeClosed {closes : List UInt8 -> Bool} {taken bytes content rest : List UInt8}
    (found : takeClosed closes taken bytes = some (content, rest)) :
    rest.length < bytes.length := by
  induction bytes generalizing taken with
  | nil => simp [takeClosed] at found
  | cons b bytes ih =>
      simp only [takeClosed] at found
      split at found
      next =>
        simp only [Option.some.injEq, Prod.mk.injEq] at found
        simp [← found.2]
      next => exact Nat.lt_succ_of_lt (ih found)

namespace Reader

section

variable {reader next : Reader} {construct : Construct} {after : List UInt8}

theorem length_bangMarkup (read : reader.bangMarkup after = .read construct next) :
    next.rest.length < after.length := by
  unfold bangMarkup at read
  split at read
  next => cases read
  next =>
    split at read
    next => cases read
    next =>
      split at read
      next => cases read
      next content behind closed =>
        dsimp only at read
        split at read
        next => cases read
        next =>
          cases read
          exact length_takeClosed closed

theorem length_closeMarkup (read : reader.closeMarkup after = .read construct next) :
    next.rest.length ≤ after.length := by
  unfold closeMarkup at read
  dsimp only at read
  split at read
  next => cases read
  next =>
    split at read
    next =>
      cases read
      exact length_takeTo greaterThan after
    next => cases read

theorem length_questionMarkup (read : reader.questionMarkup after = .read construct next) :
    next.rest.length ≤ after.length := by
  unfold questionMarkup at read
  dsimp only at read
  split at read
  next =>
    cases read
    exact length_takeTo greaterThan after
  next => cases read

theorem length_tagMarkup {b : UInt8} (rest : reader.rest = b :: after)
    (read : reader.tagMarkup = .read construct next) : next.rest.length < reader.rest.length := by
  have shorter := length_takeTag_cons none [] b after
  rw [← rest] at shorter
  unfold tagMarkup at read
  dsimp only at read
  split at read
  next =>
    cases read
    exact shorter
  next =>
    cases read
    exact shorter

theorem length_markup (read : reader.markup = .read construct next) :
    next.rest.length < reader.rest.length := by
  unfold markup at read
  split at read
  next => cases read
  next b after rest =>
    have used : after.length < reader.rest.length := by
      rw [rest]
      exact Nat.lt_succ_self _
    split at read
    next => exact Nat.lt_trans (length_bangMarkup read) used
    next =>
      split at read
      next => exact Nat.lt_of_le_of_lt (length_closeMarkup read) used
      next =>
        split at read
        next => exact Nat.lt_of_le_of_lt (length_questionMarkup read) used
        next => exact length_tagMarkup rest read

end

theorem length_step {reader next : Reader} {construct : Construct}
    (read : reader.step = .read construct next) : next.rest.length < reader.rest.length := by
  unfold step at read
  split at read
  next => simpa using length_markup read
  next =>
    have shorter := length_dropWhile_le isSpace reader.rest
    simp only at read
    split at read
    next => simp at read
    next b after same =>
      rw [same] at shorter
      split at read
      next =>
        have used := length_markup read
        simp only [List.length_cons] at shorter
        simp only at used
        omega
      next =>
        have used := length_takeTo_cons lessThan b after
        simp only [Step.read.injEq] at read
        rw [← read.2]
        exact Nat.lt_of_lt_of_le used shorter

end Reader

end XmlSchema.Markup

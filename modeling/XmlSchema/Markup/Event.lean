import XmlSchema.Markup.Attribute
import XmlSchema.Markup.Escape
import XmlSchema.Text.Blank

set_option autoImplicit false

namespace XmlSchema.Markup

inductive Event where
  | opens (name : String) (attributes : List (String × String))
  | closes (name : String)
  | text (content : String)
  deriving DecidableEq, Repr

inductive Fault where
  | reader (fault : ReadFault)
  | tagName (fault : Utf8.Fault)
  | attribute (fault : AttributeFault)
  | attributeName (fault : Utf8.Fault)
  | attributeValue (fault : EscapeFault)
  | text (fault : EscapeFault)
  | cdata (fault : Utf8.Fault)
  deriving DecidableEq, Repr

def Fault.message : Fault -> String
  | .reader fault => fault.message
  | .tagName fault => "Invalid element name: " ++ fault.message
  | .attribute fault => "Failed to parse attribute: " ++ fault.message
  | .attributeName fault => "Invalid attribute name: " ++ fault.message
  | .attributeValue fault => "Failed to unescape attribute value: " ++ fault.message
  | .text fault => "Failed to unescape text: " ++ fault.message
  | .cdata fault => "Invalid CDATA: " ++ fault.message

structure Item where
  line : Nat
  content : Except Fault Event

/-- Counts line ends up to a place in the input, and never goes back. -/
structure LineCounter where
  line : Nat
  counted : Nat
  ahead : List UInt8

namespace LineCounter

def start (input : List UInt8) : LineCounter := ⟨1, 0, input⟩

def newline : UInt8 := 10

def advanceTo (counter : LineCounter) (position : Nat) : LineCounter :=
  let passed := counter.ahead.take (position - counter.counted)
  ⟨counter.line + passed.count newline, counter.counted + passed.length,
    counter.ahead.drop (position - counter.counted)⟩

/-- Moves to the first `<` between two places, or to the second where there is none. -/
def markTag (counter : LineCounter) (before after : Nat) : LineCounter :=
  let window := (counter.ahead.drop (before - counter.counted)).take (after - before)
  counter.advanceTo (before + (window.takeWhile (· != lessThan)).length)

end LineCounter

def attributesFrom (read : List (String × String)) (reader : AttributeReader) :
    Except Fault (List (String × String)) :=
  match _found : reader.step with
  | .finished => .ok read.reverse
  | .refused fault => .error (.attribute fault)
  | .read key value next =>
      match Utf8.decodeText key with
      | .error fault => .error (.attributeName fault)
      | .ok key =>
          match readText value with
          | .error fault => .error (.attributeValue fault)
          | .ok value => attributesFrom ((key, value) :: read) next
termination_by reader.rest.length
decreasing_by exact AttributeReader.length_step _found

def openEvent (content name : List UInt8) : Except Fault (String × List (String × String)) :=
  match Utf8.decodeText name with
  | .error fault => .error (.tagName fault)
  | .ok text =>
      match attributesFrom [] ⟨content.drop name.length, name.length, []⟩ with
      | .error fault => .error fault
      | .ok attributes => .ok (text, attributes)

def textItems (line : Nat) (content : Except Fault String) : List Item :=
  match content with
  | .error fault => [⟨line, .error fault⟩]
  | .ok text => if (Text.trim text).isEmpty then [] else [⟨line, .ok (.text text)⟩]

def itemsOf (line : Nat) : Construct -> List Item
  | .start content name =>
      match openEvent content name with
      | .error fault => [⟨line, .error fault⟩]
      | .ok (text, attributes) => [⟨line, .ok (.opens text attributes)⟩]
  | .empty content name =>
      match openEvent content name with
      | .error fault => [⟨line, .error fault⟩]
      | .ok (text, attributes) =>
          [⟨line, .ok (.opens text attributes)⟩, ⟨line, .ok (.closes text)⟩]
  | .close name =>
      match Utf8.decodeText name with
      | .error fault => [⟨line, .error (.tagName fault)⟩]
      | .ok text => [⟨line, .ok (.closes text)⟩]
  | .text bytes => textItems line ((readText bytes).mapError .text)
  | .cdata bytes => textItems line ((Utf8.decodeText bytes).mapError .cdata)
  | .ignored => []

/-- Tags count as standing at their `<`, text as standing where the reader was before it. -/
def locate (counter : LineCounter) (before after : Nat) : Construct -> LineCounter
  | .start _ _ | .empty _ _ | .close _ => counter.markTag before after
  | .text _ | .cdata _ => counter.advanceTo before
  | .ignored => counter

structure Scan where
  items : List Item
  line : Nat

def scanFrom (read : List Item) (counter : LineCounter) (reader : Reader) : Scan :=
  match _found : reader.step with
  | .finished => ⟨read.reverse, counter.line⟩
  | .refused fault position =>
      let counter := counter.advanceTo position
      ⟨(⟨counter.line, .error (.reader fault)⟩ :: read).reverse, counter.line⟩
  | .read construct next =>
      let counter := locate counter reader.position next.position construct
      scanFrom ((itemsOf counter.line construct).reverse ++ read) counter next
termination_by reader.rest.length
decreasing_by exact Reader.length_step _found

def byteOrderMark : List UInt8 := [0xef, 0xbb, 0xbf]

/-- A byte order mark is passed over without being counted as consumed. -/
def withoutMark (input : List UInt8) : List UInt8 :=
  if input.take 3 = byteOrderMark then input.drop 3 else input

def scan (input : List UInt8) : Scan :=
  scanFrom [] (LineCounter.start input) ⟨withoutMark input, 0, false, []⟩

end XmlSchema.Markup

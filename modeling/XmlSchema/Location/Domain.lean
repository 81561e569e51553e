import XmlSchema.Location.Domain.Composition
import XmlSchema.Location.Domain.Direction
import XmlSchema.Location.Domain.Folding
import XmlSchema.Location.Domain.Joining
import XmlSchema.Location.Domain.Punycode
import XmlSchema.Text.Split

set_option autoImplicit false

namespace XmlSchema.Domain

open Text

structure Label where
  text : List Char
  written : List Char
  deriving DecidableEq, Repr

def folded? (text : List Char) : Option (List Char) :=
  (text.mapM fold?).map fun parts => compose parts.flatten

def isSettled (text : List Char) : Bool :=
  text.all isPlain && compose text == text

def longestText : Nat := 1000

def longestSpelling : Nat := 2000

def isSound (text : List Char) : Bool :=
  !text.head?.any isMark && joinersFit [] text && text.length ≤ longestText

def spellingMark : List Char := "xn--".toList

def spelled? (spelling : List Char) : Option Label :=
  if spelling.all Punycode.isAscii && spelling.length ≤ longestSpelling then
    match Punycode.read? spelling with
    | none => none
    | some text =>
        if !text.all Punycode.isAscii && isSettled text && isSound text then
          some ⟨text, spellingMark ++ spelling⟩
        else none
  else none

def label? (part : List Char) : Option Label :=
  if spellingMark.isPrefixOf part then spelled? (part.drop spellingMark.length)
  else if part.all Punycode.isAscii then some ⟨part, part⟩
  else if isSound part then some ⟨part, spellingMark ++ Punycode.write part⟩
  else none

def isForbidden (c : Char) : Bool :=
  c.toNat ≤ 0x20 || c.toNat == 0x7f ||
    ['%', '#', '/', ':', '<', '>', '?', '@', '[', '\\', ']', '^', '|'].contains c

def labels? (name : List Char) : Option (List Label) :=
  match folded? name with
  | none => none
  | some folded =>
      if folded.any isForbidden then none
      else
        match (splitOn '.' folded).mapM label? with
        | none => none
        | some labels =>
            if labels.any (·.text.any isRightToLeft) && !labels.all (keepsDirection ·.text) then
              none
            else some labels

def ascii? (name : List Char) : Option (List Char) :=
  (labels? name).map fun labels => ['.'].intercalate (labels.map Label.written)

end XmlSchema.Domain

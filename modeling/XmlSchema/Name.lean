import XmlSchema.Text.Ranges

set_option autoImplicit false

namespace XmlSchema

namespace Name

/-- What may start a name. -/
def startRanges : Text.Ranges :=
  [(0x41, 0x5a), (0x5f, 0x5f), (0x61, 0x7a), (0xc0, 0xd6), (0xd8, 0xf6), (0xf8, 0x2ff),
    (0x370, 0x37d), (0x37f, 0x1fff), (0x200c, 0x200d), (0x2070, 0x218f), (0x2c00, 0x2fef),
    (0x3001, 0xd7ff), (0xf900, 0xfdcf), (0xfdf0, 0xfffd), (0x10000, 0xeffff)]

def laterRanges : Text.Ranges :=
  [(0x2d, 0x2e), (0x30, 0x39), (0xb7, 0xb7), (0x300, 0x36f), (0x203f, 0x2040)]

def isStart (c : Char) : Bool := startRanges.holds c

def isLater (c : Char) : Bool := isStart c || laterRanges.holds c

def isNcNameChars : List Char -> Bool
  | [] => false
  | c :: rest => isStart c && rest.all isLater

def isNcName (text : String) : Bool := isNcNameChars text.toList

def splitColonChars : List Char -> Option (List Char × List Char)
  | [] => none
  | c :: rest =>
      if c = ':' then some ([], rest)
      else (splitColonChars rest).map fun parts => (c :: parts.1, parts.2)

def split (text : String) : Option String × String :=
  match splitColonChars text.toList with
  | some (label, rest) => (some (String.ofList label), String.ofList rest)
  | none => (none, text)

def isQName (text : String) : Bool :=
  match split text with
  | (some label, rest) => isNcName label && isNcName rest
  | (none, rest) => isNcName rest

inductive Fault where
  | notNcName (written : String)
  | notQName (written : String)
  | unknownPrefix (label : String)
  deriving DecidableEq, Repr

def Fault.message : Fault -> String
  | .notNcName written => s!"Invalid NCName: '{written}'"
  | .notQName written => s!"Invalid QName: '{written}'"
  | .unknownPrefix label => s!"Unknown prefix: {label}"

def checkNcName (written : String) : Except Fault Unit :=
  if isNcName written then .ok () else .error (.notNcName written)

def checkQName (written : String) : Except Fault Unit :=
  if isQName written then .ok () else .error (.notQName written)

end Name

structure QName where
  uri : Option String
  localName : String
  deriving DecidableEq, Hashable, Repr

namespace QName

instance : Inhabited QName := ⟨⟨none, ""⟩⟩

def unqualified (localName : String) : QName := ⟨none, localName⟩

def inNamespace (uri localName : String) : QName := ⟨some uri, localName⟩

/-- The empty text stands for no namespace. -/
def uriText (name : QName) : String := name.uri.getD ""

def text (name : QName) : String :=
  match name.uri with
  | some uri => "\x7b" ++ uri ++ "\x7d" ++ name.localName
  | none => name.localName

end QName

end XmlSchema

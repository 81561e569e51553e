import XmlSchema.Grammar.Kind
import XmlSchema.Limits
import XmlSchema.Location.Url
import XmlSchema.Markup.Event
import XmlSchema.Name
import XmlSchema.Occurs

set_option autoImplicit false

namespace XmlSchema

structure Position where
  url : String
  line : Nat
  deriving DecidableEq, Repr

def Position.text (position : Position) : String :=
  position.url ++ s!":{position.line}"

inductive Unresolved where
  | missing (kind : Kind) (name : QName) (position : Position)
  | circular (kind : Kind) (name : QName) (position : Position)
  deriving DecidableEq, Repr

namespace Unresolved

def kind : Unresolved -> Kind
  | .missing kind _ _ => kind
  | .circular kind _ _ => kind

def name : Unresolved -> QName
  | .missing _ name _ => name
  | .circular _ name _ => name

def position : Unresolved -> Position
  | .missing _ _ position => position
  | .circular _ _ position => position

def isCircular : Unresolved -> Bool
  | .missing _ _ _ => false
  | .circular _ _ _ => true

def message (unresolved : Unresolved) : String :=
  (if unresolved.isCircular then "circular " else "missing ") ++ unresolved.kind.tagName
    ++ " reference '" ++ unresolved.name.text ++ "' at " ++ unresolved.position.text

end Unresolved

inductive Defect where
  | occurs (fault : Occurs.Fault)
  | name (fault : Name.Fault)
  | secondSchema
  | enumerationWithoutValue
  | closingTag
  | afterRoot
  | endOfDocument
  | notSchema
  | stated (message : String)
  deriving DecidableEq, Repr

def Defect.message : Defect -> String
  | .occurs fault => fault.message
  | .name fault => fault.message
  | .secondSchema => "document has more than one schema root"
  | .enumerationWithoutValue => "enumeration without a value"
  | .closingTag => "unexpected closing tag"
  | .afterRoot => "content after the root element"
  | .endOfDocument => "unexpected end of document"
  | .notSchema => "document root is not an XSD schema"
  | .stated message => message

inductive FileFault where
  | noEntry
  | isDirectory
  | notDirectory
  | tooManyLinks
  | nameTooLong
  | nulByte
  | permissionDenied
  | other (message : String)
  deriving DecidableEq, Repr

def FileFault.message : FileFault -> String
  | .noEntry => "No such file or directory (os error 2)"
  | .isDirectory => "Is a directory (os error 21)"
  | .notDirectory => "Not a directory (os error 20)"
  | .tooManyLinks => "Too many levels of symbolic links (os error 40)"
  | .nameTooLong => "File name too long (os error 36)"
  | .nulByte => "file name contained an unexpected NUL byte"
  | .permissionDenied => "Permission denied (os error 13)"
  | .other message => message

inductive ResourceFault where
  | remoteDisabled (url : String)
  | notFile (url : String)
  | notLocal (url : String)
  | unresolvable (path : String) (fault : FileFault)
  | unreadable (path : String) (fault : FileFault)
  deriving DecidableEq, Repr

def ResourceFault.message : ResourceFault -> String
  | .remoteDisabled url => "Remote schema loading is disabled: " ++ url
  | .notFile url => "Only file URLs can be loaded from disk: " ++ url
  | .notLocal url => "Not a local file URL: " ++ url
  | .unresolvable path fault => "Failed to resolve '" ++ path ++ "': " ++ fault.message
  | .unreadable path fault => "Failed to read file '" ++ path ++ "': " ++ fault.message

inductive Failure where
  | parse (defect : Defect) (position : Option Position)
  | resource (fault : ResourceFault)
  | notFound (place : String)
  | name (fault : Name.Fault)
  | limit (exceeded : Limits.Exceeded)
  | markup (fault : Markup.Fault) (line : Nat)
  | url (fault : Url.Fault)
  | unresolved (references : List Unresolved)
  deriving DecidableEq, Repr

namespace Failure

def category : Failure -> String
  | .parse _ _ => "Parse"
  | .resource _ => "Resource"
  | .notFound _ => "NotFound"
  | .name (.unknownPrefix _) => "Namespace"
  | .name _ => "Name"
  | .limit _ => "LimitExceeded"
  | .markup _ _ => "Xml"
  | .url _ => "Url"
  | .unresolved _ => "Unresolved"

def parseText (defect : Defect) (position : Option Position) : String :=
  match position with
  | some position => defect.message ++ " (at " ++ position.text ++ ")"
  | none => defect.message

def message : Failure -> String
  | .parse defect position => "parse error: " ++ parseText defect position
  | .resource fault => "resource error: " ++ fault.message
  | .notFound place => "not found: " ++ place
  | .name (.unknownPrefix label) => "namespace error: " ++ (Name.Fault.unknownPrefix label).message
  | .name (.notNcName written) => "name error: " ++ (Name.Fault.notNcName written).message
  | .name (.notQName written) => "name error: " ++ (Name.Fault.notQName written).message
  | .limit exceeded => "limit exceeded: " ++ exceeded.message
  | .markup fault line => "XML error: " ++ fault.message ++ s!" at line {line}"
  | .url fault => "URL error: " ++ fault.message
  | .unresolved references =>
      s!"{references.length} unresolved reference(s), first: "
        ++ ((references.head?.map Unresolved.message).getD "")

def located (failure : Failure) (position : Position) : Failure :=
  match failure with
  | .parse defect none => .parse defect (some position)
  | .name fault => .parse (.name fault) (some position)
  | other => other

end Failure

end XmlSchema

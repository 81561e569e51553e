import XmlSchema.Name
import XmlSchema.Text.Blank

set_option autoImplicit false

namespace XmlSchema

def xmlUri : String := "http://www.w3.org/XML/1998/namespace"

structure Prefixes where
  bound : List (String × String)
  defaultUri : Option String
  targetUri : Option String
  deriving DecidableEq, Repr

namespace Prefixes

def empty : Prefixes := ⟨[], none, none⟩

instance : Inhabited Prefixes := ⟨empty⟩

def bindInto (label uri : String) : List (String × String) -> List (String × String)
  | [] => [(label, uri)]
  | entry :: rest =>
      if entry.1 = label then (label, uri) :: rest
      else if label < entry.1 then (label, uri) :: entry :: rest
      else entry :: bindInto label uri rest

def bind (prefixes : Prefixes) (label uri : String) : Prefixes :=
  { prefixes with bound := bindInto label uri prefixes.bound }

def withDefault (prefixes : Prefixes) (uri : String) : Prefixes :=
  { prefixes with defaultUri := some uri }

def withTarget (prefixes : Prefixes) (uri : Option String) : Prefixes :=
  { prefixes with targetUri := uri.filter (· ≠ "") }

def find (label : String) : List (String × String) -> Option String
  | [] => none
  | entry :: rest => if entry.1 = label then some entry.2 else find label rest

def uriOf? (prefixes : Prefixes) (label : String) : Option String :=
  match find label prefixes.bound with
  | some uri => some uri
  | none => if label = "xml" then some xmlUri else none

def qualify (prefixes : Prefixes) (label rest : String) : Except Name.Fault QName :=
  match prefixes.uriOf? label with
  | some uri => .ok (.inNamespace uri rest)
  | none => .error (.unknownPrefix label)

/-- The namespace of a reference without a prefix: the default one if there is one that is not
empty, else the target namespace. -/
def referenceUri (prefixes : Prefixes) : Option String :=
  match prefixes.defaultUri.filter (· ≠ "") with
  | some uri => some uri
  | none => prefixes.targetUri

/-- The name of a tag. A tag without a prefix belongs to the target namespace. -/
def tagName (prefixes : Prefixes) (written : String) : Except Name.Fault QName :=
  match Name.split written with
  | (some label, rest) => prefixes.qualify label rest
  | (none, rest) => .ok ⟨prefixes.targetUri, rest⟩

def referenceName (prefixes : Prefixes) (written : String) : Except Name.Fault QName :=
  let written := Text.trim written
  match Name.checkQName written with
  | .error fault => .error fault
  | .ok () =>
      match Name.split written with
      | (some label, rest) => prefixes.qualify label rest
      | (none, rest) => .ok ⟨prefixes.referenceUri, rest⟩

end Prefixes

end XmlSchema

import XmlSchema.Grammar.Kind
import XmlSchema.Name

set_option autoImplicit false

namespace XmlSchema

def schemaUri : String := "http://www.w3.org/2001/XMLSchema"

/-- Where a tag stands: outside every tag, as a tag of some kind, or in free content. -/
inductive Place where
  | document
  | tag (kind : Kind)
  | anything
  deriving DecidableEq, Repr

namespace Place

def content : Place -> Content
  | .document => .kinds [.schema]
  | .tag kind => kind.content
  | .anything => .anything

def childKinds (place : Place) : List Kind :=
  match place.content with
  | .kinds kinds => kinds
  | .anything => []

def byName (place : Place) : List (QName × Place) :=
  place.childKinds.map fun kind => (.inNamespace schemaUri kind.tagName, .tag kind)

def byLocalName (place : Place) : List (String × Place) :=
  place.childKinds.map fun kind => (kind.tagName, .tag kind)

def wildcard (place : Place) : Option Place :=
  match place.content with
  | .kinds _ => none
  | .anything => some .anything

/-- The place of a child tag: by its full name, else by its local name, else by the wildcard. -/
def child (place : Place) (name : QName) : Option Place :=
  match place.byName.lookup name with
  | some found => some found
  | none =>
      match place.byLocalName.lookup name.localName with
      | some found => some found
      | none => place.wildcard

theorem lookup_byName (place : Place) (name : QName) :
    place.byName.lookup name =
      if name.uri = some schemaUri then place.byLocalName.lookup name.localName else none := by
  unfold byName byLocalName
  induction place.childKinds with
  | nil => simp
  | cons kind rest ih =>
    simp only [List.map_cons, List.lookup_cons, ih]
    by_cases same : name = .inNamespace schemaUri kind.tagName
    next => simp [same, QName.inNamespace]
    next =>
      rw [beq_false_of_ne same]
      by_cases home : name.uri = some schemaUri
      next =>
        have apart : name.localName ≠ kind.tagName := fun written =>
          same (congr (congrArg QName.mk home) written)
        simp [home, beq_false_of_ne apart]
      next => simp [home]

theorem child_eq (place : Place) (name : QName) :
    place.child name = (place.byLocalName.lookup name.localName).or place.wildcard := by
  unfold child
  rw [lookup_byName]
  by_cases home : name.uri = some schemaUri
  next =>
    rw [if_pos home]
    cases place.byLocalName.lookup name.localName <;> rfl
  next =>
    rw [if_neg home]
    cases place.byLocalName.lookup name.localName <;> rfl

theorem child_free {place : Place} (free : place = .tag .documentation ∨ place = .anything)
    (name : QName) : place.child name = some .anything := by
  rcases free with rfl | rfl <;> rfl

/-- The place reached by a path of tags. Where a tag has no place, nothing inside it has one. -/
def follow (start : Option Place) (path : List QName) : Option Place :=
  path.foldl (fun place name => place.bind fun place => place.child name) start

def kind? : Place -> Option Kind
  | .tag kind => some kind
  | _ => none

end Place

end XmlSchema

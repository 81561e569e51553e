set_option autoImplicit false

namespace XmlSchema

inductive Symbols where
  | types
  | elements
  | attributes
  | groups
  | attributeGroups
  deriving DecidableEq, Repr

namespace Symbols

def all : List Symbols := [.types, .elements, .attributes, .groups, .attributeGroups]

end Symbols

end XmlSchema

import XmlSchema.Symbols

set_option autoImplicit false

namespace XmlSchema

inductive Kind where
  | schema
  | importTag
  | includeTag
  | annotationTag
  | documentation
  | element
  | attributeTag
  | complexType
  | simpleType
  | complexContent
  | simpleContent
  | extension
  | restriction
  | sequence
  | choice
  | all
  | group
  | attributeGroup
  | any
  | anyAttribute
  | list
  | union
  | enumeration
  deriving DecidableEq, Hashable, Repr

inductive Content where
  | kinds (kinds : List Kind)
  | anything
  deriving DecidableEq, Repr

namespace Kind

def every : List Kind :=
  [.schema, .importTag, .includeTag, .annotationTag, .documentation, .element, .attributeTag,
    .complexType, .simpleType, .complexContent, .simpleContent, .extension, .restriction, .sequence,
    .choice, .all, .group, .attributeGroup, .any, .anyAttribute, .list, .union, .enumeration]

theorem mem_every (kind : Kind) : kind ∈ every := by cases kind <;> decide

def tagName : Kind -> String
  | .schema => "schema"
  | .importTag => "import"
  | .includeTag => "include"
  | .annotationTag => "annotation"
  | .documentation => "documentation"
  | .element => "element"
  | .attributeTag => "attribute"
  | .complexType => "complexType"
  | .simpleType => "simpleType"
  | .complexContent => "complexContent"
  | .simpleContent => "simpleContent"
  | .extension => "extension"
  | .restriction => "restriction"
  | .sequence => "sequence"
  | .choice => "choice"
  | .all => "all"
  | .group => "group"
  | .attributeGroup => "attributeGroup"
  | .any => "any"
  | .anyAttribute => "anyAttribute"
  | .list => "list"
  | .union => "union"
  | .enumeration => "enumeration"

theorem tagName_injective {a b : Kind} (same : a.tagName = b.tagName) : a = b := by
  revert same; cases a <;> cases b <;> decide

def attributeNames : Kind -> List String
  | .schema => ["targetnamespace", "elementformdefault", "attributeformdefault", "version"]
  | .importTag => ["namespace", "schemalocation"]
  | .includeTag => ["schemalocation"]
  | .annotationTag => []
  | .documentation => ["source", "xml:lang"]
  | .element =>
      ["name", "ref", "type", "minoccurs", "maxoccurs", "abstract", "substitutiongroup", "nillable",
        "default", "fixed"]
  | .attributeTag => ["name", "ref", "type", "use", "default", "fixed"]
  | .complexType => ["name", "abstract", "mixed"]
  | .simpleType => ["name"]
  | .complexContent => ["mixed"]
  | .simpleContent => []
  | .extension => ["base"]
  | .restriction => ["base"]
  | .sequence => ["minoccurs", "maxoccurs"]
  | .choice => ["minoccurs", "maxoccurs"]
  | .all => ["minoccurs", "maxoccurs"]
  | .group => ["name", "ref", "minoccurs", "maxoccurs"]
  | .attributeGroup => ["name", "ref"]
  | .any => ["namespace", "processcontents", "minoccurs", "maxoccurs"]
  | .anyAttribute => ["namespace", "processcontents"]
  | .list => ["itemtype"]
  | .union => ["membertypes"]
  | .enumeration => ["value"]

def particles : List Kind := [.annotationTag, .element, .sequence, .choice, .group, .any]

def derivedContent : List Kind :=
  [.annotationTag, .sequence, .choice, .all, .group, .attributeTag, .attributeGroup, .anyAttribute]

def content : Kind -> Content
  | .schema =>
      .kinds [.annotationTag, .importTag, .includeTag, .element, .attributeTag, .complexType,
        .simpleType, .group, .attributeGroup]
  | .importTag => .kinds [.annotationTag]
  | .includeTag => .kinds [.annotationTag]
  | .annotationTag => .kinds [.documentation]
  | .documentation => .anything
  | .element => .kinds [.annotationTag, .simpleType, .complexType]
  | .attributeTag => .kinds [.annotationTag, .simpleType]
  | .complexType => .kinds (derivedContent ++ [.complexContent, .simpleContent])
  | .simpleType => .kinds [.annotationTag, .restriction, .list, .union]
  | .complexContent => .kinds [.annotationTag, .extension, .restriction]
  | .simpleContent => .kinds [.annotationTag, .extension, .restriction]
  | .extension => .kinds derivedContent
  | .restriction => .kinds (derivedContent ++ [.simpleType, .enumeration])
  | .sequence => .kinds particles
  | .choice => .kinds particles
  | .all => .kinds [.annotationTag, .element]
  | .group => .kinds [.annotationTag, .sequence, .choice, .all]
  | .attributeGroup => .kinds [.annotationTag, .attributeTag, .attributeGroup, .anyAttribute]
  | .any => .kinds [.annotationTag]
  | .anyAttribute => .kinds [.annotationTag]
  | .list => .kinds [.annotationTag, .simpleType]
  | .union => .kinds [.annotationTag, .simpleType]
  | .enumeration => .kinds [.annotationTag]

def symbols? : Kind -> Option Symbols
  | .element => some .elements
  | .attributeTag => some .attributes
  | .complexType => some .types
  | .simpleType => some .types
  | .group => some .groups
  | .attributeGroup => some .attributeGroups
  | _ => none

def isType : Kind -> Bool
  | .complexType => true
  | .simpleType => true
  | _ => false

def ownsWildcards : Kind -> Bool
  | .complexType => true
  | .group => true
  | .attributeGroup => true
  | _ => false

def isDocumented : Kind -> Bool
  | .schema => true
  | .element => true
  | .attributeTag => true
  | .complexType => true
  | .simpleType => true
  | .group => true
  | .attributeGroup => true
  | _ => false

def isDeferred : Kind -> Bool
  | .element => true
  | .attributeTag => true
  | .group => true
  | .attributeGroup => true
  | .sequence => true
  | .choice => true
  | .all => true
  | .complexContent => true
  | .simpleContent => true
  | .extension => true
  | .restriction => true
  | .list => true
  | .union => true
  | _ => false

def isBoundary : Kind -> Bool
  | .element => true
  | .attributeTag => true
  | _ => false

end Kind

end XmlSchema

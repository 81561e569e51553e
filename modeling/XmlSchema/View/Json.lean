import XmlSchema.Json
import XmlSchema.View.Basic

set_option autoImplicit false

namespace XmlSchema

abbrev Fields := List (String × Json)

namespace Fields

def optional (key : String) (value : Option String) : Fields :=
  match value with
  | some text => [(key, .text text)]
  | none => []

def texts (key : String) (values : List String) : Fields :=
  match values with
  | [] => []
  | _ => [(key, .list (values.map .text))]

def flag (key : String) (value : Bool) : Fields :=
  if value then [(key, .bool true)] else []

end Fields

def TypeCategory.text : TypeCategory -> String
  | .complex => "complex"
  | .simple => "simple"
  | .builtin => "primitive"

def Derivation.text : Derivation -> String
  | .extension => "extension"
  | .restriction => "restriction"

def boundJson (most : Option Count) : Json :=
  match most with
  | some most => .number most.val
  | none => .null

mutual

def MemberView.json : MemberView -> Json
  | ⟨name, typeName, nameless, isRecursive, isGlobal, occurs, documentation⟩ =>
      .object ([("name", .text name)] ++ Fields.optional "type" typeName
        ++ namelessFields nameless ++ Fields.flag "recursive" isRecursive
        ++ [("global", .bool isGlobal), ("min", .number occurs.least.val),
          ("max", boundJson occurs.most)]
        ++ Fields.texts "documentation" documentation)

def namelessFields : Option TypeView -> Fields
  | none => []
  | some type => [("anonymousType", type.json)]

def TypeView.json : TypeView -> Json
  | ⟨name, category, parent, derivation, isAbstract, attributes, elements, anyContent, anyAttribute,
      enumeration, itemType, memberTypes, documentation⟩ =>
      .object (Fields.optional "name" name ++ [("kind", .text category.text)]
        ++ Fields.optional "parent" parent
        ++ Fields.optional "derivation" (derivation.map Derivation.text)
        ++ [("abstract", .bool isAbstract), ("attributes", .list (memberJsons attributes)),
          ("elements", .list (memberJsons elements)), ("anyContent", .bool anyContent),
          ("anyAttribute", .bool anyAttribute)]
        ++ Fields.texts "enumeration" enumeration ++ Fields.optional "itemType" itemType
        ++ Fields.texts "memberTypes" memberTypes ++ Fields.texts "documentation" documentation)

def memberJsons : List MemberView -> List Json
  | [] => []
  | member :: rest => member.json :: memberJsons rest

end

def NamespaceView.json (view : NamespaceView) : Json :=
  .object ([("name", .text view.name)] ++ Fields.optional "url" view.url
    ++ Fields.optional "short" view.short
    ++ [("references", .list (view.references.map .text)),
      ("elements", .list (memberJsons view.elements)),
      ("attributes", .list (memberJsons view.attributes)),
      ("types", .list (view.types.map TypeView.json))])

def SchemaView.json (view : SchemaView) : Json :=
  .object [("root", (view.root.map Json.text).getD .null),
    ("namespaces", .list (view.namespaces.map NamespaceView.json))]

end XmlSchema

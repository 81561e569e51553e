import XmlSchema.Grammar.Rule
import XmlSchema.Node
import XmlSchema.Scope.Scopes

set_option autoImplicit false

namespace XmlSchema.Builtin

def names : List String :=
  ["anyType", "anySimpleType", "string", "normalizedString", "token", "language", "Name", "NCName",
    "ID", "IDREF", "IDREFS", "ENTITY", "ENTITIES", "NMTOKEN", "NMTOKENS", "boolean", "decimal",
    "integer", "long", "int", "short", "byte", "nonNegativeInteger", "positiveInteger",
    "unsignedLong", "unsignedInt", "unsignedShort", "unsignedByte", "nonPositiveInteger",
    "negativeInteger", "float", "double", "duration", "dateTime", "time", "date", "gYearMonth",
    "gYear", "gMonthDay", "gDay", "gMonth", "hexBinary", "base64Binary", "anyURI", "QName",
    "NOTATION"]

def isBuiltin (localName : String) : Bool := names.contains localName

def scope : ScopeId := ⟨0⟩

def kind (localName : String) : Kind :=
  if localName = "anyType" then .complexType else .simpleType

def node (localName : String) : Node :=
  { Node.fresh (kind localName) scope with
    name := some (.inNamespace schemaUri localName)
    isBuiltin := true
    isResolved := true }

def nodes : List Node := names.map node

def entries : List (QName × Definition) :=
  names.zipIdx.map fun entry => (.inNamespace schemaUri entry.1, ⟨⟨entry.2⟩, .once, false⟩)

theorem nodup_entries : (entries.map (·.1)).Nodup := by
  have keys : entries.map (·.1) = names.map fun localName => .inNamespace schemaUri localName := by
    conv => rhs; rw [← List.zipIdx_map_fst 0 names, List.map_map]
    simp only [entries, List.map_map]
    rfl
  rw [keys]
  refine List.Pairwise.map _ ?_ (show names.Nodup by decide)
  intro a b apart same
  exact apart (congrArg QName.localName same)

def table : SymbolTable := ⟨entries, nodup_entries⟩

def scopes : Scopes :=
  ⟨#[{ Scope.bare none none with tables := { SymbolTables.empty with types := table } }]⟩

end XmlSchema.Builtin

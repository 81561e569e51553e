import XmlSchema.Ids
import XmlSchema.Name
import XmlSchema.Occurs
import XmlSchema.Symbols
import XmlSchema.Table

set_option autoImplicit false

namespace XmlSchema

structure Definition where
  target : NodeId
  occurs : Occurs
  inherited : Bool
  deriving DecidableEq, Repr

namespace Definition

/-- The entry of a name after `added` joins the one that is there. -/
def merge (added : Definition) : Option Definition -> Definition
  | none => added
  | some there =>
      match there.inherited, added.inherited with
      | true, false => added
      | false, true => there
      | true, true => { there with occurs := there.occurs + added.occurs }
      | false, false => { there with occurs := there.occurs + added.occurs }

/-- The definition as it is copied through a particle or into a derived type. -/
def copied (definition : Definition) (factor : Occurs) (inherited : Bool) : Definition :=
  ⟨definition.target, definition.occurs * factor, inherited || definition.inherited⟩

end Definition

abbrev SymbolTable := Table QName Definition

namespace SymbolTable

def add (table : SymbolTable) (name : QName) (definition : Definition) : SymbolTable :=
  table.put name definition.merge

def addAll (table : SymbolTable) (entries : List (QName × Definition)) : SymbolTable :=
  entries.foldl (fun table entry => SymbolTable.add table entry.1 entry.2) table

end SymbolTable

structure SymbolTables where
  types : SymbolTable
  elements : SymbolTable
  attributes : SymbolTable
  groups : SymbolTable
  attributeGroups : SymbolTable
  deriving DecidableEq, Repr

namespace SymbolTables

def empty : SymbolTables := ⟨.empty, .empty, .empty, .empty, .empty⟩

instance : Inhabited SymbolTables := ⟨empty⟩

def get (tables : SymbolTables) : Symbols -> SymbolTable
  | .types => tables.types
  | .elements => tables.elements
  | .attributes => tables.attributes
  | .groups => tables.groups
  | .attributeGroups => tables.attributeGroups

def change (tables : SymbolTables) (f : SymbolTable -> SymbolTable) : Symbols -> SymbolTables
  | .types => { tables with types := f tables.types }
  | .elements => { tables with elements := f tables.elements }
  | .attributes => { tables with attributes := f tables.attributes }
  | .groups => { tables with groups := f tables.groups }
  | .attributeGroups => { tables with attributeGroups := f tables.attributeGroups }

@[simp] theorem get_change_self (tables : SymbolTables) (f : SymbolTable -> SymbolTable)
    (kind : Symbols) : (tables.change f kind).get kind = f (tables.get kind) := by
  cases kind <;> rfl

theorem get_change_of_ne (tables : SymbolTables) (f : SymbolTable -> SymbolTable)
    {kind other : Symbols} (apart : other ≠ kind) :
    (tables.change f kind).get other = tables.get other := by
  cases kind <;> cases other <;> first | rfl | exact absurd rfl apart

end SymbolTables

end XmlSchema

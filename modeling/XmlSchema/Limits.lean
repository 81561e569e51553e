set_option autoImplicit false

namespace XmlSchema

structure Limits where
  depth : Nat
  documentSize : Nat
  documents : Nat
  attributes : Nat
  deriving DecidableEq, Repr

namespace Limits

def standard : Limits := ⟨1000, 104857600, 10000, 1000⟩

def strict : Limits := ⟨100, 10485760, 100, 100⟩

def permissive : Limits := ⟨10000, 1073741824, 1000000, 10000⟩

inductive Measure where
  | depth
  | documentSize
  | documents
  | attributes
  deriving DecidableEq, Repr

def Measure.text : Measure -> String
  | .depth => "tag depth"
  | .documentSize => "document size in bytes"
  | .documents => "document count"
  | .attributes => "attribute count"

def maximum (limits : Limits) : Measure -> Nat
  | .depth => limits.depth
  | .documentSize => limits.documentSize
  | .documents => limits.documents
  | .attributes => limits.attributes

structure Exceeded where
  measure : Measure
  value : Nat
  maximum : Nat
  deriving DecidableEq, Repr

def Exceeded.message (exceeded : Exceeded) : String :=
  exceeded.measure.text ++ s!" {exceeded.value} exceeds maximum {exceeded.maximum}"

def check (limits : Limits) (measure : Measure) (value : Nat) : Except Exceeded Unit :=
  if limits.maximum measure < value then .error ⟨measure, value, limits.maximum measure⟩
  else .ok ()

end Limits

end XmlSchema

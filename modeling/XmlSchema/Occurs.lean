import XmlSchema.Count
import XmlSchema.Text.Blank

set_option autoImplicit false

namespace XmlSchema

/-- How often something may occur. Without a `most` there is no upper bound. -/
structure Occurs where
  least : Count
  most : Option Count
  deriving DecidableEq, Repr

namespace Occurs

def once : Occurs := ⟨1, some 1⟩
def optional : Occurs := ⟨0, some 1⟩
def zeroOrMore : Occurs := ⟨0, none⟩
def oneOrMore : Occurs := ⟨1, none⟩
def prohibited : Occurs := ⟨0, some 0⟩

instance : Inhabited Occurs := ⟨once⟩

def isUnbounded (occurs : Occurs) : Bool := occurs.most.isNone

def isEmptiable (occurs : Occurs) : Bool := decide (occurs.least = 0)

def optionalized (occurs : Occurs) : Occurs := ⟨0, occurs.most⟩

@[simp] theorem least_optionalized (occurs : Occurs) : occurs.optionalized.least = 0 := rfl

@[simp] theorem most_optionalized (occurs : Occurs) : occurs.optionalized.most = occurs.most := rfl

def addMost : Option Count -> Option Count -> Option Count
  | some a, some b => some (a + b)
  | _, _ => none

/-- Nothing at all absorbs even an unbounded factor. -/
def mulMost : Option Count -> Option Count -> Option Count
  | some a, some b => some (a * b)
  | some a, none => if a = 0 then some 0 else none
  | none, some b => if b = 0 then some 0 else none
  | none, none => none

instance : Add Occurs := ⟨fun a b => ⟨a.least + b.least, addMost a.most b.most⟩⟩

instance : Mul Occurs := ⟨fun a b => ⟨a.least * b.least, mulMost a.most b.most⟩⟩

@[simp] theorem least_add (a b : Occurs) : (a + b).least = a.least + b.least := rfl

@[simp] theorem most_add (a b : Occurs) : (a + b).most = addMost a.most b.most := rfl

@[simp] theorem least_mul (a b : Occurs) : (a * b).least = a.least * b.least := rfl

@[simp] theorem most_mul (a b : Occurs) : (a * b).most = mulMost a.most b.most := rfl

def WellFormed (occurs : Occurs) : Prop :=
  match occurs.most with
  | some most => occurs.least ≤ most
  | none => True

instance (occurs : Occurs) : Decidable occurs.WellFormed := by
  unfold WellFormed; split <;> infer_instance

def text (occurs : Occurs) : String :=
  match occurs.most with
  | some most => "[" ++ occurs.least.text ++ ".." ++ most.text ++ "]"
  | none => "[" ++ occurs.least.text ++ "..*]"

inductive Fault where
  | least (written : String)
  | most (written : String)
  | crossed (least most : Count)
  deriving DecidableEq, Repr

def Fault.message : Fault -> String
  | .least written => s!"minOccurs '{written}' is not a valid non-negative integer"
  | .most written => s!"maxOccurs '{written}' must be a non-negative integer or 'unbounded'"
  | .crossed low high => s!"maxOccurs {high.val} is less than minOccurs {low.val}"

def readLeast : Option String -> Except Fault Count
  | none => .ok 1
  | some written =>
      match Count.ofText? (Text.trim written) with
      | some low => .ok low
      | none => .error (.least written)

/-- An absent upper bound is one, or the lower bound where that is larger. -/
def readMost (low : Count) : Option String -> Except Fault (Option Count)
  | none => .ok (some (if low ≤ 1 then 1 else low))
  | some written =>
      let written := Text.trim written
      if written = "unbounded" then .ok none
      else
        match Count.ofText? written with
        | none => .error (.most written)
        | some high => if low ≤ high then .ok (some high) else .error (.crossed low high)

def read (lowText highText : Option String) : Except Fault Occurs :=
  match readLeast lowText with
  | .error fault => .error fault
  | .ok low =>
      match readMost low highText with
      | .error fault => .error fault
      | .ok high => .ok ⟨low, high⟩

end Occurs

end XmlSchema

import Mathlib.Algebra.Group.WithOne.Defs
import Mathlib.Algebra.BigOperators.Group.List.Basic
import XmlSchema.Occurs

set_option autoImplicit false

namespace XmlSchema

namespace Count

theorem add_comm (a b : Count) : a + b = b + a := by
  apply ext
  simp only [val_add]
  omega

theorem add_assoc (a b c : Count) : a + b + c = a + (b + c) := by
  apply ext
  simp only [val_add]
  omega

theorem mul_one (a : Count) : a * 1 = a := by
  apply ext
  have bounded := a.le_top
  simp only [val_mul, val_one]
  omega

end Count

namespace Occurs

theorem ext {a b : Occurs} (least : a.least = b.least) (most : a.most = b.most) : a = b := by
  cases a
  cases b
  simp_all

theorem addMost_comm (a b : Option Count) : addMost a b = addMost b a := by
  cases a <;> cases b <;> simp [addMost, Count.add_comm]

theorem addMost_assoc (a b c : Option Count) :
    addMost (addMost a b) c = addMost a (addMost b c) := by
  cases a <;> cases b <;> cases c <;> simp [addMost, Count.add_assoc]

instance : AddCommSemigroup Occurs where
  add_assoc _ _ _ := ext (Count.add_assoc ..) (addMost_assoc ..)
  add_comm _ _ := ext (Count.add_comm ..) (addMost_comm ..)

theorem mul_once (a : Occurs) : a * once = a := by
  refine ext (Count.mul_one a.least) ?_
  cases most : a.most with
  | none => simp [most, once, mulMost, show (1 : Count) ≠ 0 by decide]
  | some limit => simp [most, once, mulMost, Count.mul_one]

end Occurs

abbrev Bounds := WithZero Occurs

namespace Bounds

instance : DecidableEq Bounds := inferInstanceAs (DecidableEq (Option Occurs))

def scale (factor : Occurs) : Bounds -> Bounds
  | none => 0
  | some occurs => (occurs * factor : Occurs)

@[simp] theorem scale_zero (factor : Occurs) : scale factor 0 = 0 := rfl

@[simp] theorem scale_coe (factor occurs : Occurs) :
    scale factor (occurs : Bounds) = (occurs * factor : Occurs) := rfl

theorem scale_once (bounds : Bounds) : scale .once bounds = bounds := by
  cases bounds with
  | none => rfl
  | some occurs => exact congrArg some (Occurs.mul_once occurs)

end Bounds

end XmlSchema

set_option autoImplicit false

namespace XmlSchema

def Count.top : Nat := 4294967295

structure Count where
  val : Nat
  le_top : val ≤ Count.top := by decide
  deriving DecidableEq, Repr

namespace Count

theorem ext {a b : Count} (same : a.val = b.val) : a = b := by
  cases a; cases b; simp_all

def clip (n : Nat) : Count := ⟨min n top, Nat.min_le_right n top⟩

instance (n : Nat) : OfNat Count n := ⟨clip n⟩

instance : Inhabited Count := ⟨0⟩

instance : Add Count := ⟨fun a b => clip (a.val + b.val)⟩

instance : Mul Count := ⟨fun a b => clip (a.val * b.val)⟩

instance : LE Count := ⟨fun a b => a.val ≤ b.val⟩

instance (a b : Count) : Decidable (a ≤ b) := inferInstanceAs (Decidable (a.val ≤ b.val))

@[simp] theorem val_clip (n : Nat) : (clip n).val = min n top := rfl

@[simp] theorem val_add (a b : Count) : (a + b).val = min (a.val + b.val) top := rfl

@[simp] theorem val_mul (a b : Count) : (a * b).val = min (a.val * b.val) top := rfl

@[simp] theorem val_zero : (0 : Count).val = 0 := rfl

@[simp] theorem val_one : (1 : Count).val = 1 := rfl

theorem le_iff (a b : Count) : a ≤ b ↔ a.val ≤ b.val := Iff.rfl

def ofDigits? (digits : List Char) : Option Nat :=
  if digits.isEmpty || !digits.all Char.isDigit then none
  else some (digits.foldl (fun n c => n * 10 + (c.toNat - 48)) 0)

/-- A count is written as ASCII digits, after at most one plus sign. -/
def ofText? (text : String) : Option Count :=
  let digits := match text.toList with
    | '+' :: rest => rest
    | other => other
  match ofDigits? digits with
  | some n => if fits : n ≤ top then some ⟨n, fits⟩ else none
  | none => none

def text (count : Count) : String :=
  toString count.val

end Count

end XmlSchema

import XmlSchema.Model.Basic

set_option autoImplicit false

namespace XmlSchema

namespace Name

theorem isLater_of_mem {chars : List Char} (name : isNcNameChars chars = true) {c : Char}
    (member : c ∈ chars) : isLater c = true := by
  cases chars with
  | nil => cases member
  | cons first rest =>
      simp only [isNcNameChars, Bool.and_eq_true, List.all_eq_true] at name
      rcases List.mem_cons.mp member with rfl | later
      · simp [isLater, name.1]
      · exact name.2 c later

end Name

namespace Text

theorem parts_of_last {mark : Char} {one other rest more : List Char} (last : mark ∉ rest)
    (final : mark ∉ more) (same : one ++ mark :: rest = other ++ mark :: more) :
    one = other ∧ rest = more := by
  -- one part would have to reach beyond the mark of the other
  rcases List.append_eq_append_iff.mp same with ⟨between, rfl, tail⟩ | ⟨between, rfl, tail⟩ <;>
    cases between with
    | nil => simp_all
    | cons c between =>
        simp only [List.cons_append, List.cons.injEq] at tail
        simp_all

end Text

namespace QName

/-- The local part is a name without a colon. -/
def IsProper (name : QName) : Prop := Name.isNcName name.localName = true

variable {one other : QName}

theorem IsProper.not_mem {name : QName} (proper : name.IsProper) {c : Char}
    (outside : Name.isLater c = false) : c ∉ name.localName.toList := by
  intro member
  have later := Name.isLater_of_mem proper member
  rw [outside] at later
  cases later

theorem toList_text (name : QName) :
    name.text.toList = match name.uri with
      | some uri => '\x7b' :: (uri.toList ++ '\x7d' :: name.localName.toList)
      | none => name.localName.toList := by
  unfold text
  split <;> simp_all

theorem IsProper.eq_of_text (proper : one.IsProper) (fit : other.IsProper)
    (same : one.text = other.text) : one = other := by
  have opened {name : QName} (proper : name.IsProper) : '\x7b' ∉ name.localName.toList :=
    proper.not_mem (by decide)
  have closed {name : QName} (proper : name.IsProper) : '\x7d' ∉ name.localName.toList :=
    proper.not_mem (by decide)
  have chars := congrArg String.toList same
  rw [toList_text, toList_text] at chars
  obtain ⟨uri, localName⟩ := one
  obtain ⟨uri', localName'⟩ := other
  cases uri with
  | none =>
      cases uri' with
      | none => rw [String.toList_inj.mp (show localName.toList = localName'.toList from chars)]
      | some uri' => exact absurd (by simp [show localName.toList = _ from chars]) (opened proper)
  | some uri =>
      cases uri' with
      | none => exact absurd (by simp [← show _ = localName'.toList from chars]) (opened fit)
      | some uri' =>
          obtain ⟨spaces, names⟩ :=
            Text.parts_of_last (closed proper) (closed fit) (List.cons.inj chars).2
          rw [String.toList_inj.mp spaces,
            String.toList_inj.mp (show localName.toList = localName'.toList from names)]

/-- No proper name is printed like one that is marked as leading nowhere. -/
theorem IsProper.text_ne_unresolved (proper : other.IsProper) (text : String) :
    "unresolved:" ++ text ≠ other.text := by
  intro same
  have colon : ':' ∉ other.localName.toList := proper.not_mem (by decide)
  have chars := congrArg String.toList same
  rw [toList_text, String.toList_append] at chars
  split at chars
  next => simp at chars
  next => exact absurd (by simp [← chars]) colon

end QName

namespace TypeRef

def IsProper : TypeRef -> Prop
  | .resolved _ => True
  | .unresolved name => name.IsProper

end TypeRef

namespace Node

structure Proper (node : Node) : Prop where
  name : ∀ name, node.name = some name -> name.IsProper
  typeRef : ∀ type, node.typeRef = some type -> type.IsProper
  base : ∀ type, node.base = some type -> type.IsProper
  memberTypes : ∀ type ∈ node.memberTypes, type.IsProper

end Node

namespace Model

def Proper (model : Model) : Prop := ∀ id, (model.node id).Proper

namespace Proper

variable {old new : Model}

theorem congr (proper : old.Proper) (nodes : new.nodes = old.nodes) : new.Proper := by
  intro id
  unfold node
  rw [nodes]
  exact proper id

theorem changeNode (proper : old.Proper) (id : NodeId) {f : Node -> Node}
    (keeps : ∀ node, node.Proper -> (f node).Proper) : (old.changeNode id f).Proper := by
  intro other
  rw [node_changeNode]
  split
  · exact keeps _ (proper other)
  · exact proper other

theorem noted (proper : old.Proper) (id : NodeId) {f : Node -> Node}
    (same : ∀ node, (f node).name = node.name ∧ (f node).typeRef = node.typeRef ∧
      (f node).base = node.base ∧ (f node).memberTypes = node.memberTypes) :
    (old.changeNode id f).Proper := by
  apply proper.changeNode
  intro node fit
  obtain ⟨name, typeRef, base, memberTypes⟩ := same node
  exact ⟨name ▸ fit.name, typeRef ▸ fit.typeRef, base ▸ fit.base, memberTypes ▸ fit.memberTypes⟩

theorem markWildcard (proper : old.Proper) (id : NodeId) {mark : Node -> Node}
    (same : ∀ node, (mark node).name = node.name ∧ (mark node).typeRef = node.typeRef ∧
      (mark node).base = node.base ∧ (mark node).memberTypes = node.memberTypes) :
    (old.markWildcard id mark).Proper := by
  unfold Model.markWildcard
  split
  · exact proper.noted _ same
  · exact proper

end Proper

end Model

end XmlSchema

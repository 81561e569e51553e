import Mathlib.Data.List.Nodup
import Mathlib.Data.Prod.Lex
import Mathlib.Data.String.Basic
import XmlSchema.Document.Reading

set_option autoImplicit false

namespace XmlSchema

/-- No two of the attributes have names that are equal but for case. -/
def Distinct (attributes : List (String × String)) : Prop :=
  (attributes.map fun entry => entry.1.toLower).Nodup

instance (attributes : List (String × String)) : Decidable (Distinct attributes) :=
  inferInstanceAs (Decidable (List.Nodup _))

theorem Distinct.eq {attributes : List (String × String)} (distinct : Distinct attributes)
    {first second : String × String} (one : first ∈ attributes) (two : second ∈ attributes)
    (same : first.1.toLower = second.1.toLower) : first = second :=
  List.inj_on_of_nodup_map distinct one two same

theorem findSome?_perm {α β : Type} {f : α -> Option β} {first second : List α}
    (perm : first.Perm second)
    (alone : ∀ x ∈ first, ∀ y ∈ first, f x ≠ none -> f y ≠ none -> x = y) :
    first.findSome? f = second.findSome? f := by
  induction perm with
  | nil => rfl
  | cons x perm ih =>
    rw [List.findSome?_cons, List.findSome?_cons, ih fun y left z right =>
      alone y (List.mem_cons_of_mem x left) z (List.mem_cons_of_mem x right)]
  | swap x y rest =>
    have same := alone x (by simp) y (by simp)
    cases left : f x <;> cases right : f y <;> simp_all
  | trans before after ihBefore ihAfter =>
    rw [ihBefore alone]
    exact ihAfter fun x left y right =>
      alone x (before.mem_iff.mpr left) y (before.mem_iff.mpr right)

namespace Attributes

variable {attributes rearranged : List (String × String)}

theorem choose_perm (perm : attributes.Perm rearranged) (distinct : Distinct attributes)
    (name : String) : choose attributes name = choose rearranged name := by
  have exactly : attributes.lookup name = rearranged.lookup name := by
    rw [List.lookup_eq_findSome?, List.lookup_eq_findSome?]
    refine findSome?_perm perm fun first one second two left right => distinct.eq one two ?_
    simp only [ne_eq, ite_eq_right_iff, Classical.not_imp, beq_iff_eq] at left right
    rw [← left.1, ← right.1]
  have loosely : (attributes.find? fun entry => entry.1.toLower == name) =
      rearranged.find? fun entry => entry.1.toLower == name := by
    rw [← List.findSome?_guard, ← List.findSome?_guard]
    refine findSome?_perm perm fun first one second two left right => distinct.eq one two ?_
    simp only [ne_eq, Option.guard_eq_none_iff, Bool.not_eq_false, beq_iff_eq] at left right
    rw [left, right]
  rw [choose, choose, exactly, loosely]

theorem keep_perm (perm : attributes.Perm rearranged) (distinct : Distinct attributes)
    (kind : Kind) : keep kind attributes = keep kind rearranged := by
  unfold keep
  simp only [choose_perm perm distinct]

end Attributes

namespace Prefixes

theorem bindInto_comm_of_lt {lower upper : String} (lt : lower < upper) (first second : String)
    (bound : List (String × String)) :
    bindInto upper second (bindInto lower first bound) =
      bindInto lower first (bindInto upper second bound) := by
  have apart : lower ≠ upper := fun same => String.lt_irrefl upper (same ▸ lt)
  have back := String.lt_asymm lt
  -- both go in front of the first entry that is above them, or in the place of their own
  induction bound with
  | nil => simp [bindInto, apart, apart.symm, lt, back]
  | cons entry rest ih =>
    by_cases atLower : entry.1 = lower
    · simp [bindInto, atLower, apart, back]
    by_cases atUpper : entry.1 = upper
    · simp [bindInto, atUpper, apart, apart.symm, lt, back]
    by_cases below : lower < entry.1
    · by_cases under : upper < entry.1 <;>
        simp [bindInto, atLower, atUpper, below, under, apart, apart.symm, lt, back]
    · have further : ¬ upper < entry.1 := fun under => below (String.lt_trans lt under)
      simp [bindInto, atLower, atUpper, below, further, ih]

theorem bindInto_comm {one two : String} (apart : one ≠ two) (first second : String)
    (bound : List (String × String)) :
    bindInto two second (bindInto one first bound) =
      bindInto one first (bindInto two second bound) := by
  rcases lt_or_gt_of_ne apart with lt | gt
  · exact bindInto_comm_of_lt lt first second bound
  · exact (bindInto_comm_of_lt gt second first bound).symm

def Sorted (prefixes : Prefixes) : Prop := prefixes.bound.Pairwise fun one two => one.1 < two.1

theorem mem_bindInto {label uri : String} {bound : List (String × String)}
    {entry : String × String} (member : entry ∈ bindInto label uri bound) :
    entry = (label, uri) ∨ entry ∈ bound := by
  induction bound with
  | nil => simpa [bindInto] using member
  | cons first rest ih =>
    simp only [bindInto] at member
    split at member
    next => exact (List.mem_cons.mp member).imp_right (List.mem_cons_of_mem first)
    next =>
      split at member
      next => exact List.mem_cons.mp member
      next =>
        rcases List.mem_cons.mp member with rfl | later
        · simp
        · exact (ih later).imp_right (List.mem_cons_of_mem first)

theorem sorted_bindInto (label uri : String) {bound : List (String × String)}
    (sorted : bound.Pairwise fun one two => one.1 < two.1) :
    (bindInto label uri bound).Pairwise fun one two => one.1 < two.1 := by
  induction bound with
  | nil => simp [bindInto]
  | cons first rest ih =>
    obtain ⟨below, later⟩ := List.pairwise_cons.mp sorted
    simp only [bindInto]
    split
    next same => exact List.pairwise_cons.mpr ⟨fun other member => same ▸ below other member, later⟩
    next apart =>
      split
      next before =>
        refine List.pairwise_cons.mpr ⟨fun other member => ?_, sorted⟩
        rcases List.mem_cons.mp member with rfl | member
        · exact before
        · exact before.trans (below other member)
      next after =>
        refine List.pairwise_cons.mpr ⟨fun other member => ?_, ih later⟩
        rcases mem_bindInto member with rfl | member
        · exact lt_of_le_of_ne (not_lt.mp after) apart
        · exact below other member

def inOrder (listing : List (String × String)) : List (String × String) :=
  listing.mergeSort fun one two => decide (toLex one ≤ toLex two)

theorem Sorted.inOrder_eq {prefixes : Prefixes} (sorted : prefixes.Sorted)
    {listing : List (String × String)} (perm : listing.Perm prefixes.bound) :
    inOrder listing = prefixes.bound := by
  have ordered : prefixes.bound.Pairwise fun one two => toLex one ≤ toLex two :=
    sorted.imp fun below => (Prod.Lex.toLex_le_toLex ..).mpr (.inl below)
  have trans (one two three : String × String) (first : decide (toLex one ≤ toLex two) = true)
      (second : decide (toLex two ≤ toLex three) = true) :
      decide (toLex one ≤ toLex three) = true := by
    simp only [decide_eq_true_eq] at first second ⊢
    exact first.trans second
  have total (one two : String × String) :
      (decide (toLex one ≤ toLex two) || decide (toLex two ≤ toLex one)) = true := by
    simpa using le_total (toLex one) (toLex two)
  have merged : (inOrder listing).Pairwise fun one two => toLex one ≤ toLex two :=
    (List.pairwise_mergeSort trans total listing).imp of_decide_eq_true
  refine List.Perm.eq_of_pairwise (fun one two _ _ le ge => ?_) merged ordered
    ((List.mergeSort_perm listing _).trans perm)
  exact toLex.injective (le_antisymm le ge)

theorem find_eq_findSome? (label : String) (listing : List (String × String)) :
    find label listing =
      listing.findSome? fun entry => if entry.1 = label then some entry.2 else none := by
  induction listing with
  | nil => rfl
  | cons entry rest ih =>
    by_cases same : entry.1 = label <;> simp [find, same, ih]

theorem Sorted.find_eq {prefixes : Prefixes} (sorted : prefixes.Sorted)
    {listing : List (String × String)} (perm : listing.Perm prefixes.bound) (label : String) :
    find label listing = find label prefixes.bound := by
  have once : (prefixes.bound.map Prod.fst).Nodup :=
    List.pairwise_map.mpr (sorted.imp ne_of_lt)
  rw [find_eq_findSome?, find_eq_findSome?]
  refine (findSome?_perm perm.symm fun one left two right first second => ?_).symm
  simp only [ne_eq, ite_eq_right_iff, Classical.not_imp] at first second
  exact List.inj_on_of_nodup_map once left right (first.1.trans second.1.symm)

end Prefixes

namespace Document

variable {attributes rearranged : List (String × String)}

theorem bindAttribute_cases (entry : String × String) :
    (entry.1 = "xmlns" ∧ ∀ prefixes, bindAttribute prefixes entry = prefixes.withDefault entry.2) ∨
    (∃ label, entry.1 = "xmlns:" ++ label ∧
      ∀ prefixes, bindAttribute prefixes entry = prefixes.bind label entry.2) ∨
    ∀ prefixes, bindAttribute prefixes entry = prefixes := by
  unfold bindAttribute
  by_cases default : entry.1 = "xmlns"
  · exact .inl ⟨default, fun prefixes => if_pos default⟩
  by_cases labelled : entry.1.startsWith "xmlns:" = true
  · refine .inr (.inl ⟨_, ?_, fun prefixes => by rw [if_neg default, if_pos labelled]⟩)
    obtain ⟨label, name⟩ := String.startsWith_string_iff.mp labelled
    have behind : entry.1.toList.drop 6 = label := by
      rw [← name, show 6 = "xmlns:".toList.length from rfl, List.drop_left]
    simpa [behind, ← String.toList_inj] using name.symm
  · exact .inr (.inr fun prefixes => by rw [if_neg default, if_neg labelled])

theorem bindAttribute_comm {one two : String × String} (apart : one.1 ≠ two.1)
    (prefixes : Prefixes) :
    bindAttribute (bindAttribute prefixes one) two =
      bindAttribute (bindAttribute prefixes two) one := by
  rcases bindAttribute_cases one with ⟨name, first⟩ | ⟨label, name, first⟩ | first <;>
    rcases bindAttribute_cases two with ⟨other, second⟩ | ⟨label', other, second⟩ | second <;>
    simp only [first, second]
  · exact absurd (name.trans other.symm) apart
  · rfl
  · rfl
  · have labels : label ≠ label' := fun same => apart (by rw [name, other, same])
    rw [Prefixes.bind, Prefixes.bind, Prefixes.bind, Prefixes.bind, Prefixes.bindInto_comm labels]

theorem sorted_rootPrefixes (adopted : Option String) (attributes : List (String × String)) :
    (rootPrefixes adopted attributes).Sorted := by
  have kept (prefixes : Prefixes) (sorted : prefixes.Sorted) :
      (attributes.foldl bindAttribute prefixes).Sorted := by
    induction attributes generalizing prefixes with
    | nil => exact sorted
    | cons entry rest ih =>
      refine ih _ ?_
      unfold bindAttribute
      split
      next => exact sorted
      next =>
        split
        next => exact Prefixes.sorted_bindInto _ _ sorted
        next => exact sorted
  exact kept .empty .nil

theorem declaredTarget_perm (perm : attributes.Perm rearranged) (distinct : Distinct attributes) :
    declaredTarget attributes = declaredTarget rearranged := by
  refine perm.foldl_eq' (fun one left two right target => ?_) none
  by_cases first : isTargetName one.1 = true
  · by_cases second : isTargetName two.1 = true
    · have same : one = two := distinct.eq left right
        ((eq_of_beq first).trans (eq_of_beq second).symm)
      rw [same]
    · simp [first, second]
  · simp [first]

theorem rootPrefixes_perm (perm : attributes.Perm rearranged) (distinct : Distinct attributes)
    (adopted : Option String) : rootPrefixes adopted attributes = rootPrefixes adopted rearranged := by
  have bound : attributes.foldl bindAttribute Prefixes.empty =
      rearranged.foldl bindAttribute Prefixes.empty := by
    refine perm.foldl_eq' (fun one left two right prefixes => ?_) Prefixes.empty
    -- two attributes of one name are one and the same
    by_cases same : one.1 = two.1
    · rw [distinct.eq left right (congrArg String.toLower same)]
    · exact bindAttribute_comm same prefixes
  rw [rootPrefixes, rootPrefixes, declaredTarget_perm perm distinct, bound]

theorem withRoot_perm (perm : attributes.Perm rearranged) (distinct : Distinct attributes)
    (document : Document) : document.withRoot attributes = document.withRoot rearranged := by
  have declares : declaresTarget attributes = declaresTarget rearranged := perm.any_eq
  unfold withRoot
  rw [rootPrefixes_perm perm distinct, declares]

end Document

namespace Markup

/-- The same at the same line, but for the order of the attributes of a tag that has no two of them
with names that are equal but for case. -/
def Item.Rearranges (first second : Item) : Prop :=
  first.line = second.line ∧ (first.content = second.content ∨
    ∃ name attributes rearranged, first.content = .ok (.opens name attributes) ∧
      second.content = .ok (.opens name rearranged) ∧ attributes.Perm rearranged ∧
        Distinct attributes)

def Scan.Rearranges (first second : Scan) : Prop :=
  List.Forall₂ Item.Rearranges first.items second.items ∧ first.line = second.line

end Markup

namespace Reading

variable {attributes rearranged : List (String × String)}

theorem permits_perm (perm : attributes.Perm rearranged) (limits : Limits) (reading : Reading) :
    permits limits reading attributes = permits limits reading rearranged := by
  rw [permits, permits, perm.length_eq]

theorem openNode_perm (perm : attributes.Perm rearranged) (distinct : Distinct attributes)
    (reading : Reading) (line : Nat) (outer : Frame) (kind : Kind) :
    reading.openNode line attributes outer kind = reading.openNode line rearranged outer kind := by
  unfold openNode
  rw [Attributes.keep_perm perm distinct]

theorem openTag_perm (perm : attributes.Perm rearranged) (distinct : Distinct attributes)
    (limits : Limits) (reading : Reading) (line : Nat) (written : String) :
    reading.openTag limits line written attributes =
      reading.openTag limits line written rearranged := by
  simp only [openTag, permits_perm perm, Document.withRoot_perm perm distinct,
    openNode_perm perm distinct]

theorem step_rearranges {first second : Markup.Item} (same : first.Rearranges second)
    (limits : Limits) (reading : Reading) : reading.step limits first = reading.step limits second := by
  obtain ⟨line, content | ⟨name, attributes, rearranged, one, two, perm, distinct⟩⟩ := same
  · rw [step, step, line, content]
  · rw [step, step, line, one, two]
    exact openTag_perm perm distinct limits reading second.line name

theorem steps_rearranges {first second : List Markup.Item}
    (same : List.Forall₂ Markup.Item.Rearranges first second) (limits : Limits) (reading : Reading) :
    reading.steps limits first = reading.steps limits second := by
  induction same generalizing reading with
  | nil => rfl
  | cons head _ ih => simp only [steps, step_rearranges head, ih]

end Reading

theorem Draft.read_rearranges {first second : List UInt8}
    (same : (Markup.scan first).Rearranges (Markup.scan second)) (limits : Limits) (draft : Draft) :
    draft.read limits first = draft.read limits second := by
  rw [read, read, Reading.steps_rearranges same.1, same.2]

end XmlSchema

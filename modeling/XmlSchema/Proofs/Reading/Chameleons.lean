import Mathlib.Data.List.Induction
import XmlSchema.Proofs.Reading.Header

set_option autoImplicit false

namespace XmlSchema

namespace Document

variable {attributes : List (String × String)}

def targets (attributes : List (String × String)) : List String :=
  (attributes.filter fun entry => isTargetName entry.1).map Prod.snd

/-- The root tag settles the target namespace, whatever namespace is to be adopted. -/
def IsOwn (attributes : List (String × String)) : Prop :=
  ∀ adopted other, (rootPrefixes adopted attributes).targetUri =
    (rootPrefixes other attributes).targetUri

theorem declaredTarget_eq (attributes : List (String × String)) :
    declaredTarget attributes = (targets attributes).getLast? := by
  -- by induction from the end, where the entry that counts stands
  induction attributes using List.reverseRecOn with
  | nil => rfl
  | append_singleton before entry ih =>
    unfold declaredTarget at ih ⊢
    rw [List.foldl_append, ih]
    by_cases named : isTargetName entry.1 = true
    · simp [targets, named]
    · simp [targets, named]

theorem declaresTarget_iff :
    declaresTarget attributes = true ↔ ∃ uri ∈ targets attributes, uri ≠ "" := by
  simp only [declaresTarget, targets, List.any_eq_true, Bool.and_eq_true, bne_iff_ne, List.mem_map,
    List.mem_filter]
  constructor
  · rintro ⟨entry, member, named, full⟩
    exact ⟨entry.2, ⟨entry, ⟨member, named⟩, rfl⟩, full⟩
  · rintro ⟨uri, ⟨entry, ⟨member, named⟩, rfl⟩, full⟩
    exact ⟨entry, member, named, full⟩

theorem targetUri_eq (adopted : Option String) (attributes : List (String × String)) :
    (rootPrefixes adopted attributes).targetUri =
      ((targets attributes).getLast?.filter (· ≠ "")).or (adopted.filter (· ≠ "")) := by
  unfold rootPrefixes
  rw [declaredTarget_eq]
  cases own : (targets attributes).getLast?.filter (· ≠ "") with
  | none => rfl
  | some uri =>
    have full := (Option.filter_eq_some_iff.mp own).2
    have kept : (some uri).filter (· ≠ "") = some uri := Option.filter_eq_some_iff.mpr ⟨rfl, full⟩
    exact kept

theorem isOwn_iff :
    IsOwn attributes ↔ ∃ uri, (targets attributes).getLast? = some uri ∧ uri ≠ "" := by
  constructor
  · intro settled
    cases own : (targets attributes).getLast?.filter (· ≠ "") with
    | none =>
      -- two namespaces that may be adopted tell the difference
      have same := settled none (some "urn:adopted")
      rw [targetUri_eq, targetUri_eq, own] at same
      exact absurd same (by decide)
    | some uri =>
      obtain ⟨last, full⟩ := Option.filter_eq_some_iff.mp own
      exact ⟨uri, last, of_decide_eq_true full⟩
  · rintro ⟨uri, last, full⟩ adopted other
    have own : (targets attributes).getLast?.filter (· ≠ "") = some uri :=
      Option.filter_eq_some_iff.mpr ⟨last, decide_eq_true full⟩
    rw [targetUri_eq, targetUri_eq, own]
    rfl

theorem declaresTarget_iff_isOwn_iff :
    (declaresTarget attributes = true ↔ IsOwn attributes) ↔
      ((targets attributes).getLast? = some "" -> ∀ uri ∈ targets attributes, uri = "") := by
  rw [declaresTarget_iff, isOwn_iff]
  constructor
  · rintro agree last uri member
    refine Decidable.byContradiction fun full => ?_
    obtain ⟨own, same, there⟩ := agree.mp ⟨uri, member, full⟩
    rw [last] at same
    exact there (Option.some.inj same).symm
  · intro empty
    refine ⟨fun ⟨uri, member, full⟩ => ?_, fun ⟨uri, last, full⟩ =>
      ⟨uri, List.mem_of_getLast? last, full⟩⟩
    obtain ⟨own, last⟩ := Option.isSome_iff_exists.mp
      (List.getLast?_isSome.mpr (List.ne_nil_of_mem member))
    refine ⟨own, last, ?_⟩
    rintro rfl
    exact full (empty last uri member)

theorem read_marked {draft : Draft} (unread : draft.document.prefixes = none) (limits : Limits)
    (bytes : List UInt8)
    (root : Reading.rootOf limits (Markup.scan bytes).items = some attributes) :
    (draft.read limits bytes).state.document.isChameleon = !declaresTarget attributes ∧
      (draft.read limits bytes).state.document.targetUri =
        (rootPrefixes draft.document.adopted attributes).targetUri := by
  have header := Draft.header_read unread limits bytes
  rw [root] at header
  have titled : draft.document.withRoot attributes =
      { draft.document with
        prefixes := some (rootPrefixes draft.document.adopted attributes)
        isChameleon := !declaresTarget attributes } := by
    unfold withRoot
    rw [unread]
  have marked : (draft.document.withRoot attributes).isChameleon = !declaresTarget attributes := by
    rw [titled]
  have lives : (draft.document.withRoot attributes).targetUri =
      (rootPrefixes draft.document.adopted attributes).targetUri := by
    rw [titled]
    rfl
  exact ⟨(congrArg Document.isChameleon header :).trans marked,
    (congrArg Document.targetUri header :).trans lives⟩

/-- A document that is marked as having no target namespace of its own lives in the one that it is asked
to adopt, and one whose last target namespace is not empty has that one and no mark. The mark tells
whether the adopted namespace counts, but for a root tag whose last target namespace is empty while
another one is not: such a document lives in the adopted namespace and is not marked. -/
theorem chameleon_mark (attributes : List (String × String)) :
    (IsOwn attributes ↔ ∃ uri, (targets attributes).getLast? = some uri ∧ uri ≠ "") ∧
    (declaresTarget attributes = false ->
      ∀ adopted, (rootPrefixes adopted attributes).targetUri = adopted.filter (· ≠ "")) ∧
    ((declaresTarget attributes = true ↔ IsOwn attributes) ↔
      ((targets attributes).getLast? = some "" -> ∀ uri ∈ targets attributes, uri = "")) ∧
    ∀ (draft : Draft) (limits : Limits) (bytes : List UInt8), draft.document.prefixes = none ->
      Reading.rootOf limits (Markup.scan bytes).items = some attributes ->
        (draft.read limits bytes).state.document.isChameleon = !declaresTarget attributes ∧
          (draft.read limits bytes).state.document.targetUri =
            ((targets attributes).getLast?.filter (· ≠ "")).or
              (draft.document.adopted.filter (· ≠ "")) := by
  refine ⟨isOwn_iff, fun silent adopted => targetUri_rootPrefixes adopted silent,
    declaresTarget_iff_isOwn_iff, fun draft limits bytes unread root => ?_⟩
  rw [← targetUri_eq]
  exact read_marked unread limits bytes root

theorem chameleon_mark_last :
    let bytes := Utf8.encode
      "<x:schema xmlns:x=\"http://www.w3.org/2001/XMLSchema\" targetNamespace=\"\" TARGETNAMESPACE=\"urn:d\"/>"
    let draft : Draft := ⟨.empty, .fresh default default (some "urn:m")⟩
    (draft.read .standard bytes).state.document.isChameleon = false ∧
      (draft.read .standard bytes).state.document.targetUri = some "urn:d" := by
  intro bytes draft
  have root : Reading.rootOf .standard (Markup.scan bytes).items =
      some [("xmlns:x", schemaUri), ("targetNamespace", ""), ("TARGETNAMESPACE", "urn:d")] := by
    decide +kernel
  obtain ⟨marked, lives⟩ := (chameleon_mark _).2.2.2 draft .standard bytes rfl root
  exact ⟨marked.trans (by decide +kernel), lives.trans (by decide +kernel)⟩

theorem not_isOwn_emptied :
    declaresTarget [("targetNamespace", "urn:d"), ("TARGETNAMESPACE", "")] = true ∧
      ¬ IsOwn [("targetNamespace", "urn:d"), ("TARGETNAMESPACE", "")] := by
  have targets : targets [("targetNamespace", "urn:d"), ("TARGETNAMESPACE", "")] = ["urn:d", ""] := by
    decide +kernel
  rw [declaresTarget_iff, isOwn_iff, targets]
  exact ⟨⟨"urn:d", by simp, by decide⟩, by simp⟩

end Document

end XmlSchema

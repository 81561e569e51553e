import Mathlib.Algebra.Ring.Defs
import XmlSchema.Proofs.Bounded
import XmlSchema.Proofs.Inlining

set_option autoImplicit false

namespace XmlSchema

namespace Count

theorem clip_add_clip (m n : Nat) : clip m + clip n = clip (m + n) := by
  apply ext
  simp only [val_add, val_clip]
  omega

theorem clip_mul_clip (m n : Nat) : clip m * clip n = clip (m * n) := by
  apply ext
  simp only [val_mul, val_clip]
  by_cases zero : m = 0 ∨ n = 0
  · rcases zero with rfl | rfl <;> simp
  -- a factor that is cut off leaves at least the top, as the other factor is at least one
  · have first := Nat.mul_le_mul (Nat.le_refl (min m top)) (show 1 ≤ min n top by unfold top; omega)
    have second := Nat.mul_le_mul (show 1 ≤ min m top by unfold top; omega) (Nat.le_refl (min n top))
    have whole := Nat.mul_le_mul (Nat.min_le_left m top) (Nat.min_le_left n top)
    by_cases low : m ≤ top ∧ n ≤ top
    · rw [Nat.min_eq_left low.1, Nat.min_eq_left low.2]
    · omega

theorem clip_val (a : Count) : clip a.val = a := by
  apply ext
  have bounded := a.le_top
  simp only [val_clip]
  omega

theorem mul_comm (a b : Count) : a * b = b * a := by
  apply ext
  simp only [val_mul, Nat.mul_comm]

theorem mul_assoc (a b c : Count) : a * b * c = a * (b * c) := by
  rw [← clip_val a, ← clip_val b, ← clip_val c]
  simp only [clip_mul_clip, Nat.mul_assoc]

theorem mul_add (a b c : Count) : a * (b + c) = a * b + a * c := by
  rw [← clip_val a, ← clip_val b, ← clip_val c]
  simp only [clip_mul_clip, clip_add_clip, Nat.mul_add]

theorem zero_add (a : Count) : 0 + a = a := by
  apply ext
  have bounded := a.le_top
  simp only [val_add, val_zero]
  omega

theorem mul_eq_zero {a b : Count} : a * b = 0 ↔ a = 0 ∨ b = 0 := by
  constructor
  · intro nothing
    have value := congrArg val nothing
    simp only [val_mul, val_zero] at value
    have product : a.val * b.val = 0 := by unfold top at value; omega
    exact (Nat.mul_eq_zero.mp product).imp (fun zero => ext zero) fun zero => ext zero
  · rintro (rfl | rfl)
    · exact zero_mul b
    · exact mul_zero a

theorem add_eq_zero {a b : Count} : a + b = 0 ↔ a = 0 ∧ b = 0 := by
  constructor
  · intro nothing
    have value := congrArg val nothing
    simp only [val_add, val_zero] at value
    unfold top at value
    exact ⟨ext (show a.val = 0 by omega), ext (show b.val = 0 by omega)⟩
  · rintro ⟨rfl, rfl⟩
    rfl

end Count

namespace Occurs

theorem mulMost_comm (a b : Option Count) : mulMost a b = mulMost b a := by
  cases a <;> cases b <;> simp [mulMost, Count.mul_comm]

theorem mulMost_zero (a : Option Count) : mulMost a (some 0) = some 0 := by
  cases a <;> simp [mulMost, Count.mul_zero]

theorem mulMost_assoc (a b c : Option Count) :
    mulMost (mulMost a b) c = mulMost a (mulMost b c) := by
  cases a <;> cases b <;> cases c <;>
    grind [mulMost, Count.mul_assoc, Count.mul_eq_zero, Count.mul_zero, Count.zero_mul]

theorem mulMost_addMost (a b c : Option Count) :
    mulMost a (addMost b c) = addMost (mulMost a b) (mulMost a c) := by
  cases a <;> cases b <;> cases c <;>
    grind [mulMost, addMost, Count.mul_add, Count.add_eq_zero, Count.zero_add, Count.mul_zero,
      Count.zero_mul]

theorem prohibited_add (a : Occurs) : prohibited + a = a := by
  refine ext (Count.zero_add a.least) ?_
  cases most : a.most <;> simp [most, prohibited, addMost, Count.zero_add]

theorem mul_comm (a b : Occurs) : a * b = b * a :=
  ext (Count.mul_comm ..) (mulMost_comm ..)

theorem mul_prohibited (a : Occurs) : a * prohibited = prohibited :=
  ext (Count.mul_zero a.least) (mulMost_zero a.most)

theorem mul_add (a b c : Occurs) : a * (b + c) = a * b + a * c :=
  ext (Count.mul_add ..) (mulMost_addMost ..)

instance : Zero Occurs := ⟨prohibited⟩

instance : One Occurs := ⟨once⟩

instance : CommSemiring Occurs where
  zero_add := prohibited_add
  add_zero a := (add_comm a prohibited).trans (prohibited_add a)
  nsmul := nsmulRec
  mul_comm := mul_comm
  mul_assoc _ _ _ := ext (Count.mul_assoc ..) (mulMost_assoc ..)
  one_mul a := (mul_comm once a).trans (mul_once a)
  mul_one := mul_once
  zero_mul a := (mul_comm prohibited a).trans (mul_prohibited a)
  mul_zero := mul_prohibited
  left_distrib := mul_add
  right_distrib a b c := by
    rw [mul_comm, mul_add, mul_comm c a, mul_comm c b]

theorem optionalized_mul (a b : Occurs) : (a * b).optionalized = a.optionalized * b :=
  ext (Count.zero_mul b.least).symm rfl

theorem optionalized_add (a b : Occurs) : (a + b).optionalized = a.optionalized + b.optionalized :=
  ext (Count.zero_add 0).symm rfl

end Occurs

namespace Bounds

theorem scale_add (factor : Occurs) (a b : Bounds) :
    scale factor (a + b) = scale factor a + scale factor b := by
  cases a with
  | none =>
    show scale factor (0 + b) = 0 + scale factor b
    rw [zero_add, zero_add]
  | some a =>
    cases b with
    | none => rfl
    | some b => exact congrArg some (add_mul a b factor)

end Bounds

/-- What stands in a body, in order: declarations of names, and particles with bodies of their own. -/
inductive Particles where
  | nothing
  | declares (name : QName) (target : NodeId) (occurs : Occurs) (rest : Particles)
  | repeats (factor : Occurs) (inner rest : Particles)
  deriving DecidableEq, Repr

namespace Particles

/-- The declarations in a body at any depth, each with the product of the bounds on the way to it. -/
def leaves : Particles -> List (QName × Occurs)
  | .nothing => []
  | .declares name _ occurs rest => (name, occurs) :: rest.leaves
  | .repeats factor inner rest =>
      (inner.leaves.map fun leaf => (leaf.1, leaf.2 * factor)) ++ rest.leaves

def total (name : QName) (leaves : List (QName × Occurs)) : Bounds :=
  (leaves.map fun leaf => if leaf.1 = name then (leaf.2 : Bounds) else 0).sum

theorem total_append (name : QName) (first second : List (QName × Occurs)) :
    total name (first ++ second) = total name first + total name second := by
  simp [total]

theorem total_repeated (name : QName) (factor : Occurs) (leaves : List (QName × Occurs)) :
    total name (leaves.map fun leaf => (leaf.1, leaf.2 * factor)) =
      Bounds.scale factor (total name leaves) := by
  induction leaves with
  | nil => rfl
  | cons leaf rest ih =>
    unfold total at ih ⊢
    simp only [List.map_cons, List.sum_cons, ih, Bounds.scale_add]
    split <;> simp

theorem total_perm {first second : List (QName × Occurs)} (same : first.Perm second)
    (name : QName) : total name first = total name second :=
  (same.map _).sum_eq

end Particles

namespace SymbolTable

@[simp] theorem own_empty (name : QName) : own .empty name = 0 := rfl

theorem own_addAll_copied (table source : SymbolTable) (factor : Occurs) (name : QName) :
    (table.addAll (source.entries.map fun entry => (entry.1, entry.2.copied factor false))).own name =
      table.own name + Bounds.scale factor (source.own name) := by
  have keys : (source.entries.map fun entry =>
      (entry.1, entry.2.copied factor false)).map (·.1) = source.keys := by
    simp [Table.keys]
  have joined : (table.addAll (source.entries.map fun entry =>
      (entry.1, entry.2.copied factor false))).get? name =
        Definition.join ((source.get? name).map fun definition => definition.copied factor false)
          (table.get? name) := by
    rw [get?_addAll table (keys ▸ source.nodup_keys),
      find_map fun definition => definition.copied factor false]
    rfl
  rw [own, joined, Definition.own_join, Definition.own_copied]
  rfl

end SymbolTable

namespace Scopes

variable {scopes : Scopes} {kind : Symbols} {into : ScopeId}

/-- Builds the body `into` as it stands: each tag gets a body of its own, a declaration goes to where
its tag stands, and so does the body of a particle, by the bounds of the particle. -/
def fill (kind : Symbols) (into : ScopeId) (scopes : Scopes) : Particles -> Scopes
  | .nothing => scopes
  | .declares name target occurs rest =>
      fill kind into ((scopes.createChild into).define scopes.next kind name target occurs) rest
  | .repeats factor inner rest =>
      fill kind into ((fill kind scopes.next (scopes.createChild into) inner).inlineIntoParent
        scopes.next kind factor scopes.next) rest

structure Aside (into : ScopeId) (old new : Scopes) : Prop where
  size : old.size ≤ new.size
  parent : ∀ id : ScopeId, id.index < old.size -> (new.get id).parent = (old.get id).parent
  table : ∀ id : ScopeId, id.index < old.size -> id ≠ into ->
    ∀ kind, new.table id kind = old.table id kind

namespace Aside

theorem refl (into : ScopeId) (scopes : Scopes) : Aside into scopes scopes :=
  ⟨Nat.le_refl _, fun _ _ => rfl, fun _ _ _ _ => rfl⟩

theorem trans {one two three : Scopes} (first : Aside into one two) (second : Aside into two three) :
    Aside into one three where
  size := Nat.le_trans first.size second.size
  parent id inside :=
    (second.parent id (Nat.lt_of_lt_of_le inside first.size)).trans (first.parent id inside)
  table id inside apart kind :=
    (second.table id (Nat.lt_of_lt_of_le inside first.size) apart kind).trans
      (first.table id inside apart kind)

theorem createChild (scopes : Scopes) (into parent : ScopeId) :
    Aside into scopes (scopes.createChild parent) where
  size := by simp [Scopes.createChild]
  parent id inside := parent_create_of_lt scopes _ _ inside
  table id inside apart kind := table_create ..

theorem changeTable (scopes : Scopes) (into : ScopeId) (kind : Symbols)
    (f : SymbolTable -> SymbolTable) : Aside into scopes (scopes.changeTable into kind f) where
  size := by simp
  parent id inside := parent_changeTable ..
  table id inside apart among := table_changeTable_of_ne scopes f (.inl apart)

theorem within {one two three : Scopes} {inner : ScopeId} (first : Aside into one two)
    (later : one.size ≤ inner.index) (second : Aside inner two three) : Aside into one three where
  size := Nat.le_trans first.size second.size
  parent id inside :=
    (second.parent id (Nat.lt_of_lt_of_le inside first.size)).trans (first.parent id inside)
  table id inside apart kind := by
    have other : id ≠ inner := by rintro rfl; omega
    rw [second.table id (Nat.lt_of_lt_of_le inside first.size) other, first.table id inside apart]

end Aside

theorem surrounding_createChild (scopes : Scopes) (into : ScopeId) :
    (scopes.createChild into).surrounding scopes.next = into := by
  simp [surrounding, createChild, parent_create_next]

theorem table_createChild_next (scopes : Scopes) (into : ScopeId) (kind : Symbols) :
    (scopes.createChild into).table scopes.next kind = .empty := by
  rw [createChild, table_create, table,
    get_of_size_le scopes (show scopes.size ≤ scopes.next.index from Nat.le_refl _)]
  cases kind <;> rfl

theorem next_createChild (scopes : Scopes) (into : ScopeId) :
    scopes.next.index < (scopes.createChild into).size := by
  simp [createChild, next]

theorem aside_declares (scopes : Scopes) (into : ScopeId) (kind : Symbols) (name : QName)
    (target : NodeId) (occurs : Occurs) :
    Aside into scopes ((scopes.createChild into).define scopes.next kind name target occurs) := by
  rw [define, surrounding_createChild]
  exact (Aside.createChild scopes into into).trans (Aside.changeTable ..)

theorem inlineIntoParent_fill {inner : Particles}
    (filled : Aside scopes.next (scopes.createChild into)
      (fill kind scopes.next (scopes.createChild into) inner)) (factor : Occurs) :
    (fill kind scopes.next (scopes.createChild into) inner).inlineIntoParent scopes.next kind factor
        scopes.next =
      (fill kind scopes.next (scopes.createChild into) inner).inlineInto into kind factor scopes.next
        false := by
  have stands := (filled.parent scopes.next (next_createChild scopes into)).trans
    (parent_create_next scopes (some into) (scopes.get into).home)
  simp [inlineIntoParent, stands]

theorem aside_repeats {inner : Particles}
    (filled : Aside scopes.next (scopes.createChild into)
      (fill kind scopes.next (scopes.createChild into) inner)) (factor : Occurs) :
    Aside into scopes
      ((fill kind scopes.next (scopes.createChild into) inner).inlineIntoParent scopes.next kind
        factor scopes.next) := by
  rw [inlineIntoParent_fill filled]
  exact ((Aside.createChild scopes into into).within (Nat.le_refl _) filled).trans
    (Aside.changeTable ..)

theorem aside_fill (kind : Symbols) (parts : Particles) (inside : into.index < scopes.size) :
    Aside into scopes (scopes.fill kind into parts) := by
  induction parts generalizing scopes into with
  | nothing => exact Aside.refl into scopes
  | declares name target occurs rest ih =>
    have first := aside_declares scopes into kind name target occurs
    exact first.trans (ih (Nat.lt_of_lt_of_le inside first.size))
  | repeats factor inner rest inner_ih ih =>
    have first := aside_repeats (inner_ih (next_createChild scopes into)) factor
    exact first.trans (ih (Nat.lt_of_lt_of_le inside first.size))

theorem table_declares (inside : into.index < scopes.size) (name : QName) (target : NodeId)
    (occurs : Occurs) :
    ((scopes.createChild into).define scopes.next kind name target occurs).table into kind =
      (scopes.table into kind).add name ⟨target, occurs, false⟩ := by
  have opened := (Aside.createChild scopes into into).size
  rw [define, surrounding_createChild, add,
    table_changeTable_self _ _ _ (Nat.lt_of_lt_of_le inside opened), createChild, table_create]

theorem table_repeats (inside : into.index < scopes.size) (factor : Occurs) (inner : Particles) :
    ((fill kind scopes.next (scopes.createChild into) inner).inlineIntoParent scopes.next kind factor
        scopes.next).table into kind =
      (scopes.table into kind).addAll
        (((fill kind scopes.next (scopes.createChild into) inner).table scopes.next kind).entries.map
          fun entry => (entry.1, entry.2.copied factor false)) := by
  have filled : Aside scopes.next _ (fill kind scopes.next _ inner) :=
    aside_fill kind inner (next_createChild scopes into)
  have apart : into ≠ scopes.next := fun same => by
    rw [same] at inside
    exact Nat.lt_irrefl _ inside
  have built := (Aside.createChild scopes scopes.next into).trans filled
  rw [inlineIntoParent_fill filled, inlineInto,
    table_changeTable_self _ _ _ (Nat.lt_of_lt_of_le inside built.size),
    built.table into inside apart]

/-- A body holds each name by the products of the bounds on the way to its declarations, summed up. -/
theorem own_fill (parts : Particles) (inside : into.index < scopes.size) (name : QName) :
    ((scopes.fill kind into parts).table into kind).own name =
      (scopes.table into kind).own name + Particles.total name parts.leaves := by
  induction parts generalizing scopes into with
  | nothing => exact (add_zero _).symm
  | declares declared target occurs rest ih =>
    have first := aside_declares scopes into kind declared target occurs
    rw [fill, ih (Nat.lt_of_lt_of_le inside first.size), table_declares inside, SymbolTable.own_add,
      add_assoc]
    simp [Particles.leaves, Particles.total, Definition.own, eq_comm]
  | repeats factor inner rest inner_ih ih =>
    have fresh := next_createChild scopes into
    have first := aside_repeats (aside_fill kind inner fresh) factor
    -- the particle's body starts out empty, so it ends with what stands in the particle
    have body := inner_ih fresh
    rw [table_createChild_next, SymbolTable.own_empty, zero_add] at body
    rw [fill, ih (Nat.lt_of_lt_of_le inside first.size), table_repeats inside,
      SymbolTable.own_addAll_copied, body, Particles.leaves, Particles.total_append,
      Particles.total_repeated, add_assoc]

end Scopes

/-- Bounds are a commutative semiring, in which nothing at all is zero and exactly once is one, and to
drop what is required of a factor is to drop it of the product. So whatever stands in a body, what it
holds of a name is the same for all arrangements of the particles in which the products of the bounds
on the way to the declarations are the same ones. -/
theorem Occurs.semiring_fill :
    ((∀ a b : Occurs, a + b = b + a) ∧ (∀ a b c : Occurs, a + b + c = a + (b + c)) ∧
      ∀ a : Occurs, a + prohibited = a) ∧
    ((∀ a b : Occurs, a * b = b * a) ∧ (∀ a b c : Occurs, a * b * c = a * (b * c)) ∧
      (∀ a : Occurs, a * once = a) ∧ ∀ a : Occurs, a * prohibited = prohibited) ∧
    (∀ a b c : Occurs, a * (b + c) = a * b + a * c) ∧
    (∀ a b : Occurs, (a * b).optionalized = a.optionalized * b ∧
      (a + b).optionalized = a.optionalized + b.optionalized) ∧
    ∀ (scopes : Scopes) (kind : Symbols) (into : ScopeId), into.index < scopes.size ->
      ∀ one other : Particles, one.leaves.Perm other.leaves -> ∀ name,
        ((scopes.fill kind into one).table into kind).own name =
          ((scopes.fill kind into other).table into kind).own name := by
  refine ⟨⟨add_comm, add_assoc, add_zero⟩, ⟨mul_comm, mul_assoc, mul_one, mul_zero⟩,
    mul_add, fun a b => ⟨optionalized_mul a b, optionalized_add a b⟩, ?_⟩
  intro scopes kind into inside one other rearranged name
  rw [Scopes.own_fill one inside, Scopes.own_fill other inside,
    Particles.total_perm rearranged name]

/-- A repeated sequence of an optional choice around `a` and of `b`, which occurs up to the top. -/
def Particles.grouped : Particles :=
  .repeats ⟨2, none⟩
    (.repeats ⟨0, some 3⟩ (.declares (.unqualified "a") ⟨1⟩ .once .nothing)
      (.declares (.unqualified "b") ⟨2⟩ ⟨1, some (.clip Count.top)⟩ .nothing))
    .nothing

/-- The same declarations, `b` first and each in a particle of its own. -/
def Particles.regrouped : Particles :=
  .repeats ⟨2, none⟩ (.declares (.unqualified "b") ⟨2⟩ ⟨1, some (.clip Count.top)⟩ .nothing)
    (.repeats ⟨0, none⟩ (.declares (.unqualified "a") ⟨1⟩ .once .nothing) .nothing)

theorem Occurs.semiring_fill_regrouped :
    (0 : Nat) < (Scopes.empty.create none none).size ∧
      Particles.grouped.leaves.Perm Particles.regrouped.leaves ∧
      ∀ name, (((Scopes.empty.create none none).fill .elements ⟨0⟩ .grouped).table ⟨0⟩ .elements).own
          name =
        (((Scopes.empty.create none none).fill .elements ⟨0⟩ .regrouped).table ⟨0⟩ .elements).own
          name := by
  have inside : (⟨0⟩ : ScopeId).index < (Scopes.empty.create none none).size := by decide
  have rearranged : Particles.grouped.leaves.Perm Particles.regrouped.leaves := by
    have first : Particles.grouped.leaves =
        [(.unqualified "a", ⟨0, none⟩), (.unqualified "b", ⟨2, none⟩)] := by decide
    have second : Particles.regrouped.leaves =
        [(.unqualified "b", ⟨2, none⟩), (.unqualified "a", ⟨0, none⟩)] := by decide
    rw [first, second]
    exact .swap ..
  exact ⟨inside, rearranged,
    semiring_fill.2.2.2.2 _ .elements ⟨0⟩ inside .grouped .regrouped rearranged⟩

end XmlSchema

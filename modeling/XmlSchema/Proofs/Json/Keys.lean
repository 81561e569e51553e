import Mathlib.Data.List.Forall2
import XmlSchema.Json

set_option autoImplicit false

namespace XmlSchema

namespace Json

/-- Two values are alike to a reader who finds fields by their keys. -/
inductive Agrees : Json -> Json -> Prop where
  | null : Agrees .null .null
  | bool (value : Bool) : Agrees (.bool value) (.bool value)
  | number (value : Nat) : Agrees (.number value) (.number value)
  | text (value : String) : Agrees (.text value) (.text value)
  | list {items others : List Json} (agrees : List.Forall₂ Agrees items others) :
      Agrees (.list items) (.list others)
  | object {fields others : List (String × Json)}
      (agrees : ∀ key, Option.Rel Agrees (fields.lookup key) (others.lookup key)) :
      Agrees (.object fields) (.object others)

inductive Distinct : Json -> Prop where
  | null : Distinct .null
  | bool (value : Bool) : Distinct (.bool value)
  | number (value : Nat) : Distinct (.number value)
  | text (value : String) : Distinct (.text value)
  | list {items : List Json} (distinct : ∀ item ∈ items, Distinct item) : Distinct (.list items)
  | object {fields : List (String × Json)} (keys : (fields.map Prod.fst).Nodup)
      (distinct : ∀ field ∈ fields, Distinct field.2) : Distinct (.object fields)

mutual

theorem Agrees.refl (json : Json) : json.Agrees json := by
  match json with
  | .null => exact .null
  | .bool value => exact .bool value
  | .number value => exact .number value
  | .text value => exact .text value
  | .list items => exact .list (forall₂_agrees items)
  | .object fields => exact .object (lookup_agrees fields)

theorem forall₂_agrees (items : List Json) : List.Forall₂ Agrees items items := by
  match items with
  | [] => exact .nil
  | item :: items => exact .cons (Agrees.refl item) (forall₂_agrees items)

theorem lookup_agrees (fields : List (String × Json)) (key : String) :
    Option.Rel Agrees (fields.lookup key) (fields.lookup key) := by
  match fields with
  | [] => exact .none
  | (other, value) :: fields =>
      rw [List.lookup_cons]
      split
      next => exact .some (Agrees.refl value)
      next => exact lookup_agrees fields key

end

@[simp] theorem agrees_bool {value other : Bool} :
    (Json.bool value).Agrees (.bool other) ↔ value = other := by
  constructor
  · intro agrees
    cases agrees
    rfl
  · rintro rfl
    exact .bool value

@[simp] theorem agrees_number {value other : Nat} :
    (Json.number value).Agrees (.number other) ↔ value = other := by
  constructor
  · intro agrees
    cases agrees
    rfl
  · rintro rfl
    exact .number value

@[simp] theorem agrees_text {value other : String} :
    (Json.text value).Agrees (.text other) ↔ value = other := by
  constructor
  · intro agrees
    cases agrees
    rfl
  · rintro rfl
    exact .text value

@[simp] theorem agrees_list {items others : List Json} :
    (Json.list items).Agrees (.list others) ↔ List.Forall₂ Agrees items others := by
  constructor
  · intro agrees
    cases agrees with
    | list agrees => exact agrees
  · exact .list

@[simp] theorem agrees_object {fields others : List (String × Json)} :
    (Json.object fields).Agrees (.object others) ↔
      ∀ key, Option.Rel Agrees (fields.lookup key) (others.lookup key) := by
  constructor
  · intro agrees
    cases agrees with
    | object agrees => exact agrees
  · exact .object

def written (table : List (String × Option Json)) : List (String × Json) :=
  table.filterMap fun row => row.2.map fun value => (row.1, value)

@[simp] theorem written_nil : written [] = [] := rfl

theorem written_cons (key : String) (value : Option Json) (table : List (String × Option Json)) :
    written ((key, value) :: table) =
      (value.map fun value => (key, value)).toList ++ written table := by
  cases value <;> rfl

theorem keys_written_sublist (table : List (String × Option Json)) :
    ((written table).map Prod.fst).Sublist (table.map Prod.fst) := by
  induction table with
  | nil => exact List.Sublist.slnil
  | cons row table ih =>
      obtain ⟨key, value⟩ := row
      cases value with
      | none => exact ih.cons key
      | some value => exact ih.cons_cons key

theorem distinct_written {table : List (String × Option Json)} (keys : (table.map Prod.fst).Nodup)
    (values : ∀ row ∈ table, ∀ value, row.2 = some value -> value.Distinct) :
    (Json.object (written table)).Distinct := by
  apply Distinct.object
  · exact keys.sublist (keys_written_sublist table)
  · intro field member
    obtain ⟨row, within, found⟩ := List.mem_filterMap.mp member
    obtain ⟨value, stored, rfl⟩ := Option.map_eq_some_iff.mp found
    exact values row within value stored

theorem lookup_written_of_absent {table : List (String × Option Json)} {key : String}
    (absent : key ∉ table.map Prod.fst) : (written table).lookup key = none := by
  rw [List.lookup_eq_none_iff]
  intro field member
  apply bne_iff_ne.mpr
  rintro rfl
  exact absent ((keys_written_sublist table).subset (List.mem_map_of_mem member))

theorem lookup_written_cons (key wanted : String) (value : Option Json)
    (table : List (String × Option Json)) (absent : key ∉ table.map Prod.fst) :
    (written ((key, value) :: table)).lookup wanted =
      if wanted = key then value else (written table).lookup wanted := by
  rw [written_cons]
  cases value with
  | none =>
      split
      next same => simpa [same] using lookup_written_of_absent absent
      next => rfl
  | some value =>
      by_cases same : wanted = key
      · simp [same]
      · have other : (wanted == key) = false := beq_false_of_ne same
        simp [List.lookup_cons, same, other]

theorem agrees_written {table other : List (String × Option Json)}
    (same : table.map Prod.fst = other.map Prod.fst) (distinct : (table.map Prod.fst).Nodup) :
    (Json.object (written table)).Agrees (.object (written other)) ↔
      List.Forall₂ (Option.Rel Agrees) (table.map Prod.snd) (other.map Prod.snd) := by
  rw [agrees_object]
  induction table generalizing other with
  | nil =>
      cases other with
      | nil => exact ⟨fun _ => .nil, fun _ _ => .none⟩
      | cons => cases same
  | cons row table ih =>
      cases other with
      | nil => cases same
      | cons counterpart other =>
          obtain ⟨key, value⟩ := row
          obtain ⟨_, second⟩ := counterpart
          simp only [List.map_cons, List.cons.injEq] at same
          obtain ⟨rfl, same⟩ := same
          obtain ⟨absent, distinct⟩ := List.nodup_cons.mp distinct
          have missing : key ∉ other.map Prod.fst := same ▸ absent
          simp only [List.map_cons, List.forall₂_cons, ← ih same distinct,
            lookup_written_cons key _ _ _ absent, lookup_written_cons key _ _ _ missing]
          constructor
          · intro agrees
            refine ⟨by simpa using agrees key, fun wanted => ?_⟩
            by_cases mine : wanted = key
            · -- The rows that follow have this key in neither table.
              subst mine
              rw [lookup_written_of_absent absent, lookup_written_of_absent missing]
              exact .none
            · simpa [mine] using agrees wanted
          · rintro ⟨first, others⟩ wanted
            split
            next => exact first
            next => exact others wanted

end Json

end XmlSchema
